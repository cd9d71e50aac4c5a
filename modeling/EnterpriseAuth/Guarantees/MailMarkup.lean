import EnterpriseAuth.Services.EmailTemplates
import EnterpriseAuth.Effects.Markup

/-!
# Markup in the mails

The templates splice names, addresses and header values into HTML as they are.  The tags of a mail
are those of its template exactly when no spliced text opens a tag.
-/

namespace EnterpriseAuth

open Effects

namespace EmailTemplates

variable (settings : MailSettings)

/-- The tags of the HTML body, from left to right. -/
def tagsOf (message : EmailMessage) : List (List Char) := Markup.tags message.html.toList

/-- Somewhere in the text stands a `<` with a letter, `/`, `!` or `?` behind it. -/
def opensTag (text : String) : Bool := Markup.opensTag text.toList

def alphanumeric (text : String) : Bool := text.toList.all Char.isAlphanum

theorem opensTag_of_alphanumeric {text : String} (plain : alphanumeric text) :
    opensTag text = false := by
  simp only [alphanumeric, List.all_eq_true] at plain
  rw [opensTag]
  generalize text.toList = characters at plain ⊢
  induction characters with
  | nil => rfl
  | cons next others inductionHypothesis =>
    simp only [List.mem_cons, forall_eq_or_imp] at plain
    have letter : next ≠ '<' := by
      rintro rfl
      cases plain.1
    rw [Markup.opensTag, inductionHypothesis plain.2]
    simp [letter]

/-! ## The two templates -/

/-- The HTML in front of the body. -/
def header (title : String) : String :=
  "<div style=\"" ++ style ++ ";max-width:520px;margin:0 auto\">" ++
    "<h2 style=\"color:#0f3460\">" ++ title ++ "</h2>"

/-- The HTML behind the body. -/
def footer : String :=
  "<hr style=\"border:none;border-top:1px solid #eee;margin:24px 0\">" ++
    "<p style=\"font-size:12px;color:#888\">" ++ settings.emailFromName ++ "</p></div>"

theorem wrap_eq (title bodyHtml : String) :
    wrap settings title bodyHtml = header title ++ (bodyHtml ++ footer settings) := by
  unfold wrap header footer
  rw [← String.toList_inj]
  simp only [String.toList_append, List.append_assoc]

def welcomeStart : List Char := (header "Welcome!" ++ "<p>Hi ").toList

def welcomeEnd : List Char :=
  (", your account has been created. We're glad to have you on board.</p>" ++ footer settings).toList

def welcomeGaps (shown : String) : List (List Char × List Char) :=
  [(shown.toList, welcomeEnd settings)]

theorem welcome_html (recipient name : String) :
    (welcomeEmail settings recipient name).html.toList =
      Markup.fill welcomeStart (welcomeGaps settings (display recipient name)) := by
  simp only [welcomeEmail, wrap_eq, welcomeStart, welcomeGaps, welcomeEnd, Markup.fill,
    String.toList_append, List.append_assoc]

def deviceStart : List Char :=
  (header "New sign-in to your account" ++ "<p>A new sign-in was detected:</p><ul>" ++
    "<li>Device: ").toList

def deviceEnd : List Char :=
  ("</li></ul>" ++ "<p>If this wasn't you, change your password and review your sessions.</p>" ++
    footer settings).toList

def deviceGaps (device browser ip : String) : List (List Char × List Char) :=
  [(device.toList, "</li><li>Browser: ".toList),
    (browser.toList, ("</li>" ++ "<li>IP address: ").toList), (ip.toList, deviceEnd settings)]

theorem device_html (recipient device browser ip : String) :
    (newDeviceEmail settings recipient device browser ip).html.toList =
      Markup.fill deviceStart (deviceGaps settings device browser ip) := by
  simp only [newDeviceEmail, wrap_eq, deviceStart, deviceGaps, deviceEnd, Markup.fill,
    String.toList_append, List.append_assoc]

theorem leads_sentence : Markup.Leads
    ", your account has been created. We're glad to have you on board.</p>".toList :=
  ⟨by decide +kernel, ", your account has been created. We're glad to have you on board.".toList,
    "/p".toList, [], by simp, by simp, by simp, by decide +kernel⟩

/-- Each item of the list ends with a tag. -/
theorem leads_item (more : List Char) : Markup.Leads ("</li>".toList ++ more) :=
  ⟨by simp [Markup.opens], [], "/li".toList, more, by simp, by simp, by simp, by decide +kernel⟩

theorem solid_welcome (shown : String) : Markup.Solid welcomeStart (welcomeGaps settings shown) := by
  refine .gap (by decide +kernel) ?_ (.last _)
  rw [welcomeEnd, String.toList_append]
  exact leads_sentence.append _

theorem solid_device (device browser ip : String) :
    Markup.Solid deviceStart (deviceGaps settings device browser ip) := by
  refine .gap (by decide +kernel) ?_ (.gap (by decide +kernel) ?_ (.gap (by decide +kernel) ?_ (.last _)))
  · exact leads_item "<li>Browser: ".toList
  · exact leads_item "<li>IP address: ".toList
  · rw [deviceEnd, String.append_assoc, String.toList_append]
    exact leads_item _

/-! ## Tags of the mails -/

/-- What the two mails contain besides the spliced texts. -/
def welcomeTags : List (List Char) := Markup.ownTags welcomeStart (welcomeGaps settings "")

def deviceTags : List (List Char) := Markup.ownTags deviceStart (deviceGaps settings "" "" "")

theorem welcome_tags_iff (recipient name : String) :
    tagsOf (welcomeEmail settings recipient name) = welcomeTags settings ↔
      opensTag (display recipient name) = false := by
  have own : welcomeTags settings =
      Markup.ownTags welcomeStart (welcomeGaps settings (display recipient name)) := rfl
  rw [tagsOf, welcome_html, own, Markup.tags_fill_iff (solid_welcome settings _)]
  simp only [welcomeGaps, List.mem_singleton, forall_eq, opensTag]

theorem device_tags_iff (recipient device browser ip : String) :
    tagsOf (newDeviceEmail settings recipient device browser ip) = deviceTags settings ↔
      opensTag device = false ∧ opensTag browser = false ∧ opensTag ip = false := by
  have own : deviceTags settings =
      Markup.ownTags deviceStart (deviceGaps settings device browser ip) := rfl
  rw [tagsOf, device_html, own, Markup.tags_fill_iff (solid_device settings device browser ip)]
  simp only [deviceGaps, List.mem_cons, List.not_mem_nil, or_false, forall_eq_or_imp, forall_eq,
    opensTag]

theorem display_alphanumeric {recipient name : String} (plainRecipient : alphanumeric recipient)
    (plainName : alphanumeric name) : alphanumeric (display recipient name) := by
  unfold display
  split
  · exact plainName
  · exact plainRecipient

/-- The mails have the tags of mails with alphanumeric values exactly when no spliced text opens a
tag. -/
theorem tags_of_mails_iff (recipient name device browser ip : String) :
    ((∀ plainRecipient plainName, alphanumeric plainRecipient → alphanumeric plainName →
        tagsOf (welcomeEmail settings recipient name) =
          tagsOf (welcomeEmail settings plainRecipient plainName)) ↔
      opensTag (display recipient name) = false) ∧
    ((∀ plainRecipient plainDevice plainBrowser plainIp, alphanumeric plainRecipient →
        alphanumeric plainDevice → alphanumeric plainBrowser → alphanumeric plainIp →
        tagsOf (newDeviceEmail settings recipient device browser ip) =
          tagsOf (newDeviceEmail settings plainRecipient plainDevice plainBrowser plainIp)) ↔
      opensTag device = false ∧ opensTag browser = false ∧ opensTag ip = false) := by
  have welcome (plainRecipient plainName : String) (recipientPlain : alphanumeric plainRecipient)
      (namePlain : alphanumeric plainName) :
      tagsOf (welcomeEmail settings plainRecipient plainName) = welcomeTags settings :=
    (welcome_tags_iff settings plainRecipient plainName).mpr
      (opensTag_of_alphanumeric (display_alphanumeric recipientPlain namePlain))
  have newDevice (plainRecipient plainDevice plainBrowser plainIp : String)
      (devicePlain : alphanumeric plainDevice) (browserPlain : alphanumeric plainBrowser)
      (ipPlain : alphanumeric plainIp) :
      tagsOf (newDeviceEmail settings plainRecipient plainDevice plainBrowser plainIp) =
        deviceTags settings :=
    (device_tags_iff settings plainRecipient plainDevice plainBrowser plainIp).mpr
      ⟨opensTag_of_alphanumeric devicePlain, opensTag_of_alphanumeric browserPlain,
        opensTag_of_alphanumeric ipPlain⟩
  rw [← welcome_tags_iff settings, ← device_tags_iff settings recipient]
  constructor
  · constructor
    -- any plain text will do for the comparison
    · intro same
      exact (same "a" "a" rfl rfl).trans (welcome "a" "a" rfl rfl)
    · intro own plainRecipient plainName recipientPlain namePlain
      exact own.trans (welcome plainRecipient plainName recipientPlain namePlain).symm
  · constructor
    · intro same
      exact (same "a" "a" "a" "a" rfl rfl rfl rfl).trans (newDevice "a" "a" "a" "a" rfl rfl rfl)
    · intro own plainRecipient plainDevice plainBrowser plainIp _ devicePlain browserPlain ipPlain
      exact own.trans (newDevice plainRecipient plainDevice plainBrowser plainIp devicePlain
        browserPlain ipPlain).symm

/-- A registration under this name mails a link of the registrant's choice to any address. -/
theorem name_injects_link :
    ¬ ∀ (settings : MailSettings) (recipient name plainRecipient plainName : String),
      alphanumeric plainRecipient → alphanumeric plainName →
        tagsOf (welcomeEmail settings recipient name) =
          tagsOf (welcomeEmail settings plainRecipient plainName) := by
  intro same
  have equal := same {} "alice@example.org" "<a href=x>" "alice" "alice" rfl rfl
  have own : tagsOf (welcomeEmail {} "alice" "alice") = welcomeTags {} :=
    (welcome_tags_iff {} "alice" "alice").mpr (by decide +kernel)
  have plain := (welcome_tags_iff {} _ _).mp (equal.trans own)
  exact absurd plain (by decide +kernel)

end EmailTemplates

end EnterpriseAuth

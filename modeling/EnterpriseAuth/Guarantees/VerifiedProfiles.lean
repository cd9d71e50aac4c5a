import EnterpriseAuth.Services.OAuthProviders

/-!
# Verified addresses of provider profiles

`email_verified` is a truth value that the code coerces from a flag in the provider's JSON: from
`email_verified` of Google's profile, and from `verified` of the first primary entry of GitHub's
list.  A text such as `"false"` is coerced to `True` as well.
-/

namespace EnterpriseAuth

/-- What the providers answer while a profile is fetched. -/
inductive ProfileExchange where
  | google (userinfo : Response)
  | github (user emails : Response)

namespace ProfileExchange

variable (repr : Json → String)

def fetchUserInfo : ProfileExchange → Except AppError FetchedUserInfo
  | .google userinfo => GoogleProvider.fetchUserInfo repr userinfo
  | .github user emails => GitHubProvider.fetchUserInfo repr user emails

/-- The JSON says with the boolean `true` that the address is verified. -/
def Asserts (exchange : ProfileExchange) (address : String) : Prop :=
  match exchange with
  | .google userinfo => ∃ data, userinfo.json = .ok data ∧
      data.get "email" = .ok (.string address) ∧ data.get "email_verified" = .ok (.bool true)
  | .github _ emails => ∃ list entries entry, emails.json = .ok list ∧
      list.elements = .ok entries ∧ entry ∈ entries ∧
        entry.get "email" = .ok (.string address) ∧ entry.get "verified" = .ok (.bool true)

/-- The object and the flag beside its address that the code goes by. -/
def Reads (exchange : ProfileExchange) (entry flag : Json) : Prop :=
  match exchange with
  | .google userinfo => userinfo.json = .ok entry ∧
      entry.getD "email_verified" (.bool false) = .ok flag
  | .github user emails => ∃ profile list entries, user.json = .ok profile ∧
      profile.get "email" = .ok .null ∧ emails.statusCode = 200 ∧ emails.json = .ok list ∧
        list.elements = .ok entries ∧ GitHubProvider.firstPrimary entries = .ok (some entry) ∧
          entry.get "verified" = .ok flag

/-- The flag counts as false, or it is the boolean `true` beside a text. -/
def PlainFlag (entry flag : Json) : Prop :=
  flag.truthy = false ∨
    flag = .bool true ∧ ∃ address, entry.get "email" = .ok (.string address)

/-- Another entry of GitHub's list repeats the address of this one, with the boolean `true`. -/
def Repeats (exchange : ProfileExchange) (entry : Json) : Prop :=
  match exchange with
  | .google _ => False
  | .github _ emails => ∃ list entries, emails.json = .ok list ∧ list.elements = .ok entries ∧
      ∃ other ∈ entries, other ≠ entry ∧ ∃ address,
        entry.get "email" = .ok (.string address) ∧ other.get "email" = .ok (.string address) ∧
          other.get "verified" = .ok (.bool true)

/-- The flag that the code goes by is plain, or it does not matter since its address is repeated. -/
def Plain (exchange : ProfileExchange) : Prop :=
  ∀ entry flag, exchange.Reads entry flag → PlainFlag entry flag ∨ exchange.Repeats entry

variable {repr} {exchange : ProfileExchange} {entry flag : Json} {info : FetchedUserInfo}

/-! ## What a fetched profile is made of -/

theorem reads_unique {otherEntry otherFlag : Json} (reads : exchange.Reads entry flag)
    (readsOther : exchange.Reads otherEntry otherFlag) : entry = otherEntry ∧ flag = otherFlag := by
  cases exchange with
  | google userinfo =>
    obtain ⟨body, found⟩ := reads
    obtain ⟨sameBody, sameFound⟩ := readsOther
    grind
  | github user emails =>
    obtain ⟨_, list, entries, -, -, -, body, listed, first, found⟩ := reads
    obtain ⟨_, _, _, -, -, -, sameBody, sameListed, sameFirst, sameFound⟩ := readsOther
    grind

theorem bind_ok {α β : Type} {first : Except AppError α} {rest : α → Except AppError β} {value : β}
    (ran : first >>= rest = .ok value) : ∃ result, first = .ok result ∧ rest result = .ok value := by
  cases first with
  | error => cases ran
  | ok result => exact ⟨result, rfl, ran⟩

theorem google_fetched {userinfo : Response}
    (fetched : GoogleProvider.fetchUserInfo repr userinfo = .ok info) :
    ∃ data flag, userinfo.json = .ok data ∧ data.getD "email_verified" (.bool false) = .ok flag ∧
      data.get "email" = .ok info.email ∧ info.emailVerified = flag.truthy := by
  simp only [GoogleProvider.fetchUserInfo] at fetched
  split at fetched
  · cases fetched
  · obtain ⟨data, body, fetched⟩ := bind_ok fetched
    obtain ⟨sub, -, fetched⟩ := bind_ok fetched
    obtain ⟨email, address, fetched⟩ := bind_ok fetched
    obtain ⟨name, -, fetched⟩ := bind_ok fetched
    obtain ⟨flag, found, fetched⟩ := bind_ok fetched
    cases fetched
    exact ⟨data, flag, body, found, address, rfl⟩

theorem firstPrimary_mem {entries : List Json}
    (first : GitHubProvider.firstPrimary entries = .ok (some entry)) : entry ∈ entries := by
  induction entries with
  | nil => cases first
  | cons head rest inductionHypothesis =>
    obtain ⟨primary, -, first⟩ := bind_ok first
    split at first
    · cases first
      exact List.mem_cons_self
    · exact List.mem_cons_of_mem head (inductionHypothesis first)

/-- Where GitHub's profile has no address, the list of addresses is consulted. -/
theorem primaryEmail_fetched {user emails : Response} {profile email : Json} {verified : Bool}
    (body : user.json = .ok profile) (hidden : profile.get "email" = .ok .null)
    (ran : GitHubProvider.primaryEmail emails = .ok (email, verified)) :
    (verified = false ∧ ∀ entry flag, ¬ (github user emails).Reads entry flag) ∨
      ∃ entry flag, (github user emails).Reads entry flag ∧ entry.get "email" = .ok email ∧
        verified = flag.truthy := by
  simp only [GitHubProvider.primaryEmail] at ran
  split at ran
  next failed =>
    cases ran
    exact .inl ⟨rfl, fun entry flag reads => failed reads.choose_spec.choose_spec.choose_spec.2.2.1⟩
  next succeeded =>
    obtain ⟨list, listed, ran⟩ := bind_ok ran
    obtain ⟨entries, elements, ran⟩ := bind_ok ran
    obtain ⟨primary, first, ran⟩ := bind_ok ran
    cases primary with
    | none =>
      cases ran
      refine .inl ⟨rfl, ?_⟩
      rintro entry flag ⟨_, _, _, -, -, -, sameListed, sameElements, sameFirst, -⟩
      grind
    | some entry =>
      obtain ⟨address, shown, ran⟩ := bind_ok ran
      obtain ⟨flag, found, ran⟩ := bind_ok ran
      cases ran
      exact .inr ⟨entry, flag, ⟨profile, list, entries, body, hidden, not_not.mp succeeded, listed,
        elements, first, found⟩, shown, rfl⟩

theorem github_fetched {user emails : Response}
    (fetched : GitHubProvider.fetchUserInfo repr user emails = .ok info) :
    (info.emailVerified = false ∧ ∀ entry flag, ¬ (github user emails).Reads entry flag) ∨
      ∃ entry flag, (github user emails).Reads entry flag ∧ entry.get "email" = .ok info.email ∧
        info.emailVerified = flag.truthy := by
  simp only [GitHubProvider.fetchUserInfo] at fetched
  split at fetched
  · cases fetched
  · obtain ⟨profile, body, fetched⟩ := bind_ok fetched
    obtain ⟨published, shown, fetched⟩ := bind_ok fetched
    split at fetched
    next =>
      obtain ⟨⟨email, verified⟩, address, fetched⟩ := bind_ok fetched
      obtain ⟨id, -, fetched⟩ := bind_ok fetched
      obtain ⟨name, -, fetched⟩ := bind_ok fetched
      obtain ⟨login, -, fetched⟩ := bind_ok fetched
      cases fetched
      exact primaryEmail_fetched body shown address
    next visible =>
      obtain ⟨_, address, fetched⟩ := bind_ok fetched
      cases address
      obtain ⟨id, -, fetched⟩ := bind_ok fetched
      obtain ⟨name, -, fetched⟩ := bind_ok fetched
      obtain ⟨login, -, fetched⟩ := bind_ok fetched
      cases fetched
      refine .inl ⟨rfl, ?_⟩
      rintro entry flag ⟨_, _, _, sameBody, hidden, -⟩
      grind

/-- Either no flag is read, or the address and the flag come from one object. -/
theorem fetched_cases (fetched : exchange.fetchUserInfo repr = .ok info) :
    (info.emailVerified = false ∧ ∀ entry flag, ¬ exchange.Reads entry flag) ∨
      ∃ entry flag, exchange.Reads entry flag ∧ entry.get "email" = .ok info.email ∧
        info.emailVerified = flag.truthy := by
  cases exchange with
  | google userinfo =>
    obtain ⟨data, flag, body, found, shown, verified⟩ := google_fetched fetched
    exact .inr ⟨data, flag, ⟨body, found⟩, shown, verified⟩
  | github user emails => exact github_fetched fetched

/-- A default of `False` is not taken for the boolean. -/
theorem getD_eq_true_iff {object : Json} {key : String} :
    object.getD key (.bool false) = .ok (.bool true) ↔ object.get key = .ok (.bool true) := by
  cases object with
  | object fields =>
    simp only [Json.get, Json.getD, Except.ok.injEq]
    cases fields.lookup key <;> simp
  | _ => simp [Json.get, Json.getD]

/-- A boolean `true` beside a text is an assertion about this text. -/
theorem asserts_of_reads {address : String} (reads : exchange.Reads entry (.bool true))
    (shown : entry.get "email" = .ok (.string address)) : exchange.Asserts address := by
  cases exchange with
  | google userinfo =>
    obtain ⟨body, found⟩ := reads
    exact ⟨entry, body, shown, getD_eq_true_iff.mp found⟩
  | github user emails =>
    obtain ⟨_, list, entries, -, -, -, body, listed, first, found⟩ := reads
    exact ⟨list, entries, entry, body, listed, firstPrimary_mem first, shown, found⟩

/-- An address that is asserted stands beside the flag itself, or it is repeated. -/
theorem plain_of_asserts {address : String} (reads : exchange.Reads entry flag)
    (shown : entry.get "email" = .ok (.string address)) (asserts : exchange.Asserts address) :
    PlainFlag entry flag ∨ exchange.Repeats entry := by
  cases exchange with
  | google userinfo =>
    obtain ⟨body, found⟩ := reads
    obtain ⟨data, sameBody, -, asserted⟩ := asserts
    obtain rfl : entry = data := by grind
    have isTrue : flag = .bool true := Except.ok.inj (found.symm.trans (getD_eq_true_iff.mpr asserted))
    exact .inl (.inr ⟨isTrue, address, shown⟩)
  | github user emails =>
    obtain ⟨_, list, entries, -, -, -, body, listed, first, found⟩ := reads
    obtain ⟨otherList, otherEntries, other, sameBody, sameListed, member, otherShown, asserted⟩ := asserts
    obtain rfl : list = otherList := by grind
    obtain rfl : entries = otherEntries := by grind
    by_cases same : other = entry
    · subst same
      exact .inl (.inr ⟨Except.ok.inj (found.symm.trans asserted), address, shown⟩)
    · exact .inr ⟨list, entries, body, listed, other, member, same, address, shown, otherShown, asserted⟩

/-! ## Soundness -/

/-- A profile with a verified address carries an address that the provider asserts to be verified,
exactly where the flag that the code goes by is plain or its address is repeated. -/
theorem email_verified_sound_iff (fetched : exchange.fetchUserInfo repr = .ok info) :
    (info.emailVerified = true →
      ∃ address, info.email = .string address ∧ exchange.Asserts address) ↔ exchange.Plain := by
  cases fetched_cases fetched with
  | inl unread =>
    obtain ⟨unverified, none⟩ := unread
    rw [unverified]
    exact ⟨fun _ entry flag reads => absurd reads (none entry flag), fun _ verified => by cases verified⟩
  | inr read =>
    obtain ⟨entry, flag, reads, shown, verified⟩ := read
    constructor
    · intro sound otherEntry otherFlag readsOther
      obtain ⟨rfl, rfl⟩ := reads_unique reads readsOther
      cases counts : flag.truthy with
      | false => exact .inl (.inl counts)
      | true =>
        obtain ⟨address, same, asserts⟩ := sound (verified.trans counts)
        exact plain_of_asserts reads (shown.trans (congrArg _ same)) asserts
    · intro plain isVerified
      have found {address : String} (text : entry.get "email" = .ok (.string address)) :
          info.email = .string address := Except.ok.inj (shown.symm.trans text)
      -- the flag is falsy, or the boolean beside a string, or another entry asserts the address
      obtain (falsy | ⟨rfl, address, text⟩) | repeats := plain entry flag reads
      · rw [verified, falsy] at isVerified
        cases isVerified
      · exact ⟨address, found text, asserts_of_reads reads text⟩
      · cases exchange with
        | google => exact repeats.elim
        | github user emails =>
          obtain ⟨list, entries, body, listed, other, member, -, address, text, otherText, asserted⟩ :=
            repeats
          exact ⟨address, found text, list, entries, other, body, listed, member, otherText, asserted⟩

/-! ## A flag that says no -/

/-- Google's profile of Alice, with the flag as given. -/
def googleProfile (flag : Json) : ProfileExchange :=
  .google ⟨200, some (.object [("sub", .string "1"), ("email", .string "alice@example.org"),
    ("email_verified", flag)])⟩

def aliceInfo : FetchedUserInfo :=
  ⟨"google", "1", .string "alice@example.org", .string "", true⟩

theorem email_verified_of_alice :
    (aliceInfo.emailVerified = true → ∃ address, aliceInfo.email = .string address ∧
      (googleProfile (.bool true)).Asserts address) ↔ (googleProfile (.bool true)).Plain :=
  email_verified_sound_iff
    (show (googleProfile (.bool true)).fetchUserInfo (fun _ => "") = .ok aliceInfo from rfl)

/-- The text `"false"` makes the address a verified one. -/
theorem email_verified_unasserted :
    ¬ ∀ (repr : Json → String) (exchange : ProfileExchange) (info : FetchedUserInfo),
      exchange.fetchUserInfo repr = .ok info → info.emailVerified = true →
        ∃ address, info.email = .string address ∧ exchange.Asserts address := by
  intro sound
  obtain ⟨address, -, data, body, -, asserted⟩ :=
    sound (fun _ => "") (googleProfile (.string "false")) aliceInfo (by rfl) rfl
  cases body
  simp [Json.get, Json.getD, List.lookup_cons] at asserted

end ProfileExchange

end EnterpriseAuth

import EnterpriseAuth.Guarantees.ClientAddress
import EnterpriseAuth.Guarantees.Logout
import EnterpriseAuth.Guarantees.OneTimeCodes
import EnterpriseAuth.Requests.Logins

/-!
# The client's texts and the columns they are stored in

Nine columns of a session hold texts that the client has a say in: the address it names, what the
parser makes of its `User-Agent`, and the location headers.  `create_session` cuts the `User-Agent`
itself to size and no other text, so a login is stored exactly when the other eight are short enough.
-/

namespace EnterpriseAuth

open Effects Program SessionService

variable {T : Type} (env : Environment T)

/-! ## What the client sends -/

/-- What the parser reports about the client's `User-Agent`. -/
def HttpRequest.reported (request : HttpRequest) : ParsedUserAgent :=
  env.parseUserAgent ((request.headers.get "user-agent").getD "")

/-- The parser's placeholders for a family that it does not know. -/
def placeholders : List String := ["other", "none"]

/-- The codes of the CDN for a country that it does not know. -/
def unknownCountries : List String := ["XX", "T1"]

/-- The location header, or the one that stands in for it. -/
def HttpRequest.hint (request : HttpRequest) (header substitute : String) : Option String :=
  (nonEmpty (request.headers.get header)).or (request.headers.get substitute)

/-- A family that the parser names has at most `width` characters. -/
def NamedWithin (width : ℕ) (family : Option String) : Prop :=
  ∀ name, family = some name → env.lower name ∉ placeholders → name.length ≤ width

/-- The client's texts fit the columns. -/
structure HttpRequest.Fits (request : HttpRequest) : Prop where
  forwarded : ∀ forwarded, request.headers.get "x-forwarded-for" = some forwarded → forwarded ≠ "" →
    (firstElement forwarded).length ≤ 45
  peer : nonEmpty (request.headers.get "x-forwarded-for") = none →
    ∀ host, request.clientHost = some host → host.length ≤ 45
  device : NamedWithin env 128 (request.reported env).deviceFamily
  browser : NamedWithin env 64 (request.reported env).browserFamily
  browserVersion : (request.reported env).browserVersion.length ≤ 32
  operatingSystem : NamedWithin env 64 (request.reported env).osFamily
  operatingSystemVersion : (request.reported env).osVersion.length ≤ 32
  country : ∀ country, request.hint "cf-ipcountry" "x-country" = some country →
    env.upper country ∉ unknownCountries → country.length ≤ 64
  city : ∀ city, request.hint "cf-ipcity" "x-city" = some city → city.length ≤ 128

/-! ## One text at a time -/

theorem fitsWidth_iff {width : ℕ} {text : String} :
    fitsWidth width text = true ↔ text.length ≤ width := by
  simp [fitsWidth]

@[simp] theorem nonEmpty_blank : nonEmpty (some "") = none := rfl

theorem nonEmpty_of_ne {text : String} (given : text ≠ "") : nonEmpty (some text) = some text := by
  simp [nonEmpty, Option.filter, given]

theorem fits_nonEmpty {width : ℕ} {value : Option String} :
    (nonEmpty value).all (fitsWidth width) = true ↔
      ∀ text, value = some text → text.length ≤ width := by
  cases value with
  | none => simp [nonEmpty]
  | some text =>
    by_cases empty : text = ""
    · simp [empty]
    · simp [nonEmpty_of_ne empty, fitsWidth]

/-- A header is found in the dictionary with the value that it has in the request. -/
@[simp] theorem get_dict (headers : Headers) (name : String) :
    headers.dict.get name = headers.get name := by
  simp only [Headers.dict, Headers.get, List.find?_map, Option.map_map, Function.comp_def]
  cases found : headers.find? (fun header => header.1 = name) with
  | none => rfl
  | some header =>
    have isName : header.1 = name := by simpa using List.find?_some found
    simp [isName, found]

/-- The address is the first element of the list, or the peer. -/
theorem fitsWidth_clientIp (request : HttpRequest) :
    fitsWidth 45 (clientIp request) = true ↔
      (∀ forwarded, request.headers.get "x-forwarded-for" = some forwarded → forwarded ≠ "" →
        (firstElement forwarded).length ≤ 45) ∧
      (nonEmpty (request.headers.get "x-forwarded-for") = none →
        ∀ host, request.clientHost = some host → host.length ≤ 45) := by
  have unknown : ("unknown" : String).length ≤ 45 := by decide
  have peer : (request.clientHost.getD "unknown").length ≤ 45 ↔
      ∀ host, request.clientHost = some host → host.length ≤ 45 := by
    cases request.clientHost with
    | none => simpa using unknown
    | some host => simp
  rw [fitsWidth_iff, clientIp]
  cases sent : request.headers.get "x-forwarded-for" with
  | none => simpa [nonEmpty] using peer
  | some forwarded =>
    by_cases empty : forwarded = ""
    · subst empty
      simpa using peer
    · simp only [nonEmpty_of_ne empty, split_headD, Option.some.injEq, forall_eq', reduceCtorEq,
        false_implies, and_true]
      exact ⟨fun short _ => short, fun short => short empty⟩

theorem length_strip_le (text : String) : (Text.strip text).length ≤ text.length := by
  have shorter (characters : List Char) :
      (characters.dropWhile Text.isSpace).length ≤ characters.length :=
    (List.dropWhile_sublist _).length_le
  have outer := shorter (text.toList.dropWhile Text.isSpace).reverse
  have inner := shorter text.toList
  simp only [Text.strip, Text.stripChars, String.length_ofList, List.length_reverse] at outer ⊢
  exact (outer.trans inner).trans_eq String.length_toList

/-- What `_clean` leaves of a family. -/
theorem length_clean_le {width : ℕ} {family : Option String} :
    (clean env family).length ≤ width ↔ NamedWithin env width family := by
  cases family with
  | none => simp [clean, NamedWithin]
  | some name =>
    by_cases placeholder : env.lower name ∈ placeholders
    · have cleaned : clean env (some name) = "" := if_pos placeholder
      simp [cleaned, NamedWithin, placeholder]
    · have cleaned : clean env (some name) = name := if_neg placeholder
      simp [cleaned, NamedWithin, placeholder]

theorem length_orElse_le {width : ℕ} {first second : String} (short : second.length ≤ width) :
    (orElse first second).length ≤ width ↔ first.length ≤ width := by
  by_cases empty : first = ""
  · simp [orElse, empty, short]
  · simp [orElse, empty]

/-- A family without a name becomes `Unknown`, which fits. -/
theorem fitsWidth_family {width : ℕ} (roomy : 7 ≤ width) (family : Option String) :
    fitsWidth width (orElse (clean env family) "Unknown") = true ↔ NamedWithin env width family := by
  have short : ("Unknown" : String).length ≤ width := roomy
  rw [fitsWidth_iff, length_orElse_le short, length_clean_le]

theorem length_deviceType_le (raw : String) : (parseUserAgent env raw).deviceType.length ≤ 7 := by
  simp only [parseUserAgent]
  repeat' split
  all_goals decide

/-- A device without a name is called after its system, which leaves room for the type. -/
theorem fitsWidth_device {raw : String}
    (system : NamedWithin env 64 (env.parseUserAgent raw).osFamily) :
    fitsWidth 128 (parseUserAgent env raw).deviceName = true ↔
      NamedWithin env 128 (env.parseUserAgent raw).deviceFamily := by
  have type := length_deviceType_le env raw
  have name := (length_clean_le env).mpr system
  rw [fitsWidth_iff, ← length_clean_le]
  refine length_orElse_le ((length_orElse_le ?_).mpr ((length_strip_le _).trans ?_))
  · decide
  · simp only [parseUserAgent] at type
    simp only [toString, String.length_append]
    have space : (" " : String).length = 1 := by decide
    omega

theorem fits_country (request : HttpRequest) :
    (resolveLocation env request.headers.dict).country.all (fitsWidth 64) = true ↔
      ∀ country, request.hint "cf-ipcountry" "x-country" = some country →
        env.upper country ∉ unknownCountries → country.length ≤ 64 := by
  simp only [resolveLocation, fits_nonEmpty, Option.filter_eq_some_iff, HttpRequest.hint, get_dict,
    unknownCountries, decide_eq_true_eq, and_imp]

theorem fits_city (request : HttpRequest) :
    (resolveLocation env request.headers.dict).city.all (fitsWidth 128) = true ↔
      ∀ city, request.hint "cf-ipcity" "x-city" = some city → city.length ≤ 128 := by
  simp only [resolveLocation, fits_nonEmpty, HttpRequest.hint, get_dict]

section
variable [CommRing T]

/-- The row that is stored for the client fits the columns if its texts do. -/
theorem fits_newSession (server : Server T) (user : User T) (sessionUuid refreshJti : Uuid)
    (rememberMe : Bool) (request : HttpRequest) :
    (server.newSession env user sessionUuid refreshJti rememberMe (clientIp request)
      ((request.headers.get "user-agent").getD "") request.headers.dict).fits = true ↔
      request.Fits env := by
  -- the two texts that fit whatever the client sends
  have type : (parseUserAgent env ((request.headers.get "user-agent").getD "")).deviceType.length ≤ 32 :=
    (length_deviceType_le env _).trans (by decide)
  have cut : ((parseUserAgent env ((request.headers.get "user-agent").getD "")).userAgent).length ≤
      512 := by
    simp only [parseUserAgent, String.length_ofList]
    exact List.length_take_le _ _
  have browser := fitsWidth_family env (show 7 ≤ 64 by decide) (request.reported env).browserFamily
  have system := fitsWidth_family env (show 7 ≤ 64 by decide) (request.reported env).osFamily
  have country := fits_country env request
  have city := fits_city env request
  have address := fitsWidth_clientIp request
  simp only [Server.newSession, Session.fits, Bool.and_eq_true]
  constructor
  · rintro ⟨⟨⟨⟨⟨⟨⟨⟨⟨device, -⟩, browserFits⟩, version⟩, systemFits⟩, systemVersion⟩, -⟩, ip⟩, inCountry⟩,
      inCity⟩
    have named := system.mp systemFits
    exact {
      forwarded := (address.mp ip).1
      peer := (address.mp ip).2
      device := (fitsWidth_device env named).mp device
      browser := browser.mp browserFits
      browserVersion := fitsWidth_iff.mp version
      operatingSystem := named
      operatingSystemVersion := fitsWidth_iff.mp systemVersion
      country := country.mp inCountry
      city := city.mp inCity }
  · intro fits
    exact ⟨⟨⟨⟨⟨⟨⟨⟨⟨(fitsWidth_device env fits.operatingSystem).mpr fits.device, fitsWidth_iff.mpr type⟩,
      browser.mpr fits.browser⟩, fitsWidth_iff.mpr fits.browserVersion⟩,
      system.mpr fits.operatingSystem⟩, fitsWidth_iff.mpr fits.operatingSystemVersion⟩,
      fitsWidth_iff.mpr cut⟩, address.mpr ⟨fits.forwarded, fits.peer⟩⟩, country.mpr fits.country⟩,
      city.mpr fits.city⟩

end

/-! ## Logins -/

/-- Nothing but the client's texts stands in the way of a session of the user. -/
structure Server.Welcomes (server : Server T) (user : User T) : Prop where
  stored : server.working.userExists user.id = true
  fresh : server.working.sessions.find server.draws = none
  loaded : user.rolesLoaded = true
  readable : (env.validEmail user.email).isSome
  named : lengthWithin user.fullName 0 255 = true

theorem insertSession_isOk {db : Database T} {session : Session T}
    (stored : db.userExists session.userId = true)
    (fresh : db.sessions.find session.sessionUuid = none) :
    (Database.insertSession session db).isOk = session.fits := by
  obtain ⟨sessions, inserted⟩ : ∃ sessions, db.sessions.insert session = some sessions :=
    Table.insert_isSome fresh
  cases fits : session.fits with
  | false => simp [Database.insertSession, fits, Except.isOk, Except.toBool]
  | true => simp [Database.insertSession, fits, stored, inserted, Except.isOk, Except.toBool]

variable [CommRing T] [LinearOrder T]

theorem run_userRead {server : Server T} {user : User T} (welcomes : server.Welcomes env user)
    (later : Server T) : ∃ read, (userRead env user).run handle later = (.ok read, later) := by
  obtain ⟨email, valid⟩ := Option.isSome_iff_exists.mp welcomes.readable
  simp only [userRead, run_bind, run_view, valid, welcomes.loaded, welcomes.named, Bool.not_true,
    Bool.false_eq_true, if_false, run_pure]
  exact ⟨_, rfl⟩

variable [FloorRing T]

/-- A login that is otherwise correct succeeds if and only if the client's texts fit. -/
theorem finalizeLogin_isOk {server : Server T} {user : User T} (welcomes : server.Welcomes env user)
    (request : HttpRequest) (rememberMe : Bool) :
    ((finalizeLogin env request user rememberMe).run handle server).1.isOk = true ↔
      request.Fits env := by
  let minted : Server T := Server.drawn { server with draws := server.draws + 1 } 2
  let row := minted.newSession env user server.draws (server.draws + 1 + 1) rememberMe
    (clientIp request) ((request.headers.get "user-agent").getD "") request.headers.dict
  obtain ⟨isNewDevice, ran⟩ := run_createSession env minted user server.draws (server.draws + 1 + 1)
    rememberMe (clientIp request) ((request.headers.get "user-agent").getD "") request.headers.dict
  have inserted : (Database.insertSession row minted.working).isOk = row.fits :=
    insertSession_isOk welcomes.stored welcomes.fresh
  rw [← fits_newSession env minted user server.draws (server.draws + 1 + 1) rememberMe request]
  change _ ↔ row.fits = true
  rw [← inserted]
  simp only [finalizeLogin, run_bind, run_uuid4, run_issuePair]
  rw [ran]
  cases written : Database.insertSession row minted.working with
  | error =>
    simp only [row] at written
    simp [written, Except.isOk, Except.toBool]
  | ok working =>
    -- what is left to do once the session is stored cannot fail
    choose read reads using run_userRead env welcomes
    simp only [row] at written
    cases isNewDevice <;> simp [written, reads, Except.isOk, Except.toBool]

/-- The row that a login of the user stores fits, under whatever numbers, and the login succeeds. -/
structure Server.Accommodates (server : Server T) (user : User T) (rememberMe : Bool)
    (request : HttpRequest) : Prop where
  fits : ∀ sessionUuid refreshJti, (server.newSession env user sessionUuid refreshJti rememberMe
    (clientIp request) ((request.headers.get "user-agent").getD "") request.headers.dict).fits = true
  succeeds : ((finalizeLogin env request user rememberMe).run handle server).1.isOk = true

theorem login_stored_iff {server : Server T} {user : User T} (welcomes : server.Welcomes env user)
    (rememberMe : Bool) (request : HttpRequest) :
    server.Accommodates env user rememberMe request ↔ request.Fits env := by
  constructor
  · intro accommodates
    exact (finalizeLogin_isOk env welcomes request rememberMe).mp accommodates.succeeds
  · intro fits
    exact ⟨fun sessionUuid refreshJti => (fits_newSession env server user sessionUuid refreshJti
      rememberMe request).mpr fits, (finalizeLogin_isOk env welcomes request rememberMe).mpr fits⟩

/-! ## A long address -/

/-- Alice names the link-local address of her interface. -/
def scopedAddress : HttpRequest where
  headers := [("x-forwarded-for", "fe80:0000:0000:0000:0202:b3ff:fe1e:8329%wlp0s20f3")]

theorem login_without_headers_stored : aliceRegistered.server.Accommodates demo alice false {} := by
  refine (login_stored_iff demo ⟨?_, ?_, ?_, ?_, ?_⟩ false {}).mpr ?_
  iterate 5 decide +kernel
  have device : (HttpRequest.reported demo {}).deviceFamily = none := rfl
  have browser : (HttpRequest.reported demo {}).browserFamily = some "Firefox" := rfl
  have system : (HttpRequest.reported demo {}).osFamily = some "Linux" := rfl
  exact {
    forwarded := by simp [Headers.get]
    peer := by simp
    device := by simp [NamedWithin, device]
    browser := by
      intro name named _
      obtain rfl := Option.some.inj (browser.symm.trans named)
      decide
    browserVersion := by decide +kernel
    operatingSystem := by
      intro name named _
      obtain rfl := Option.some.inj (system.symm.trans named)
      decide
    operatingSystemVersion := by decide +kernel
    country := by simp [HttpRequest.hint, Headers.get, nonEmpty]
    city := by simp [HttpRequest.hint, Headers.get, nonEmpty] }

/-- The address has 49 characters, and her login fails. -/
theorem login_from_scoped_address_fails :
    ¬ ∀ request, aliceRegistered.server.Accommodates demo alice false request := by
  intro accommodates
  exact absurd (accommodates scopedAddress).succeeds (by decide +kernel)

end EnterpriseAuth

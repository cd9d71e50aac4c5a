import EnterpriseAuth.Api.System
import Mathlib.Algebra.Order.Ring.Rat
import Mathlib.Data.Rat.Floor

/-!
# Playing a scenario

A run is a relation; a scenario is a list of events.  `World.play` computes where a scenario leads,
and `leads_play` says that a playable scenario is a run of the service.  `demo` fills in the
libraries with simple functions that do on short texts what the real ones do.
-/

namespace EnterpriseAuth

open Effects

section
variable {T : Type} (env : Environment T)

instance (world : World T) (token : Token) : Decidable (world.holds token) :=
  match token with
  | .signed claims => inferInstanceAs (Decidable (claims ∈ world.issued))
  | .unsigned _ => .isTrue trivial

variable [CommRing T] [LinearOrder T] [FloorRing T]

/-- The event can happen. -/
def World.Possible (world : World T) : Event T → Prop
  | .tick instant => world.clock ≤ instant
  | .request arrival => ∀ token ∈ arrival.presented, world.holds token
  | .setUserActive _ _ => True

instance (world : World T) (event : Event T) : Decidable (world.Possible event) :=
  match event with
  | .tick instant => inferInstanceAs (Decidable (world.clock ≤ instant))
  | .request arrival => inferInstanceAs (Decidable (∀ token ∈ arrival.presented, world.holds token))
  | .setUserActive _ _ => .isTrue trivial

def World.next (world : World T) : Event T → World T
  | .tick instant => { world with clock := instant }
  | .request arrival => world.afterRequest env arrival
  | .setUserActive userId active =>
    { world with db := { world.db with
      users := world.db.users.modify userId (fun user => { user with isActive := active })
        fun _ => rfl } }

def World.play (world : World T) : List (Event T) → World T
  | [] => world
  | event :: events => (world.next env event).play events

def World.Playable (world : World T) : List (Event T) → Prop
  | [] => True
  | event :: events => world.Possible event ∧ (world.next env event).Playable events

instance World.decidablePlayable (world : World T) :
    (events : List (Event T)) → Decidable (world.Playable env events)
  | [] => .isTrue trivial
  | event :: events =>
    haveI := World.decidablePlayable (world.next env event) events
    inferInstanceAs (Decidable (_ ∧ _))

/-- Every event of the scenario meets the condition when its turn comes. -/
def World.Meets (world : World T) (condition : World T → Event T → Prop) : List (Event T) → Prop
  | [] => True
  | event :: events => condition world event ∧ (world.next env event).Meets condition events

variable {env} {world : World T}

theorem World.step_next {event : Event T} (possible : world.Possible event) :
    World.Step env world event (world.next env event) := by
  cases event with
  | tick instant => exact .tick possible
  | request arrival => exact .request possible
  | setUserActive userId active => exact .setUserActive userId active

theorem leads_play {events : List (Event T)} (playable : world.Playable env events) :
    (service env).Leads world (world.play env events) := by
  induction events generalizing world with
  | nil => exact .refl world
  | cons event events inductionHypothesis =>
    obtain ⟨possible, rest⟩ := playable
    exact ((System.Leads.refl world).tail (World.step_next possible)).trans
      (inductionHypothesis rest)

theorem reachable_play (starts : world.Starts) {events : List (Event T)}
    (playable : world.Playable env events) : (service env).Reachable (world.play env events) :=
  ⟨world, starts, leads_play playable⟩

theorem leads_guarded_play {condition : World T → Event T → Prop} {events : List (Event T)}
    (playable : world.Playable env events) (meets : world.Meets env condition events) :
    ((service env).guarded condition).Leads world (world.play env events) := by
  induction events generalizing world with
  | nil => exact .refl world
  | cons event events inductionHypothesis =>
    obtain ⟨possible, rest⟩ := playable
    obtain ⟨meetsNow, meetsLater⟩ := meets
    have step : ((service env).guarded condition).step world event (world.next env event) :=
      ⟨meetsNow, World.step_next possible⟩
    exact ((System.Leads.refl world).tail step).trans (inductionHypothesis rest meetsLater)

theorem reachable_guarded_play {condition : World T → Event T → Prop} (starts : world.Starts)
    {events : List (Event T)} (playable : world.Playable env events)
    (meets : world.Meets env condition events) :
    ((service env).guarded condition).Reachable (world.play env events) :=
  ⟨world, starts, leads_guarded_play playable meets⟩

omit [CommRing T] [LinearOrder T] [FloorRing T] in
theorem exists_ok {α : Type} {result : Except AppError α} (ok : result.isOk) :
    ∃ value, result = .ok value := by
  cases result with
  | ok value => exact ⟨value, rfl⟩
  | error => cases ok

omit [CommRing T] [LinearOrder T] [FloorRing T] in
theorem exists_error {α : Type} {result : Except AppError α} (fails : ¬ result.isOk) :
    ∃ error, result = .error error := by
  cases result with
  | ok => exact absurd rfl fails
  | error error => exact ⟨error, rfl⟩

end

/-! ## A small deployment -/

/-- NFKC on the characters that a code of six digits may be spelled with: the full-width digits
stand for the ASCII ones. -/
def nfkcDigit (character : Char) : Char :=
  if 0xFF10 ≤ character.toNat && character.toNat ≤ 0xFF19 then
    Char.ofNat (character.toNat - 0xFF10 + 0x30)
  else character

def nfkcDigits (text : String) : String := String.ofList (text.toList.map nfkcDigit)

/-- Codes that tell all steps apart, of six digits for the first 900000. -/
def stepCode : ℤ → String
  | .ofNat step => String.ofList (Nat.toDigits 10 (100000 + step))
  | .negSucc step => String.ofList ('-' :: Nat.toDigits 10 step)

def demo : Environment ℚ where
  settings := {}
  lower text := String.ofList (text.toList.map Char.toLower)
  upper text := String.ofList (text.toList.map Char.toUpper)
  sqlLower text := String.ofList (text.toList.map Char.toLower)
  isDecimal character := character.isDigit || nfkcDigit character != character
  validEmail := some
  verifyPassword password stored := stored == "$" ++ password
  hashPassword _ password := "$" ++ password
  needsRehash _ := false
  totpVerify _ otp window now :=
    (List.range (2 * window + 1)).any fun offset =>
      nfkcDigits otp == stepCode (⌊now⌋ / 30 + offset - window)
  randomBase32 _ := "JBSWY3DP"
  encrypt _ plaintext := plaintext
  decrypt := some
  sha256Hex := id
  sha256Base64 text := String.ofList text.toList.reverse ++ "="
  tokenUrlsafe draw := "url-safe-token-" ++ toString draw
  secretsChoice _ := 0
  parseUserAgent _ :=
    { isBot := false, isTablet := false, isMobile := false, isPc := true, osFamily := some "Linux"
      osVersion := "6", deviceFamily := none, browserFamily := some "Firefox", browserVersion := "1" }

/-- A character that is no capital is lowered to itself. -/
theorem toLower_of_outside {character : Char}
    (outside : character.val.toNat < 65 ∨ 90 < character.val.toNat) : character.toLower = character := by
  unfold Char.toLower
  apply dif_neg
  rintro ⟨aboveA, belowZ⟩
  have least : 65 ≤ character.val.toNat := UInt32.le_iff_toNat_le.mp aboveA
  have most : character.val.toNat ≤ 90 := UInt32.le_iff_toNat_le.mp belowZ
  omega

/-- Nothing is stored yet but the role of new users. -/
def World.new : World ℚ where
  db := { roles := ⟨[{ name := "user", description := "user role" }], List.nodup_singleton _⟩ }
  redis := ∅
  clock := 0
  draws := 0
  history := []

theorem World.new_starts : World.new.Starts :=
  ⟨rfl, rfl, rfl, ⟨nofun, nofun⟩⟩

/-- Alice registers, and is user 1 with session 2. -/
def registerAlice : Arrival where
  http := {}
  route := .login (.register { email := "alice@example.org", password := "Str0ng!pass" })

/-- Bob registers too. -/
def registerBob : Arrival where
  http := {}
  route := .login (.register { email := "bob@example.org", password := "Str0ng!pass" })

def aliceAccess : Claims :=
  { sub := 1, type := .access, jti := 3, iat := 0, exp := 900, sid := some 2 }

def aliceRefresh : Claims :=
  { sub := 1, type := .refresh, jti := 4, iat := 0, exp := 604800, sid := some 2 }

/-- A request to a route behind the access token, with a matching pair of CSRF tokens. -/
def withAccess (access : Claims) (route : ProtectedRoute) : Arrival where
  http :=
    { accessToken := some (.signed access), csrfCookie := some "token"
      headers := [("x-csrf-token", "token")] }
  route := .withAccess route

def refreshWith (refresh : Claims) : Arrival where
  http := { refreshToken := some (.signed refresh) }
  route := .refresh

end EnterpriseAuth

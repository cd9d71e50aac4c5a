import EnterpriseAuth.Requests.TwoFactor
import EnterpriseAuth.Guarantees.SecondFactor

/-!
# Codes that authorise once

`verify_totp` marks an accepted code as used under the text that was submitted, and `pyotp` compares
normalised texts.  The marker outlives the steps in which the code is valid, so a code is accepted
once as long as nobody spells an accepted code in a second way.
-/

namespace EnterpriseAuth

open Effects Program TwoFactorService

variable {T : Type}

/-! ## The libraries -/

/-- What is relied on of `pyotp` and of time steps: a text is verified if its normal form is the
code of a step within the window, and the codes of different steps differ. -/
structure TotpContract [CommRing T] [LinearOrder T] [FloorRing T] (env : Environment T) where
  nfkc : String → String
  code : (secret : String) → (step : ℤ) → String
  distinct : ∀ secret first second, code secret first = code secret second → first = second
  verify_iff : ∀ secret otp window now, env.totpVerify secret otp window now = true ↔
    ∃ step : ℤ, ⌊now⌋ / 30 - window ≤ step ∧ step ≤ ⌊now⌋ / 30 + window ∧ nfkc otp = code secret step

/-! ## Markers of used codes -/

def Server.markers (server : Server T) (userId : Uuid) (otp : String) : Option (Entry RedisValue T) :=
  server.redis (.otpUsed userId otp)

section
variable [CommRing T] [LinearOrder T] (env : Environment T)

/-! ## One call -/

/-- The secret that a code of the user is compared with. -/
def Server.totpSecret (server : Server T) (userId : Uuid) : Option String :=
  (server.working.twoFactorAuth.find userId).bind fun record => env.decrypt record.encryptedSecret

/-- An accepted code had no marker, and has one now for the whole span in which it may be valid. -/
structure CodeAccepted (start : Server T) (user : User T) (otp : String) (final : Server T) : Prop where
  clock : final.clock = start.clock
  verified : ∃ secret, start.totpSecret env user.id = some secret ∧
    env.totpVerify secret otp env.settings.totpValidWindow start.clock = true
  unmarked : start.redis.lookup start.clock (.otpUsed user.id otp) = none
  markers : ∀ userId text, final.markers userId text =
    if userId = user.id ∧ text = otp then some ⟨.flag, some (start.clock + (replayTtl env : ℕ))⟩
    else start.markers userId text

variable {env}

/-- A failed verification only counts the failure. -/
theorem markers_failureRecorded (start : Server T) (user : User T) :
    (start.failureRecorded env user).markers = start.markers := by
  funext userId otp
  exact RateLimiter.recordedFailure_other env (lockId user.id) none _ _ (by simp) (by simp)

theorem triple_verifyTotp (start : Server T) (user : User T) (otp : String) :
    Triple handle (· = start) (verifyTotp env user otp)
      (fun _ final => CodeAccepted env start user otp final)
      (fun _ final => final.clock = start.clock ∧ final.markers = start.markers) := by
  constructor
  rintro start rfl
  have outcome := outcome_verifyTotp env user start otp
  generalize (verifyTotp env user otp).run handle start = result at outcome ⊢
  obtain ⟨reply, final⟩ := result
  cases outcome with
  | locked | notEnabled | undecipherable => exact ⟨rfl, rfl⟩
  | used | invalid => exact ⟨rfl, markers_failureRecorded start user⟩
  | @accepted _ record secret valid unmarked =>
    have hasSecret : start.totpSecret env user.id = some secret := by
      rw [Server.totpSecret, valid.found, Option.bind_some, valid.decrypted]
    refine ⟨rfl, ⟨secret, hasSecret, valid.verified⟩, unmarked, fun userId text => ?_⟩
    simp [Server.markers, Server.otpMarked, ExpiringStore.put, ExpiringStore.remove,
      RateLimiter.failcountKey, RateLimiter.lockoutKey]

end

/-! ## Runs of calls -/

/-- A code that `verify_totp` accepted for a user. -/
structure Acceptance (T : Type) where
  userId : Uuid
  secret : String
  otp : String
  instant : T

structure TotpRun (T : Type) where
  server : Server T
  /-- the accepted codes, the latest first -/
  accepted : List (Acceptance T)

inductive TotpEvent (T : Type) where
  | tick (instant : T)
  | verify (user : User T) (otp : String)
  /-- whatever else happens between two calls -/
  | elsewhere

section
variable [CommRing T] [LinearOrder T] (env : Environment T)

/-- The acceptance that a reply of `verify_totp` stands for, if any. -/
def TotpRun.acceptance (run : TotpRun T) (user : User T) (otp : String) :
    Except AppError Unit → Option (Acceptance T)
  | .error _ => none
  | .ok () => (run.server.totpSecret env user.id).map fun secret =>
    { userId := user.id, secret, otp, instant := run.server.clock }

def TotpRun.verified (run : TotpRun T) (user : User T) (otp : String) : TotpRun T :=
  let result := (verifyTotp env user otp).run handle run.server
  { server := result.2
    accepted := (run.acceptance env user otp result.1).toList ++ run.accepted }

/-- The schemas admit texts of six to ten characters where a code is expected. -/
inductive TotpRun.Step : TotpRun T → TotpEvent T → TotpRun T → Prop
  | tick {run : TotpRun T} {instant : T} (later : run.server.clock ≤ instant) :
    Step run (.tick instant) { run with server := { run.server with clock := instant } }
  | verify {run : TotpRun T} {user : User T} {otp : String}
    (admitted : lengthWithin otp 6 10 = true) :
    Step run (.verify user otp) (run.verified env user otp)
  | elsewhere {run : TotpRun T} {server : Server T} (clock : server.clock = run.server.clock)
    (markers : server.markers = run.server.markers) :
    Step run .elsewhere { run with server }

def totpRuns : System (TotpRun T) (TotpEvent T) where
  start run := run.accepted = []
  step := TotpRun.Step env

end

section
variable [CommRing T] [LinearOrder T] [FloorRing T] {env : Environment T}
  (contract : TotpContract env)

/-- Both acceptances are for the code of one step of one secret. -/
def TotpContract.SameCode (first second : Acceptance T) : Prop :=
  first.userId = second.userId ∧ first.secret = second.secret ∧
    ∃ step, contract.nfkc first.otp = contract.code first.secret step ∧
      contract.nfkc second.otp = contract.code first.secret step

/-- The code of a step has been accepted at most once for each user. -/
def TotpContract.OnceEach (run : TotpRun T) : Prop :=
  run.accepted.Pairwise fun later earlier => ¬ contract.SameCode later earlier

/-- No call submits, in another spelling, an accepted code that would still be verified. -/
def TotpContract.KeepsSpelling (run : TotpRun T) : TotpEvent T → Prop
  | .verify user otp => ∀ earlier ∈ run.accepted, earlier.userId = user.id →
      run.server.totpSecret env user.id = some earlier.secret →
      contract.nfkc otp = contract.nfkc earlier.otp →
      env.totpVerify earlier.secret otp env.settings.totpValidWindow run.server.clock = true →
      otp = earlier.otp
  | _ => True

/-- An accepted code was verified, and its marker outlives it. -/
structure Acceptance.Marked (env : Environment T) (server : Server T) (acceptance : Acceptance T) :
    Prop where
  past : acceptance.instant ≤ server.clock
  verified : env.totpVerify acceptance.secret acceptance.otp env.settings.totpValidWindow
    acceptance.instant = true
  marker : server.redis.HoldsUntil (.otpUsed acceptance.userId acceptance.otp)
    (acceptance.instant + (replayTtl env : ℕ))

structure TotpContract.Sound (run : TotpRun T) : Prop where
  marked : ∀ acceptance ∈ run.accepted, acceptance.Marked env run.server
  once : contract.OnceEach run

omit [FloorRing T] in
theorem Acceptance.Marked.congr {server other : Server T} {acceptance : Acceptance T}
    (marked : acceptance.Marked env server) (later : server.clock ≤ other.clock)
    (same : other.markers acceptance.userId acceptance.otp =
      server.markers acceptance.userId acceptance.otp) :
    acceptance.Marked env other :=
  ⟨marked.past.trans later, marked.verified, marked.marker.congr same⟩

variable [IsStrictOrderedRing T]

/-- Once the marker may have lapsed, no step of the code is in the window any more. -/
theorem TotpContract.steps_apart {secret first second : String} {earlier now : T} {step : ℤ}
    (verifiedFirst : env.totpVerify secret first env.settings.totpValidWindow earlier = true)
    (verifiedSecond : env.totpVerify secret second env.settings.totpValidWindow now = true)
    (ofFirst : contract.nfkc first = contract.code secret step)
    (ofSecond : contract.nfkc second = contract.code secret step) :
    now < earlier + (replayTtl env : ℕ) := by
  obtain ⟨firstStep, -, upper, codeFirst⟩ := (contract.verify_iff _ _ _ _).mp verifiedFirst
  obtain ⟨secondStep, lower, -, codeSecond⟩ := (contract.verify_iff _ _ _ _).mp verifiedSecond
  have sameFirst := contract.distinct secret firstStep step (codeFirst.symm.trans ofFirst)
  have sameSecond := contract.distinct secret secondStep step (codeSecond.symm.trans ofSecond)
  by_contra lapsed
  have floors : ⌊earlier⌋ + (replayTtl env : ℕ) ≤ ⌊now⌋ := by
    rw [← Int.floor_add_natCast]
    exact Int.floor_le_floor (not_lt.mp lapsed)
  simp only [replayTtl, otpStepSeconds] at floors
  push_cast at floors
  omega

theorem TotpContract.Sound.verify {run : TotpRun T} (sound : contract.Sound run) {user : User T}
    {otp : String} (spelling : contract.KeepsSpelling run (.verify user otp)) :
    contract.Sound (run.verified env user otp) := by
  unfold TotpRun.verified
  cases ran : (verifyTotp env user otp).run handle run.server with
  | mk result final =>
    cases result with
    | error error =>
      obtain ⟨clock, markers⟩ := (triple_verifyTotp run.server user otp).failed rfl ran
      refine ⟨fun acceptance member => ?_, sound.once⟩
      exact (sound.marked acceptance member).congr clock.ge (by rw [markers])
    | ok =>
      obtain ⟨clock, ⟨secret, hasSecret, verified⟩, unmarked, markers⟩ :=
        (triple_verifyTotp run.server user otp).returned rfl ran
      simp only [TotpRun.acceptance, hasSecret, Option.map_some, Option.toList_some,
        List.singleton_append]
      have written : final.redis (.otpUsed user.id otp) =
          some ⟨.flag, some (run.server.clock + (replayTtl env : ℕ))⟩ := by
        have here := markers user.id otp
        rwa [if_pos ⟨rfl, rfl⟩] at here
      have fresh : final.redis.HoldsUntil (.otpUsed user.id otp)
          (run.server.clock + (replayTtl env : ℕ)) :=
        (ExpiringStore.holdsUntil_put run.server.redis _ .flag _).congr
          (written.trans (by simp [ExpiringStore.put]))
      -- no earlier acceptance is for a step of this code: its marker would have been found
      have apart (earlier : Acceptance T) (member : earlier ∈ run.accepted) :
          ¬ contract.SameCode ⟨user.id, secret, otp, run.server.clock⟩ earlier := by
        rintro ⟨sameUser, sameSecret, step, ofThis, ofEarlier⟩
        obtain ⟨userId, earlierSecret, text, instant⟩ := earlier
        cases sameUser
        cases sameSecret
        obtain ⟨-, verifiedEarlier, marker⟩ := sound.marked _ member
        have sameText : otp = text :=
          spelling _ member rfl hasSecret (ofThis.trans ofEarlier.symm) verified
        subst sameText
        have held := marker run.server.clock
          (contract.steps_apart verifiedEarlier verified ofEarlier ofThis)
        rw [unmarked] at held
        cases held
      refine ⟨fun acceptance member => ?_, List.pairwise_cons.mpr ⟨apart, sound.once⟩⟩
      rcases List.mem_cons.mp member with rfl | old
      · exact ⟨clock.ge, verified, fresh⟩
      · by_cases same : acceptance.userId = user.id ∧ acceptance.otp = otp
        · obtain ⟨past, verifiedEarlier, -⟩ := sound.marked acceptance old
          refine ⟨past.trans clock.ge, verifiedEarlier, ?_⟩
          rw [same.1, same.2]
          exact fresh.mono (by simpa using past)
        · refine (sound.marked acceptance old).congr clock.ge ?_
          rw [markers, if_neg same]

/-- In the runs in which nobody spells an accepted code in a second way, the code of a step
authorises once. -/
theorem totp_code_authorises_once {run : TotpRun T}
    (reachable : ((totpRuns env).guarded contract.KeepsSpelling).Reachable run) :
    contract.OnceEach run := by
  refine (System.Reachable.invariant contract.Sound reachable ?_ ?_).once
  · intro first starts
    have none : first.accepted = [] := starts
    exact ⟨by simp [none], by simp [TotpContract.OnceEach, none]⟩
  · rintro before event after - sound ⟨spelling, step⟩
    cases step with
    | tick later =>
      exact ⟨fun acceptance member => (sound.marked acceptance member).congr later rfl, sound.once⟩
    | verify admitted => exact sound.verify contract spelling
    | elsewhere clock markers =>
      refine ⟨fun acceptance member => ?_, sound.once⟩
      exact (sound.marked acceptance member).congr clock.ge (by rw [markers])

end

/-! ## Two spellings of a code -/

theorem toDigits_injective {first second : ℕ}
    (same : Nat.toDigits 10 first = Nat.toDigits 10 second) : first = second :=
  Nat.ofDigitChars_ten_toDigits.symm.trans
    ((congrArg (Nat.ofDigitChars 10 · 0) same).trans Nat.ofDigitChars_ten_toDigits)

theorem toDigits_ne_minus (number : ℕ) (rest : List Char) : Nat.toDigits 10 number ≠ '-' :: rest := by
  intro same
  have digit : '-'.isDigit :=
    Nat.isDigit_of_mem_toDigits (by decide) (by decide) (same ▸ List.mem_cons_self)
  exact absurd digit (by decide)

theorem stepCode_injective {first second : ℤ} (same : stepCode first = stepCode second) :
    first = second := by
  cases first with
  | ofNat first =>
    cases second with
    | ofNat second =>
      have digits := toDigits_injective (String.ofList_injective same)
      have equal : first = second := by omega
      rw [equal]
    | negSucc second => exact absurd (String.ofList_injective same) (toDigits_ne_minus _ _)
  | negSucc first =>
    cases second with
    | ofNat second => exact absurd (String.ofList_injective same).symm (toDigits_ne_minus _ _)
    | negSucc second =>
      have digits := toDigits_injective (List.cons.inj (String.ofList_injective same)).2
      rw [digits]

/-- The small deployment meets what is relied on of `pyotp`. -/
def demoTotp : TotpContract demo where
  nfkc := nfkcDigits
  code _ step := stepCode step
  distinct _ _ _ := stepCode_injective
  verify_iff _ otp window now := by
    simp only [demo, List.any_eq_true, List.mem_range, beq_iff_eq]
    constructor
    · rintro ⟨offset, inRange, same⟩
      exact ⟨_, by omega, by omega, same⟩
    · rintro ⟨step, lower, upper, same⟩
      refine ⟨(step - (⌊now⌋ / 30 - window)).toNat, by omega, ?_⟩
      rw [same]
      congr 1
      omega

/-- Alice as she is stored once her second factor is enabled. -/
def alice : User ℚ where
  id := 1
  email := "alice@example.org"
  hashedPassword := "$Str0ng!pass"
  isVerified := true
  createdAt := 0

/-- The calls start where Alice has enabled her second factor. -/
def aliceCalls : TotpRun ℚ := ⟨aliceAuthorizes.server, []⟩

/-- The code of step 0, and the same code in full-width digits. -/
def aliceOtp : String := "100000"

def aliceWideOtp : String := "１０００００"

theorem totp_code_authorises_once_for_alice :
    demoTotp.OnceEach ((aliceCalls.verified demo alice aliceOtp).verified demo alice aliceOtp) := by
  have start : ((totpRuns demo).guarded demoTotp.KeepsSpelling).Reachable aliceCalls := .start rfl
  have first : ((totpRuns demo).guarded demoTotp.KeepsSpelling).step aliceCalls
      (.verify alice aliceOtp) (aliceCalls.verified demo alice aliceOtp) :=
    ⟨nofun, .verify (by decide +kernel)⟩
  have spelled : ∀ earlier ∈ (aliceCalls.verified demo alice aliceOtp).accepted,
      earlier.otp = aliceOtp := by decide +kernel
  have second : ((totpRuns demo).guarded demoTotp.KeepsSpelling).step
      (aliceCalls.verified demo alice aliceOtp) (.verify alice aliceOtp)
      ((aliceCalls.verified demo alice aliceOtp).verified demo alice aliceOtp) :=
    ⟨fun earlier member _ _ _ _ => (spelled earlier member).symm, .verify (by decide +kernel)⟩
  exact totp_code_authorises_once demoTotp ((start.step first).step second)

/-- The code is accepted a second time in full-width digits. -/
theorem totp_code_authorises_twice :
    ¬ ∀ run, (totpRuns demo).Reachable run → demoTotp.OnceEach run := by
  intro once
  have start : (totpRuns demo).Reachable aliceCalls := .start rfl
  have first : (totpRuns demo).step aliceCalls (.verify alice aliceOtp)
      (aliceCalls.verified demo alice aliceOtp) := .verify (by decide +kernel)
  have second : (totpRuns demo).step (aliceCalls.verified demo alice aliceOtp)
      (.verify alice aliceWideOtp)
      ((aliceCalls.verified demo alice aliceOtp).verified demo alice aliceWideOtp) :=
    .verify (by decide +kernel)
  have accepted := once _ ((start.step first).step second)
  have log : ((aliceCalls.verified demo alice aliceOtp).verified demo alice
      aliceWideOtp).accepted.map (fun entry => (entry.userId, entry.secret, entry.otp)) =
      [(1, "JBSWY3DP", aliceWideOtp), (1, "JBSWY3DP", aliceOtp)] := by decide +kernel
  obtain ⟨again, others, log, latest, rest⟩ := List.map_eq_cons_iff.mp log
  obtain ⟨before, _, rfl, earliest, _⟩ := List.map_eq_cons_iff.mp rest
  obtain ⟨userId, secret, otp, _⟩ := again
  obtain ⟨userId', secret', otp', _⟩ := before
  cases latest
  cases earliest
  unfold TotpContract.OnceEach at accepted
  rw [log, List.pairwise_cons] at accepted
  refine accepted.1 _ List.mem_cons_self ⟨rfl, rfl, 0, ?_, ?_⟩
  · change nfkcDigits aliceWideOtp = stepCode 0
    decide +kernel
  · change nfkcDigits aliceOtp = stepCode 0
    decide +kernel

end EnterpriseAuth

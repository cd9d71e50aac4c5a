import EnterpriseAuth.Guarantees.Rollback
import EnterpriseAuth.Guarantees.SecondFactor
import EnterpriseAuth.Requests.SecondFactors

/-!
# The life of a second factor

A second factor is set up, enabled with a code for its secret, and stays as it is until it is disabled
with the password and an accepted code.  Rows of recovery codes exist in between only.
-/

namespace EnterpriseAuth

open Effects Program TwoFactorService

variable {T : Type}

/-- Rows of recovery codes are for users whose second factor is on. -/
def Database.CodesWhileOn (db : Database T) : Prop :=
  ∀ row ∈ db.backupCodes.rows, db.TwoFactorOn row.userId

theorem Database.CodesWhileOn.of_codes {before after : Database T} {gains : Uuid → Prop}
    (codes : before.CodesWhileOn) (written : CodesOf gains before after)
    (enabled : ∀ userId, gains userId → before.TwoFactorOn userId) : after.CodesWhileOn := by
  intro row member
  simp only [Database.TwoFactorOn, written.twoFactorAuth]
  rcases written.owners row member with gained | ⟨earlier, stored, owner⟩
  · exact enabled row.userId gained
  · exact owner ▸ codes earlier stored

section
variable [LinearOrder T] {env : Environment T} {server : Server T} {user : User T}
  {after : Database T} {route : ProtectedRoute} {page : Page T}

/-! ## What a request does -/

theorem FactorOutcome.codesWhileOn (outcome : FactorOutcome env server user after route page)
    (codes : server.working.CodesWhileOn) : after.CodesWhileOn := by
  cases outcome with
  | kept _ kept | shown _ _ _ kept =>
    have written : CodesOf (fun _ => False) server.working after := .of_kept kept
    exact codes.of_codes written fun _ => False.elim
  | setup pending =>
    intro row member
    rw [pending.backupCodes] at member
    have enabled := codes row member
    have other : row.userId ≠ user.id := fun own => pending.off (own ▸ enabled)
    rwa [Database.TwoFactorOn, pending.others row.userId other]
  | confirmed confirmed =>
    intro row member
    rw [confirmed.backupCodes] at member
    rw [Database.TwoFactorOn, confirmed.enabled]
    split
    · exact ⟨_, rfl, rfl⟩
    · exact codes row member
  | codes enabled written => exact codes.of_codes written fun _ own => own ▸ enabled
  | disabled _ _ disabled =>
    intro row member
    obtain ⟨stored, other⟩ := disabled.backupCodes row member
    rw [Database.TwoFactorOn, disabled.twoFactorAuth, if_neg other]
    exact codes row stored

/-- A second factor that is on now and was not before has been confirmed. -/
theorem FactorOutcome.enables (outcome : FactorOutcome env server user after route page)
    {userId : Uuid} (off : ¬ server.working.TwoFactorOn userId) (enabled : after.TwoFactorOn userId) :
    user.id = userId ∧ ∃ otp record, route = .twoFactorVerify otp ∧
      Confirmed env server.clock server.working after userId otp record := by
  cases outcome with
  | kept _ kept | shown _ _ _ kept =>
    rw [Database.TwoFactorOn, kept.twoFactorAuth] at enabled
    exact absurd enabled off
  -- a setup leaves its own record disabled and the others alone
  | setup pending =>
    obtain ⟨record, found, on⟩ := enabled
    by_cases own : userId = user.id
    · obtain ⟨stored, foundStored, disabled, -⟩ := pending.stored
      rw [own, foundStored] at found
      cases found
      rw [disabled] at on
      cases on
    · rw [pending.others userId own] at found
      exact absurd ⟨record, found, on⟩ off
  | @confirmed otp detail record confirmed =>
    by_cases own : userId = user.id
    · subst own
      exact ⟨rfl, otp, record, rfl, confirmed⟩
    · rw [Database.TwoFactorOn, confirmed.enabled, if_neg own] at enabled
      exact absurd enabled off
  | codes _ written =>
    rw [Database.TwoFactorOn, written.twoFactorAuth] at enabled
    exact absurd enabled off
  | disabled _ _ disabled =>
    rw [Database.TwoFactorOn, disabled.twoFactorAuth] at enabled
    split at enabled
    · obtain ⟨_, found, -⟩ := enabled
      cases found
    · exact absurd enabled off

/-- An enabled record stays as it is, unless its user disables it, and then it is gone. -/
theorem FactorOutcome.keeps (outcome : FactorOutcome env server user after route page)
    {userId : Uuid} {record : TwoFactorAuth T}
    (found : server.working.twoFactorAuth.find userId = some record) (enabled : record.enabled = true) :
    after.twoFactorAuth.find userId = some record ∨
      after.twoFactorAuth.find userId = none ∧ user.id = userId ∧ ∃ password otp,
        route = .twoFactorDisable password otp ∧
        env.verifyPassword password user.hashedPassword = true ∧ server.AcceptsOtp env user otp := by
  cases outcome with
  | kept _ kept | shown _ _ _ kept => exact .inl (by rw [kept.twoFactorAuth, found])
  | setup pending =>
    have other : userId ≠ user.id := by
      rintro rfl
      exact pending.off ⟨record, found, enabled⟩
    exact .inl (by rw [pending.others userId other, found])
  | confirmed confirmed =>
    have other : userId ≠ user.id := by
      rintro rfl
      have pending := confirmed.pending
      rw [Option.some.inj (confirmed.found.symm.trans found), enabled] at pending
      cases pending
    exact .inl (by rw [confirmed.enabled, if_neg other, found])
  | codes _ written => exact .inl (by rw [written.twoFactorAuth, found])
  | @disabled password otp detail right accepts disabled =>
    by_cases own : userId = user.id
    · have gone : after.twoFactorAuth.find userId = none := by
        rw [disabled.twoFactorAuth, if_pos own]
      exact .inr ⟨gone, own.symm, password, otp, rfl, right, accepts⟩
    · exact .inl (by rw [disabled.twoFactorAuth, if_neg own, found])

/-- A page shows the secret of a pending record only, and to its user. -/
theorem FactorOutcome.hides (outcome : FactorOutcome env server user after route page)
    {secret : String} (shows : page.secret = some secret) :
    ¬ server.working.TwoFactorOn user.id ∧ ∃ record,
      after.twoFactorAuth.find user.id = some record ∧ record.enabled = false ∧
        record.Holds env secret := by
  cases outcome with
  | kept hidden => rw [hidden] at shows; cases shows
  | @shown _ _ record found pending decrypted kept =>
    cases shows
    refine ⟨?_, record, by rw [kept.twoFactorAuth, found], pending, .inl decrypted⟩
    rintro ⟨other, foundOther, enabled⟩
    rw [found] at foundOther
    cases foundOther
    rw [pending] at enabled
    cases enabled
  | setup pending => cases shows; exact ⟨pending.off, pending.stored⟩
  | confirmed | codes | disabled => cases shows

end

/-! ## Exchanges -/

section
variable [CommRing T] [LinearOrder T] [FloorRing T] {env : Environment T} {world next : World T}
  {arrival : Arrival}

/-- What a request that succeeds has made of the second factors is committed. -/
theorem factors_of_answered {reply : Reply T}
    (answered : (world.exchange env arrival).reply = .ok reply) :
    world.server.Factors env arrival reply (world.afterRequest env arrival).db := by
  have ran : (serve env arrival).run handle world.server =
      (.ok reply, (world.exchange env arrival).after) := Prod.ext answered rfl
  obtain ⟨_, limited, limits, rest⟩ := run_bind_ok ran
  obtain ⟨result, served, serves, rest⟩ := run_bind_ok rest
  simp only [run_bind, run_commitAfterResponse, run_pure, Prod.mk.injEq, Except.ok.injEq] at rest
  obtain ⟨rfl, left⟩ := rest
  have users : limited.working.users = world.server.working.users :=
    congrArg Database.users (Within.of_exact .reads limits).working
  have factors := (factors_dispatch serves).apart users (apart_of_run limits)
  rwa [World.afterRequest, ← left]

/-- An event leaves the second factors alone, or it is a request that succeeds. -/
theorem factors_of_step {event : Event T} (step : World.Step env world event next) :
    world.db.KeepsSecondFactor next.db ∨ ∃ arrival reply, event = .request arrival ∧
      world.server.Factors env arrival reply next.db := by
  cases step with
  | tick | setUserActive => exact .inl ⟨rfl, rfl⟩
  | @request arrival owned =>
    cases replied : (world.exchange env arrival).reply with
    | ok reply => exact .inr ⟨arrival, reply, rfl, factors_of_answered replied⟩
    | error error =>
      obtain ⟨sessions, same⟩ := sessions_of_error replied
      refine .inl ?_
      rw [show (world.afterRequest env arrival).db = _ from same]
      exact ⟨rfl, rfl⟩

theorem codesWhileOn_of_step {event : Event T} (codes : world.db.CodesWhileOn)
    (step : World.Step env world event next) : next.db.CodesWhileOn := by
  have of_kept {after : Database T} (written : CodesOf (fun _ => False) world.db after) :
      after.CodesWhileOn := codes.of_codes written fun _ => False.elim
  rcases factors_of_step step with kept | ⟨arrival, reply, -, factors⟩
  · exact of_kept (.of_kept kept)
  · cases factors with
    | elsewhere _ written => exact of_kept written
    | caller _ _ _ _ outcome => exact outcome.codesWhileOn codes

/-! ## The lifecycle -/

variable (env)

/-- The service, from any world in which rows of recovery codes are for users whose second factor is
on. -/
def secondFactors : System (World T) (Event T) where
  start world := world.db.CodesWhileOn
  step := World.Step env

/-- What is true of the second factors in a world, and of whatever happens next. -/
structure World.SecondFactorsSound (world : World T) : Prop where
  single : world.db.twoFactorAuth.rows.Pairwise fun first second => first.userId ≠ second.userId
  codes : world.db.CodesWhileOn
  enables : ∀ event next userId, World.Step env world event next →
    ¬ world.db.TwoFactorOn userId → next.db.TwoFactorOn userId →
    ∃ arrival otp record, event = .request arrival ∧
      arrival.route = .withAccess (.twoFactorVerify otp) ∧ arrival.http.ActsFor userId ∧
      Confirmed env world.clock world.db next.db userId otp record
  keeps : ∀ event next userId record, World.Step env world event next →
    world.db.twoFactorAuth.find userId = some record → record.enabled = true →
    next.db.twoFactorAuth.find userId = some record ∨
      next.db.twoFactorAuth.find userId = none ∧
      ∃ arrival user password otp, event = .request arrival ∧
        arrival.route = .withAccess (.twoFactorDisable password otp) ∧
        arrival.http.ActsFor userId ∧ world.db.users.find userId = some user ∧
        env.verifyPassword password user.hashedPassword = true ∧
        ((verifyTotp env user otp).run handle world.server).1 = .ok ()
  /-- a reply shows the secret of its caller's pending record, if any -/
  hides : ∀ arrival reply secret, (world.exchange env arrival).reply = .ok reply →
    reply.secret = some secret → ∃ userId record, arrival.http.ActsFor userId ∧
      ¬ world.db.TwoFactorOn userId ∧
      (world.afterRequest env arrival).db.twoFactorAuth.find userId = some record ∧
      record.enabled = false ∧ record.Holds env secret

variable {env}

theorem enabled_of_step {event : Event T} {userId : Uuid} (step : World.Step env world event next)
    (off : ¬ world.db.TwoFactorOn userId) (enabled : next.db.TwoFactorOn userId) :
    ∃ arrival otp record, event = .request arrival ∧
      arrival.route = .withAccess (.twoFactorVerify otp) ∧ arrival.http.ActsFor userId ∧
      Confirmed env world.clock world.db next.db userId otp record := by
  rcases factors_of_step step with kept | ⟨arrival, reply, same, factors⟩
  · rw [Database.TwoFactorOn, kept.twoFactorAuth] at enabled
    exact absurd enabled off
  · cases factors with
    | elsewhere _ written =>
      rw [Database.TwoFactorOn, written.twoFactorAuth] at enabled
      exact absurd enabled off
    | caller routed _ _ acts outcome =>
      obtain ⟨rfl, otp, record, rfl, confirmed⟩ := outcome.enables off enabled
      exact ⟨arrival, otp, record, same, routed, acts, confirmed⟩

theorem kept_of_step {event : Event T} {userId : Uuid} {record : TwoFactorAuth T}
    (step : World.Step env world event next)
    (found : world.db.twoFactorAuth.find userId = some record) (enabled : record.enabled = true) :
    next.db.twoFactorAuth.find userId = some record ∨
      next.db.twoFactorAuth.find userId = none ∧
      ∃ arrival user password otp, event = .request arrival ∧
        arrival.route = .withAccess (.twoFactorDisable password otp) ∧
        arrival.http.ActsFor userId ∧ world.db.users.find userId = some user ∧
        env.verifyPassword password user.hashedPassword = true ∧
        ((verifyTotp env user otp).run handle world.server).1 = .ok () := by
  rcases factors_of_step step with kept | ⟨arrival, reply, same, factors⟩
  · exact .inl (by rw [kept.twoFactorAuth, found])
  · cases factors with
    | elsewhere _ written => exact .inl (by rw [written.twoFactorAuth]; exact found)
    | caller routed _ stored acts outcome =>
      rcases outcome.keeps found enabled with stays | ⟨gone, rfl, password, otp, rfl, right, accepts⟩
      · exact .inl stays
      · exact .inr ⟨gone, arrival, _, password, otp, same, routed, acts, stored, right,
          verifyTotp_ok_iff.mpr accepts⟩

theorem hidden_of_answered {reply : Reply T} {secret : String}
    (answered : (world.exchange env arrival).reply = .ok reply) (shows : reply.secret = some secret) :
    ∃ userId record, arrival.http.ActsFor userId ∧ ¬ world.db.TwoFactorOn userId ∧
      (world.afterRequest env arrival).db.twoFactorAuth.find userId = some record ∧
      record.enabled = false ∧ record.Holds env secret := by
  cases factors_of_answered answered with
  | elsewhere hidden => rw [hidden] at shows; cases shows
  | @caller _ _ user _ isPage _ acts outcome =>
    subst isPage
    obtain ⟨off, record, stored, pending, holds⟩ := outcome.hides shows
    exact ⟨user.id, record, acts, off, stored, pending, holds⟩

theorem second_factor_lifecycle (reachable : (secondFactors env).Reachable world) :
    world.SecondFactorsSound env where
  single := List.pairwise_map.mp world.db.twoFactorAuth.distinct
  codes := System.Reachable.invariant (fun world : World T => world.db.CodesWhileOn) reachable
    (fun _ starts => starts) fun _ _ _ _ codes step => codesWhileOn_of_step codes step
  enables _ _ _ step off enabled := enabled_of_step step off enabled
  keeps _ _ _ _ step found enabled := kept_of_step step found enabled
  hides _ _ _ answered shows := hidden_of_answered answered shows

/-- Nobody has a recovery code at first, and Alice's second factor is on at last. -/
theorem second_factor_lifecycle_of_alice : aliceAuthorizes.SecondFactorsSound demo := by
  have starts : (secondFactors demo).start World.new := by
    intro row member
    cases member
  have leads : (secondFactors demo).Leads World.new aliceAuthorizes := leads_play (by decide +kernel)
  exact second_factor_lifecycle ⟨World.new, starts, leads⟩

end

end EnterpriseAuth

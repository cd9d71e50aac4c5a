import EnterpriseAuth.Guarantees.Letters

/-!
# Verified addresses

An address is marked as verified only when it has been proven: by a token that was mailed to it, or by
the provider through which the user signed up.  Tokens are not tied to an address, and yet a token for
the first address of a user can never verify a second one, because a change of address proves the new
address itself.
-/

namespace EnterpriseAuth

open Effects Program

variable {T : Type} {env : Environment T}

/-! ## Proofs of an address -/

/-- A token of the user that had been mailed to the address was consumed. -/
def Consumed (env : Environment T) (history : List (Exchange T)) (userId : Uuid) (email : String) :
    Prop :=
  ∃ later consumption earlier purpose raw token mailing mailed,
    history = later ++ consumption :: earlier ∧ consumption.Accepts purpose raw ∧
    consumption.before.committed.emailTokens.find (env.sha256Hex raw) = some token ∧
    token.userId = userId ∧ mailing ∈ earlier ∧ mailing.Issues env email mailed token

/-- The user was created by a callback whose provider reported the address as verified. -/
def CreatedVerified (env : Environment T) (history : List (Exchange T)) (userId : Uuid)
    (email : String) : Prop :=
  ∃ creation ∈ history, ∃ reported, creation.arrival.Reports reported true ∧
    email = env.lower reported ∧ creation.before.committed.users.find userId = none ∧
    ∃ user, creation.after.committed.users.find userId = some user ∧ user.email = email

def Proven (env : Environment T) (history : List (Exchange T)) (userId : Uuid) (email : String) :
    Prop :=
  Consumed env history userId email ∨ CreatedVerified env history userId email

theorem Proven.cons {history : List (Exchange T)} {userId : Uuid} {email : String}
    (proven : Proven env history userId email) (exchange : Exchange T) :
    Proven env (exchange :: history) userId email := by
  rcases proven with consumed | ⟨creation, member, created⟩
  · obtain ⟨later, consumption, earlier, purpose, raw, token, mailing, mailed, rfl, rest⟩ := consumed
    exact .inl ⟨exchange :: later, consumption, earlier, purpose, raw, token, mailing, mailed, rfl,
      rest⟩
  · exact .inr ⟨creation, List.mem_cons_of_mem _ member, created⟩

/-! ## The invariant -/

/-- The token was mailed.  What a verification was mailed to is the address of its user for as long as
that is not verified. -/
structure Mailed (env : Environment T) (history : List (Exchange T)) (state : MailState T)
    (token : EmailToken T) : Prop where
  ofUser : (state.address token.userId).isSome
  letter : ∃ mailing ∈ history, ∃ recipient raw issued, mailing.Issues env recipient raw issued ∧
    (token = issued ∨ ∃ now, token = issued.used now) ∧
    (token.purpose = .verifyEmail →
      ∀ email, state.address token.userId = some (email, false) → email = recipient) ∧
    (token.purpose = .changeEmail → token.newEmail = some recipient)

structure Traced (env : Environment T) (history : List (Exchange T)) (state : MailState T) : Prop where
  tokens : ∀ hash token, state.tokens.find hash = some token → Mailed env history state token
  verified : ∀ userId email, state.address userId = some (email, true) →
    Proven env history userId email

variable {history : List (Exchange T)} {before after : MailState T}

/-- A mailed token stays mailed while unverified addresses stay what they were. -/
theorem Mailed.carry {token : EmailToken T} (mailed : Mailed env history before token)
    (known : (after.address token.userId).isSome)
    (same : ∀ email, after.address token.userId = some (email, false) →
      before.address token.userId = some (email, false)) :
    Mailed env history after token := by
  obtain ⟨-, mailing, member, recipient, raw, issued, issues, origin, verification, change⟩ := mailed
  refine ⟨known, mailing, member, recipient, raw, issued, issues, origin, ?_, change⟩
  exact fun purpose email unverified => verification purpose email (same email unverified)

theorem Mailed.used {token : EmailToken T} (mailed : Mailed env history before token) (now : T) :
    Mailed env history before (token.used now) := by
  obtain ⟨ofUser, mailing, member, recipient, raw, issued, issues, origin, rest⟩ := mailed
  refine ⟨ofUser, mailing, member, recipient, raw, issued, issues, .inr ⟨now, ?_⟩, rest⟩
  rcases origin with rfl | ⟨earlier, rfl⟩ <;> rfl

theorem Traced.cons (traced : Traced env history before) (exchange : Exchange T) :
    Traced env (exchange :: history) before where
  tokens hash token found := by
    obtain ⟨ofUser, mailing, member, rest⟩ := traced.tokens hash token found
    exact ⟨ofUser, mailing, List.mem_cons_of_mem _ member, rest⟩
  verified userId email proven := (traced.verified userId email proven).cons exchange

theorem Traced.congr (traced : Traced env history before) (tokens : after.tokens = before.tokens)
    (address : after.address = before.address) : Traced env history after where
  tokens hash token found := by
    rw [tokens] at found
    have mailed := traced.tokens hash token found
    exact mailed.carry (address ▸ mailed.ofUser) fun _ unverified => address ▸ unverified
  verified userId email isVerified := traced.verified userId email (address ▸ isVerified)

/-- A new user has no tokens yet. -/
theorem Traced.enroll (traced : Traced env history before) {userId : Uuid} {email : String}
    {verified : Bool} (enrolled : Enrolled before after userId email verified)
    (proven : verified = true → Proven env history userId email) : Traced env history after where
  tokens hash token found := by
    rw [enrolled.tokens] at found
    have mailed := traced.tokens hash token found
    have other : token.userId ≠ userId := by
      intro same
      simpa [same, enrolled.fresh] using mailed.ofUser
    have kept : after.address token.userId = before.address token.userId := by
      rw [enrolled.address, Function.update_of_ne other]
    exact mailed.carry (kept ▸ mailed.ofUser) fun _ unverified => kept ▸ unverified
  verified other address isVerified := by
    rw [enrolled.address, Function.update_apply] at isVerified
    split at isVerified
    next same =>
      cases isVerified
      exact same ▸ proven rfl
    next => exact traced.verified other address isVerified

theorem Traced.issue (traced : Traced env history before) {row : EmailToken T}
    {recipient raw : String} (issued : Issued env before after row recipient raw)
    {exchange : Exchange T} (member : exchange ∈ history)
    (issues : exchange.Issues env recipient raw row) : Traced env history after where
  tokens hash token found := by
    rw [Table.find_insert issued.tokens] at found
    split at found
    next =>
      cases found
      refine ⟨by rw [issued.address]; exact issued.known, exchange, member, recipient, raw, row, issues,
        .inl rfl, fun purpose email unverified => ?_, issued.change⟩
      have address := issued.verification purpose
      rw [issued.address, address] at unverified
      cases unverified
      rfl
    next =>
      rw [Table.find_removeWhere, Option.filter_eq_some_iff] at found
      have mailed := traced.tokens hash token found.1
      refine mailed.carry ?_ fun _ unverified => ?_
      · rw [issued.address]
        exact mailed.ofUser
      · rwa [issued.address] at unverified
  verified userId email isVerified := by
    rw [issued.address] at isVerified
    exact traced.verified userId email isVerified

variable [LinearOrder T]

section
variable {purpose : Purpose} {raw : String} {token : EmailToken T} {now : T}

theorem Redeemed.known (redeemed : Redeemed env now before after purpose raw token) {userId : Uuid}
    (known : (before.address userId).isSome) : (after.address userId).isSome := by
  rw [redeemed.address, Function.update_apply]
  split
  next same => simpa [← same] using known
  next => exact known

/-- No token marks an address as unverified. -/
theorem Redeemed.unverified (redeemed : Redeemed env now before after purpose raw token)
    {userId : Uuid} {email : String} (unverified : after.address userId = some (email, false)) :
    before.address userId = some (email, false) := by
  rw [redeemed.address, Function.update_apply] at unverified
  split at unverified
  next same =>
    subst same
    cases stored : before.address token.userId with
    | none => simp [stored] at unverified
    | some address =>
      cases kind : token.purpose <;> simp_all [EmailToken.proves]
  next => exact unverified

end

/-- Whom a redeemed token verifies, it proves the address of. -/
theorem Traced.redeem (traced : Traced env history before) {purpose : Purpose} {raw : String}
    {token : EmailToken T} {now : T} (redeemed : Redeemed env now before after purpose raw token)
    {exchange : Exchange T} (accepts : exchange.Accepts purpose raw)
    (same : exchange.before.committed.emailTokens = before.tokens) :
    Traced env (exchange :: history) after := by
  have mailed := traced.tokens _ token redeemed.found
  obtain ⟨ofUser, mailing, member, recipient, sent, issued, issues, origin, verification, change⟩ :=
    mailed
  -- an unused token is stored as it was issued
  have isIssued : issued = token := by
    rcases origin with rfl | ⟨earlier, rfl⟩
    · rfl
    · exact absurd redeemed.valid.unused nofun
  subst isIssued
  have consumes : Proven env (exchange :: history) issued.userId recipient :=
    .inl ⟨[], exchange, history, purpose, raw, issued, mailing, sent, rfl, accepts,
      same ▸ redeemed.found, rfl, member, issues⟩
  refine ⟨fun hash token found => ?_, fun userId email isVerified => ?_⟩
  · have carried {token : EmailToken T} (mailed : Mailed env (exchange :: history) before token) :
        Mailed env (exchange :: history) after token :=
      mailed.carry (redeemed.known mailed.ofUser) fun _ => redeemed.unverified
    rw [redeemed.tokens, find_useToken] at found
    split at found
    · obtain ⟨stored, foundStored, rfl⟩ := Option.map_eq_some_iff.mp found
      exact carried (((traced.cons exchange).tokens hash stored foundStored).used now)
    · exact carried ((traced.cons exchange).tokens hash token found)
  · rw [redeemed.address, Function.update_apply] at isVerified
    split at isVerified
    next same =>
      subst same
      obtain ⟨⟨current, verified⟩, address, proves⟩ := Option.map_eq_some_iff.mp isVerified
      cases kind : issued.purpose with
      | resetPassword =>
        simp only [EmailToken.proves, kind] at proves
        exact (traced.verified _ email (proves ▸ address)).cons exchange
      | changeEmail =>
        -- the new address is the one the token was mailed to
        simp only [EmailToken.proves, kind, change kind, Option.getD_some, Prod.mk.injEq,
          and_true] at proves
        exact proves ▸ consumes
      | verifyEmail =>
        simp only [EmailToken.proves, kind, Prod.mk.injEq, and_true] at proves
        subst proves
        cases verified with
        | true => exact (traced.verified _ current address).cons exchange
        | false => exact verification kind current address ▸ consumes
    next => exact (traced.verified userId email isVerified).cons exchange

/-! ## Runs -/

variable [CommRing T] [FloorRing T] {world : World T} {arrival : Arrival}

theorem Traced.exchange (traced : Traced env world.history world.server.mail) :
    Traced env (world.afterRequest env arrival).history (world.exchange env arrival).mail := by
  have later := traced.cons (world.exchange env arrival)
  obtain same | ⟨answered, outcome⟩ := mail_cases env world arrival
  · rw [same]
    exact later
  · generalize became : (world.exchange env arrival).mail = after at outcome
    cases outcome with
    | kept same => rw [same]; exact later
    | @issued middle row recipient raw draw enrolls drawn first last issued =>
      have registered : Traced env (world.afterRequest env arrival).history middle := by
        rcases enrolls with rfl | ⟨userId, email, enrolled⟩
        · exact later
        · exact later.enroll enrolled nofun
      subst became
      exact registered.issue issued (List.mem_cons_self ..) issued.issues
    -- a user created by a callback is verified when the provider vouches for the address
    | @enrolled userId reported verified reports enrolled =>
      subst became
      refine later.enroll enrolled fun isVerified => .inr ⟨_, List.mem_cons_self .., reported, ?_⟩
      subst isVerified
      refine ⟨reports, rfl, ?_, ?_⟩
      · exact Option.map_eq_none_iff.mp enrolled.fresh
      · have address : (world.exchange env arrival).mail.address userId =
            some (env.lower reported, true) := by
          rw [enrolled.address, Function.update_self]
        obtain ⟨user, found, same⟩ := Option.map_eq_some_iff.mp address
        exact ⟨user, found, (Prod.mk.inj same).1⟩
    | redeemed redeems redeemed => exact traced.redeem redeemed ⟨redeems, answered⟩ rfl

omit [LinearOrder T] [CommRing T] [FloorRing T] in
/-- Disabling a user changes no address. -/
theorem Database.address_setActive (db : Database T) (userId : Uuid) (active : Bool) :
    ({ db with
      users := db.users.modify userId (fun user => { user with isActive := active })
        fun _ => rfl } : Database T).address = db.address := by
  funext other
  simp only [Database.address, Table.find_modify]
  split
  · rw [Option.map_map]
    rfl
  · rfl

theorem traced_of_reachable (reachable : (deployed env).Reachable world) :
    Traced env world.history world.server.mail := by
  refine System.Reachable.invariant (fun world => Traced env world.history world.server.mail)
    reachable ?_ ?_
  · intro first fresh
    constructor
    · intro hash token found
      rw [Server.mail, World.server, fresh.noEmailTokens] at found
      cases found
    · intro userId email verified
      simp [Server.mail, World.server, Database.address, fresh.noUsers] at verified
  · intro before event after _ traced step
    cases step with
    | tick => exact traced
    | request => exact traced.exchange.congr rfl rfl
    | setUserActive userId active =>
      exact traced.congr rfl (Database.address_setActive before.db userId active)

/-- In every state each verified user has an address that was proven: a consumed token of the user had
been mailed to it, or the user was created by a callback whose provider reported it as verified. -/
theorem verified_addresses_proven (reachable : (deployed env).Reachable world) {userId : Uuid}
    {user : User T} (found : world.db.users.find userId = some user)
    (verified : user.isVerified = true) :
    Consumed env world.history userId user.email ∨
      CreatedVerified env world.history userId user.email := by
  refine (traced_of_reachable reachable).verified userId user.email ?_
  simp [Server.mail, World.server, Database.address, found, verified]

/-- Alice has shown the token that was mailed to her. -/
def aliceVerified : World ℚ := World.new.play demo [.request registerAlice, .request verifyAlice]

/-- Alice's address is verified, and was proven. -/
theorem address_of_alice_proven :
    ∃ user, aliceVerified.db.users.find 1 = some user ∧ user.isVerified = true ∧
      (Consumed demo aliceVerified.history 1 user.email ∨
        CreatedVerified demo aliceVerified.history 1 user.email) := by
  have stored : (aliceVerified.db.users.find 1).any (·.isVerified) := by decide +kernel
  obtain ⟨user, found, verified⟩ := (Option.any_eq_true _ _).mp stored
  have reachable : (deployed demo).Reachable aliceVerified := deployed_play (by decide +kernel)
  exact ⟨user, found, verified, verified_addresses_proven reachable found verified⟩

end EnterpriseAuth

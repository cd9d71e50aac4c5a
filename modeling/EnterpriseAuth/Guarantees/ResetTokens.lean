import EnterpriseAuth.Guarantees.EmailTokens
import EnterpriseAuth.Guarantees.VerifiedAddresses

/-!
# Whom a reset token was mailed to

A reset token names its user and no address.  It is mailed to the address that the user has at that
moment, and a later change of the address leaves it valid.
-/

namespace EnterpriseAuth

open Effects Program

variable {T : Type} {env : Environment T}

/-! ## The invariant -/

/-- The exchange has accepted the token by which the user moves to the address. -/
def Exchange.ConfirmsAddress (env : Environment T) (exchange : Exchange T) (userId : Uuid)
    (email : String) : Prop :=
  ∃ raw token, exchange.Accepts .changeEmail raw ∧
    exchange.before.committed.emailTokens.find (env.sha256Hex raw) = some token ∧
    token.userId = userId ∧ token.newEmail = some email

/-- The token was mailed to the address that its user had then.  If the user has another one now, it
has been confirmed since. -/
def MailedToOwner (env : Environment T) (history : List (Exchange T))
    (address : Uuid → Option (String × Bool)) (raw : String) (token : EmailToken T) : Prop :=
  ∃ later mailing earlier recipient, history = later ++ mailing :: earlier ∧
    mailing.Issues env recipient raw token ∧
    (∃ verified, mailing.after.committed.address token.userId = some (recipient, verified)) ∧
    ∀ email verified, address token.userId = some (email, verified) →
      email = recipient ∨ ∃ change ∈ later, change.ConfirmsAddress env token.userId email

/-- Every stored reset token was. -/
def ResetsMailed (env : Environment T) (history : List (Exchange T)) (state : MailState T) : Prop :=
  ∀ hash token, state.tokens.find hash = some token → token.purpose = .resetPassword →
    ∃ draw issued, MailedToOwner env history state.address (env.tokenUrlsafe draw) issued ∧
      (token = issued ∨ ∃ now, token = issued.used now)

variable {history : List (Exchange T)} {before after : MailState T}

/-- The user of the token keeps the address, or the exchange confirms the new one. -/
theorem MailedToOwner.cons {address moved : Uuid → Option (String × Bool)} {raw : String}
    {token : EmailToken T} {exchange : Exchange T}
    (mailed : MailedToOwner env history address raw token)
    (moves : ∀ email verified, moved token.userId = some (email, verified) →
      (∃ earlier, address token.userId = some (email, earlier)) ∨
        exchange.ConfirmsAddress env token.userId email) :
    MailedToOwner env (exchange :: history) moved raw token := by
  obtain ⟨later, mailing, earlier, recipient, rfl, issues, owner, since⟩ := mailed
  refine ⟨exchange :: later, mailing, earlier, recipient, rfl, issues, owner, ?_⟩
  intro email verified current
  rcases moves email verified current with ⟨verifiedBefore, kept⟩ | confirms
  · refine (since email verifiedBefore kept).imp id ?_
    rintro ⟨change, member, confirms⟩
    exact ⟨change, List.mem_cons_of_mem _ member, confirms⟩
  · exact .inr ⟨exchange, List.mem_cons_self, confirms⟩

theorem ResetsMailed.cons {exchange : Exchange T} (mailed : ResetsMailed env history before)
    (stored : ∀ hash token, after.tokens.find hash = some token → token.purpose = .resetPassword →
      ∃ old, before.tokens.find hash = some old ∧ (token = old ∨ ∃ now, token = old.used now))
    (moves : ∀ hash token email verified, before.tokens.find hash = some token →
      after.address token.userId = some (email, verified) →
      (∃ earlier, before.address token.userId = some (email, earlier)) ∨
        exchange.ConfirmsAddress env token.userId email) :
    ResetsMailed env (exchange :: history) after := by
  intro hash token found isReset
  obtain ⟨old, foundOld, same⟩ := stored hash token found isReset
  have oldReset : old.purpose = .resetPassword := by
    rcases same with rfl | ⟨now, rfl⟩ <;> exact isReset
  obtain ⟨draw, issued, toOwner, origin⟩ := mailed hash old foundOld oldReset
  have sameUser : old.userId = issued.userId := by
    rcases origin with rfl | ⟨now, rfl⟩ <;> rfl
  refine ⟨draw, issued, toOwner.cons fun email verified current => ?_, ?_⟩
  · rw [← sameUser] at current ⊢
    exact moves hash old email verified foundOld current
  · rcases same with rfl | ⟨now, rfl⟩
    · exact origin
    · rcases origin with rfl | ⟨earlier, rfl⟩ <;> exact .inr ⟨now, rfl⟩

/-- Every stored token is of a user who is there. -/
def MailState.Owned (state : MailState T) : Prop :=
  ∀ hash token, state.tokens.find hash = some token → (state.address token.userId).isSome

/-- A user who is added is not the user of a token. -/
theorem Enrolled.moves {userId : Uuid} {email : String} {verified : Bool}
    (enrolled : Enrolled before after userId email verified) (owned : before.Owned) {hash : String}
    {token : EmailToken T} (found : before.tokens.find hash = some token) :
    after.address token.userId = before.address token.userId := by
  have known := owned hash token found
  rw [enrolled.address, Function.update_of_ne]
  intro same
  rw [same, enrolled.fresh] at known
  cases known

variable [LinearOrder T]

theorem ResetsMailed.redeem (mailed : ResetsMailed env history before) {purpose : Purpose}
    {raw : String} {token : EmailToken T} {now : T} {exchange : Exchange T}
    (redeemed : Redeemed env now before after purpose raw token)
    (accepts : exchange.Accepts purpose raw)
    (same : exchange.before.committed.emailTokens = before.tokens) :
    ResetsMailed env (exchange :: history) after := by
  refine mailed.cons (fun hash other found _ => ?_) fun hash other email verified found current => ?_
  · rw [redeemed.tokens, find_useToken] at found
    split at found
    · obtain ⟨stored, foundStored, rfl⟩ := Option.map_eq_some_iff.mp found
      exact ⟨stored, foundStored, .inr ⟨now, rfl⟩⟩
    · exact ⟨other, found, .inl rfl⟩
  · rw [redeemed.address, Function.update_apply] at current
    split at current
    next sameUser =>
      rw [sameUser]
      obtain ⟨⟨old, wasVerified⟩, address, proves⟩ := Option.map_eq_some_iff.mp current
      cases kind : token.purpose with
      | verifyEmail | resetPassword =>
        simp only [EmailToken.proves, kind, Prod.mk.injEq] at proves
        exact .inl ⟨wasVerified, proves.1 ▸ address⟩
      | changeEmail =>
        -- only this purpose moves the user, to the address that the token names
        obtain rfl : purpose = .changeEmail := redeemed.valid.purpose.symm.trans kind
        obtain ⟨newEmail, named⟩ := Option.isSome_iff_exists.mp (redeemed.newEmail rfl)
        simp only [EmailToken.proves, kind, named, Option.getD_some, Prod.mk.injEq] at proves
        exact .inr ⟨raw, token, accepts, same ▸ redeemed.found, rfl, proves.1 ▸ named⟩
    next => exact .inl ⟨verified, current⟩

variable [CommRing T] [FloorRing T] {world : World T} {arrival : Arrival}

theorem ResetsMailed.exchange (mailed : ResetsMailed env world.history world.server.mail)
    (owned : world.server.mail.Owned) :
    ResetsMailed env (world.afterRequest env arrival).history (world.exchange env arrival).mail := by
  have kept {after : MailState T} (tokens : after.tokens = world.server.mail.tokens)
      (address : ∀ hash token, world.server.mail.tokens.find hash = some token →
        after.address token.userId = world.server.mail.address token.userId) :
      ResetsMailed env (world.afterRequest env arrival).history after :=
    mailed.cons (fun hash token found _ => ⟨token, tokens ▸ found, .inl rfl⟩)
      fun hash token email verified found current => .inl ⟨verified, address hash token found ▸ current⟩
  obtain same | ⟨answered, outcome⟩ := mail_cases env world arrival
  · rw [same]
    exact kept rfl fun _ _ _ => rfl
  · generalize became : (world.exchange env arrival).mail = after at outcome
    cases outcome with
    | kept same => rw [same]; exact kept rfl fun _ _ _ => rfl
    | enrolled _ enrolled => exact kept enrolled.tokens fun _ _ found => enrolled.moves owned found
    | redeemed redeems redeemed => exact mailed.redeem redeemed ⟨redeems, answered⟩ rfl
    -- the new token is the newest of the user, and the older ones of its purpose are deleted
    | @issued middle row recipient raw draw enrolls drawn first last issued =>
      have before : ResetsMailed env (world.afterRequest env arrival).history middle := by
        rcases enrolls with rfl | ⟨userId, email, enrolled⟩
        · exact kept rfl fun _ _ _ => rfl
        · exact kept enrolled.tokens fun _ _ found => enrolled.moves owned found
      subst became drawn
      intro hash token found isReset
      rw [Table.find_insert issued.tokens, Table.find_removeWhere] at found
      split at found
      · cases found
        obtain ⟨verified, address⟩ := issued.reset isReset
        rw [← issued.address] at address
        refine ⟨draw, row, ⟨[], _, world.history, recipient, rfl, issued.issues, ⟨verified, address⟩,
          fun email other current => .inl ?_⟩, .inl rfl⟩
        rw [address] at current
        cases current
        rfl
      · rw [issued.address]
        exact before hash token (Option.filter_eq_some_iff.mp found).1 isReset

theorem resetsMailed_of_reachable (reachable : (deployed env).Reachable world) :
    ResetsMailed env world.history world.server.mail := by
  refine System.Reachable.invariant (fun world => ResetsMailed env world.history world.server.mail)
    reachable ?_ ?_
  · intro first fresh hash token found
    rw [Server.mail, World.server, fresh.noEmailTokens] at found
    cases found
  · intro before event after earlier mailed step
    have owned : before.server.mail.Owned := fun hash token found =>
      ((traced_of_reachable earlier).tokens hash token found).ofUser
    cases step with
    | tick => exact mailed
    | request => exact mailed.exchange owned
    | setUserActive userId active =>
      intro hash token found isReset
      simp only [Server.mail, World.server, Database.address_setActive]
      exact mailed hash token found isReset

/-! ## Whose password is reset -/

variable {raw newPassword : String} {reply : Reply T}

/-- The stored token that a reset has accepted. -/
def World.ResetsWith (env : Environment T) (world : World T) (raw : String) (token : EmailToken T) :
    Prop :=
  world.db.emailTokens.find (env.sha256Hex raw) = some token ∧ token.purpose = .resetPassword

/-- The token that resets the password of a user had been mailed to the address of that user.  It is
still the user's address, unless a change of address has been confirmed since. -/
theorem reset_token_mailed_to_owner (distinct : TokensDistinct env)
    (reachable : (deployed env).Reachable world)
    (routed : arrival.route = .openTo (.resetPassword raw newPassword))
    (answered : (world.exchange env arrival).reply = .ok reply) :
    ∃ token, world.ResetsWith env raw token ∧ (world.db.users.find token.userId).isSome ∧
      MailedToOwner env world.history world.db.address raw token := by
  have accepts : (world.exchange env arrival).Accepts .resetPassword raw :=
    ⟨congrArg Route.redeems routed, reply, answered⟩
  obtain ⟨route, token, final, -, -, redeems, -⟩ := redeems_of_accepts accepts
  obtain ⟨draw, issued, mailed, origin⟩ :=
    resetsMailed_of_reachable reachable _ token redeems.found redeems.valid.purpose
  have isIssued : token = issued := by
    rcases origin with same | ⟨now, rfl⟩
    · exact same
    · exact absurd redeems.valid.unused nofun
  subst isIssued
  have shown : raw = env.tokenUrlsafe draw := by
    obtain ⟨_, mailing, _, _, -, issues, -⟩ := id mailed
    have hash : token.tokenHash = env.sha256Hex raw := Table.find_key redeems.found
    exact distinct.hash raw draw (hash.symm.trans issues.hash)
  exact ⟨token, ⟨redeems.found, redeems.valid.purpose⟩, redeems.user, shown ▸ mailed⟩

/-- Alice has asked for a change of address and forgotten her password. -/
def aliceForgets : World ℚ :=
  World.new.play demo
    [.request registerAlice,
      .request (withAccess aliceAccess (.changeEmail "new@example.org" "Str0ng!pass")),
      .request { http := {}, route := .openTo (.forgotPassword "alice@example.org") }]

def resetAlice : Arrival where
  http := {}
  route := .openTo (.resetPassword "url-safe-token-8" "0ther!Pass")

theorem reset_token_of_alice : ∃ token, aliceForgets.ResetsWith demo "url-safe-token-8" token ∧
    MailedToOwner demo aliceForgets.history aliceForgets.db.address "url-safe-token-8" token := by
  have reachable : (deployed demo).Reachable aliceForgets := deployed_play (by decide +kernel)
  obtain ⟨reply, answered⟩ : ∃ reply, (aliceForgets.exchange demo resetAlice).reply = .ok reply :=
    exists_ok (by decide +kernel)
  obtain ⟨token, resets, -, mailed⟩ :=
    reset_token_mailed_to_owner tokensDistinct_demo reachable rfl answered
  exact ⟨token, resets, mailed⟩

/-- Alice has moved to her new address. -/
def aliceMoved : World ℚ :=
  aliceForgets.afterRequest demo
    { http := {}, route := .openTo (.confirmEmailChange "url-safe-token-7") }

/-- The token in the mailbox that Alice has left resets her password. -/
theorem reset_token_survives_move :
    ¬ ∀ world : World ℚ, (deployed demo).Reachable world → ∀ arrival raw newPassword,
      arrival.route = .openTo (.resetPassword raw newPassword) → ∀ reply,
      (world.exchange demo arrival).reply = .ok reply → ∃ token user, world.ResetsWith demo raw token ∧
        world.db.users.find token.userId = some user ∧
        ∃ mailing ∈ world.history, mailing.Issues demo user.email raw token := by
  intro follows
  have forgets : (deployed demo).Reachable aliceForgets := deployed_play (by decide +kernel)
  have moved : (deployed demo).Reachable aliceMoved :=
    forgets.step (.request (by decide +kernel))
  obtain ⟨reply, answered⟩ : ∃ reply, (aliceMoved.exchange demo resetAlice).reply = .ok reply :=
    exists_ok (by decide +kernel)
  obtain ⟨token, user, ⟨stored, -⟩, found, mailing, member, issues⟩ :=
    follows aliceMoved moved resetAlice _ _ rfl reply answered
  have ofAlice : (aliceMoved.db.emailTokens.find "url-safe-token-8").all (·.userId = 1) := by
    decide +kernel
  have address : (aliceMoved.db.users.find 1).all (·.email = "new@example.org") := by decide +kernel
  have unsent : aliceMoved.history.all
      fun exchange => ("new@example.org", "url-safe-token-8") ∉ exchange.mailed := by decide +kernel
  rw [show aliceMoved.db.emailTokens.find "url-safe-token-8" = some token from stored] at ofAlice
  rw [of_decide_eq_true ofAlice] at found
  rw [found] at address
  have letter := issues.letter
  rw [of_decide_eq_true address] at letter
  exact of_decide_eq_true (List.all_eq_true.mp unsent mailing member) letter

end EnterpriseAuth

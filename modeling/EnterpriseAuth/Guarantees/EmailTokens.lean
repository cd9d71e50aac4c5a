import EnterpriseAuth.Guarantees.Letters

/-!
# Email tokens grant what they were issued for

A route that redeems an email token accepts the one that was issued last to its user for the purpose of
the route, once and in time.  It changes that token and what the purpose is about in its user.
-/

namespace EnterpriseAuth

open Effects Program

variable {T : Type} {env : Environment T}

/-! ## Issues in a run -/

/-- Issued tokens differ, and no other text has the hash of one. -/
structure TokensDistinct (env : Environment T) : Prop where
  fresh : Function.Injective env.tokenUrlsafe
  hash : ∀ raw draw, env.sha256Hex raw = env.sha256Hex (env.tokenUrlsafe draw) →
    raw = env.tokenUrlsafe draw

/-- The exchange has stored a new token for the user and the purpose. -/
def Exchange.IssuesTo (exchange : Exchange T) (userId : Uuid) (purpose : Purpose) : Prop :=
  ∃ hash token, exchange.before.committed.emailTokens.find hash = none ∧
    exchange.after.committed.emailTokens.find hash = some token ∧ token.userId = userId ∧
    token.purpose = purpose

/-- The token was mailed, and nothing has been issued to its user for its purpose since. -/
def MostRecent (env : Environment T) (history : List (Exchange T)) (raw : String)
    (token : EmailToken T) : Prop :=
  ∃ later issue earlier recipient, history = later ++ issue :: earlier ∧
    issue.Issues env recipient raw token ∧
    ∀ other ∈ later, ¬ other.IssuesTo token.userId token.purpose

/-! ## The invariant -/

/-- A stored token was issued last to its user for its purpose, and has been used at most. -/
def Outstanding (env : Environment T) (history : List (Exchange T)) (draws : ℕ)
    (token : EmailToken T) : Prop :=
  ∃ draw issued, draw < draws ∧ MostRecent env history (env.tokenUrlsafe draw) issued ∧
    (token = issued ∨ ∃ now, token = issued.used now)

structure Ledger (env : Environment T) (history : List (Exchange T)) (draws : ℕ)
    (tokens : Table (EmailToken.tokenHash (T := T))) : Prop where
  outstanding : ∀ hash token, tokens.find hash = some token → Outstanding env history draws token
  /-- what was accepted had been issued, and is used up -/
  accepted : ∀ exchange ∈ history, ∀ purpose raw, exchange.Accepts purpose raw →
    (∃ draw < draws, raw = env.tokenUrlsafe draw) ∧
      ∀ token, tokens.find (env.sha256Hex raw) = some token → token.usedAt.isSome

variable {history : List (Exchange T)} {draws : ℕ} {token : EmailToken T}

theorem MostRecent.cons {raw : String} (recent : MostRecent env history raw token)
    {exchange : Exchange T} (other : ¬ exchange.IssuesTo token.userId token.purpose) :
    MostRecent env (exchange :: history) raw token := by
  obtain ⟨later, issue, earlier, recipient, rfl, issues, last⟩ := recent
  refine ⟨exchange :: later, issue, earlier, recipient, rfl, issues, ?_⟩
  intro candidate member
  cases List.mem_cons.mp member with
  | inl same => exact same ▸ other
  | inr old => exact last candidate old

theorem Outstanding.cons (outstanding : Outstanding env history draws token) {exchange : Exchange T}
    {more : ℕ} (order : draws ≤ more) (other : ¬ exchange.IssuesTo token.userId token.purpose) :
    Outstanding env (exchange :: history) more token := by
  obtain ⟨draw, issued, drawn, recent, origin⟩ := outstanding
  refine ⟨draw, issued, drawn.trans_le order, recent.cons ?_, origin⟩
  rcases origin with rfl | ⟨now, rfl⟩ <;> exact other

theorem Outstanding.used (outstanding : Outstanding env history draws token) (now : T) :
    Outstanding env history draws (token.used now) := by
  obtain ⟨draw, issued, drawn, recent, origin⟩ := outstanding
  refine ⟨draw, issued, drawn, recent, .inr ⟨now, ?_⟩⟩
  rcases origin with rfl | ⟨earlier, rfl⟩ <;> rfl

/-- The text under whose hash a token is stored is the one that was mailed. -/
theorem Outstanding.drawn (distinct : TokensDistinct env)
    (outstanding : Outstanding env history draws token) {raw : String}
    (hash : token.tokenHash = env.sha256Hex raw) :
    ∃ draw < draws, raw = env.tokenUrlsafe draw := by
  obtain ⟨draw, issued, drawn, ⟨_, issue, _, _, -, issues, -⟩, origin⟩ := outstanding
  refine ⟨draw, drawn, distinct.hash raw draw ?_⟩
  rw [← hash, ← issues.hash]
  rcases origin with rfl | ⟨now, rfl⟩ <;> rfl

theorem Outstanding.mostRecent (distinct : TokensDistinct env)
    (outstanding : Outstanding env history draws token) {raw : String}
    (hash : token.tokenHash = env.sha256Hex raw) (unused : token.usedAt = none) :
    MostRecent env history raw token := by
  obtain ⟨draw, issued, drawn, recent, origin⟩ := outstanding
  rcases origin with rfl | ⟨now, rfl⟩
  · obtain ⟨_, issue, _, _, -, issues, -⟩ := id recent
    rwa [distinct.hash raw draw (hash.symm.trans issues.hash)]
  · exact absurd unused nofun

/-! ## Requests -/

variable [CommRing T] [LinearOrder T] [FloorRing T] {world : World T} {arrival : Arrival}
  {purpose : Purpose} {raw : String}

/-- A request that shows a token and succeeds has redeemed it. -/
theorem redeems_of_accepts (accepts : (world.exchange env arrival).Accepts purpose raw) :
    ∃ route token final, arrival.route = .openTo route ∧ route.redeems = some (purpose, raw) ∧
      Redeems env route purpose raw world.server final token ∧
      (world.exchange env arrival).after = final.commit := by
  obtain ⟨grants, reply, replied⟩ := accepts
  change arrival.route.redeems = some (purpose, raw) at grants
  cases routed : arrival.route with
  | openTo route =>
    rw [routed] at grants
    obtain ⟨limited, final, passes, ran, same⟩ := exchange_answered replied
    simp only [dispatch, routed] at ran
    obtain ⟨page, served, -⟩ := run_map_ok ran
    obtain ⟨token, redeems⟩ := serveOpen_redeems grants served
    exact ⟨route, token, final, rfl, grants,
      redeems.after passes.aside.working (beside_of_run passes), same⟩
  | login | refresh | logout | withAccess => rw [routed] at grants; cases grants

/-- What is stored under the hash of an accepted token has been used. -/
theorem used_of_accepts (accepts : (world.exchange env arrival).Accepts purpose raw)
    (found : (world.exchange env arrival).mail.tokens.find (env.sha256Hex raw) = some token) :
    token.usedAt.isSome := by
  obtain ⟨route, redeemed, final, -, grants, redeems, same⟩ := redeems_of_accepts accepts
  have tokens := (redeems.redeemed grants).tokens
  have left : (world.exchange env arrival).mail.tokens = final.mail.tokens := by
    simp only [Exchange.mail, same]
    rfl
  rw [left, tokens, find_useToken, if_pos rfl] at found
  obtain ⟨stored, -, rfl⟩ := Option.map_eq_some_iff.mp found
  rfl

theorem draws_exchange : world.draws ≤ (world.afterRequest env arrival).draws := by
  have ran : (serve env arrival).run handle world.server =
      ((world.exchange env arrival).reply, (world.exchange env arrival).after) := rfl
  exact draws_of_run ran

/-- An exchange that only changes rows issues nothing. -/
theorem not_issuesTo (known : ∀ hash token,
      (world.exchange env arrival).mail.tokens.find hash = some token →
        (world.db.emailTokens.find hash).isSome) (userId : Uuid) (purpose : Purpose) :
    ¬ (world.exchange env arrival).IssuesTo userId purpose := by
  rintro ⟨hash, token, absent, found, -⟩
  have stored := known hash token found
  rw [show world.db.emailTokens.find hash = none from absent] at stored
  cases stored

/-- What a ledger needs to know about an exchange. -/
theorem Ledger.extend (distinct : TokensDistinct env)
    (ledger : Ledger env world.history world.draws world.db.emailTokens)
    (outstanding : ∀ hash token, (world.exchange env arrival).mail.tokens.find hash = some token →
      Outstanding env (world.afterRequest env arrival).history
        (world.afterRequest env arrival).draws token)
    (stays : ∀ raw, (∃ draw < world.draws, raw = env.tokenUrlsafe draw) → ∀ token,
      (world.exchange env arrival).mail.tokens.find (env.sha256Hex raw) = some token →
        token.usedAt.isSome ∨ world.db.emailTokens.find (env.sha256Hex raw) = some token) :
    Ledger env (world.afterRequest env arrival).history (world.afterRequest env arrival).draws
      (world.exchange env arrival).mail.tokens where
  outstanding := outstanding
  accepted := by
    intro exchange member purpose raw accepts
    cases List.mem_cons.mp member with
    | inl latest =>
      subst latest
      obtain ⟨route, token, final, -, -, redeems, -⟩ := redeems_of_accepts accepts
      obtain ⟨draw, drawn, same⟩ := (ledger.outstanding _ token redeems.found).drawn distinct
        (Table.find_key redeems.found)
      exact ⟨⟨draw, drawn.trans_le draws_exchange, same⟩, fun token => used_of_accepts accepts⟩
    | inr old =>
      obtain ⟨⟨draw, drawn, same⟩, used⟩ := ledger.accepted exchange old purpose raw accepts
      refine ⟨⟨draw, drawn.trans_le draws_exchange, same⟩, fun token found => ?_⟩
      exact (stays raw ⟨draw, drawn, same⟩ token found).elim id (used token)

theorem Ledger.kept (distinct : TokensDistinct env)
    (ledger : Ledger env world.history world.draws world.db.emailTokens)
    (same : (world.exchange env arrival).mail.tokens = world.db.emailTokens) :
    Ledger env (world.afterRequest env arrival).history (world.afterRequest env arrival).draws
      (world.exchange env arrival).mail.tokens := by
  have issuesNothing (userId : Uuid) (purpose : Purpose) :
      ¬ (world.exchange env arrival).IssuesTo userId purpose :=
    not_issuesTo (fun hash token found => by rw [← same, found]; rfl) userId purpose
  refine ledger.extend distinct (fun hash token found => ?_) fun raw _ token found => .inr (same ▸ found)
  exact (ledger.outstanding hash token (same ▸ found)).cons draws_exchange (issuesNothing _ _)

theorem Ledger.redeem (distinct : TokensDistinct env)
    (ledger : Ledger env world.history world.draws world.db.emailTokens)
    (redeemed : Redeemed env world.clock world.server.mail (world.exchange env arrival).mail purpose
      raw token) :
    Ledger env (world.afterRequest env arrival).history (world.afterRequest env arrival).draws
      (world.exchange env arrival).mail.tokens := by
  -- every row is one from before, possibly used now
  have row (hash : String) (token : EmailToken T)
      (found : (world.exchange env arrival).mail.tokens.find hash = some token) :
      ∃ stored, world.db.emailTokens.find hash = some stored ∧
        (token = stored ∨ token = stored.used world.clock) := by
    rw [redeemed.tokens, find_useToken] at found
    split at found
    · obtain ⟨stored, foundStored, rfl⟩ := Option.map_eq_some_iff.mp found
      exact ⟨stored, foundStored, .inr rfl⟩
    · exact ⟨token, found, .inl rfl⟩
  have issuesNothing (userId : Uuid) (purpose : Purpose) :
      ¬ (world.exchange env arrival).IssuesTo userId purpose := by
    refine not_issuesTo (fun hash token found => ?_) userId purpose
    obtain ⟨stored, foundStored, -⟩ := row hash token found
    rw [foundStored]
    rfl
  refine ledger.extend distinct (fun hash token found => ?_) fun raw _ token found => ?_
  · obtain ⟨stored, foundStored, origin⟩ := row hash token found
    have outstanding : Outstanding env (world.afterRequest env arrival).history
        (world.afterRequest env arrival).draws stored :=
      (ledger.outstanding hash stored foundStored).cons draws_exchange (issuesNothing _ _)
    rcases origin with rfl | rfl
    · exact outstanding
    · exact outstanding.used world.clock
  · obtain ⟨stored, foundStored, rfl | rfl⟩ := row _ token found
    · exact .inr foundStored
    · exact .inl rfl

theorem Ledger.issue (distinct : TokensDistinct env)
    (ledger : Ledger env world.history world.draws world.db.emailTokens) {middle : MailState T}
    {row : EmailToken T} {recipient : String} {draw : ℕ}
    (same : middle.tokens = world.db.emailTokens) (since : world.draws ≤ draw)
    (upTo : draw < (world.afterRequest env arrival).draws)
    (issued : Issued env middle (world.exchange env arrival).mail row recipient
      (env.tokenUrlsafe draw)) :
    Ledger env (world.afterRequest env arrival).history (world.afterRequest env arrival).draws
      (world.exchange env arrival).mail.tokens := by
  have find (hash : String) : (world.exchange env arrival).mail.tokens.find hash =
      if hash = row.tokenHash then some row else (world.db.emailTokens.find hash).filter fun token =>
        !(token.userId = row.userId && token.purpose = row.purpose) := by
    rw [Table.find_insert issued.tokens, Table.find_removeWhere, same]
  -- the only new row is the issued one
  have issuesOnly {userId : Uuid} {purpose : Purpose}
      (issues : (world.exchange env arrival).IssuesTo userId purpose) :
      userId = row.userId ∧ purpose = row.purpose := by
    obtain ⟨hash, token, absent, found, rfl, rfl⟩ := issues
    have found : (world.exchange env arrival).mail.tokens.find hash = some token := found
    rw [find, show world.db.emailTokens.find hash = none from absent] at found
    split at found <;> cases found
    exact ⟨rfl, rfl⟩
  refine ledger.extend distinct (fun hash token found => ?_) fun raw drawn token found => ?_
  · rw [find] at found
    split at found
    · cases found
      exact ⟨draw, row, upTo, ⟨[], _, world.history, recipient, rfl, issued.issues, by simp⟩, .inl rfl⟩
    · obtain ⟨stored, other⟩ := Option.filter_eq_some_iff.mp found
      refine (ledger.outstanding hash token stored).cons draws_exchange fun issues => ?_
      obtain ⟨sameUser, samePurpose⟩ := issuesOnly issues
      simp [sameUser, samePurpose] at other
  · obtain ⟨earlier, before, rfl⟩ := drawn
    have different : env.sha256Hex (env.tokenUrlsafe earlier) ≠ row.tokenHash := by
      rw [issued.hash]
      intro collision
      have collides := distinct.fresh (distinct.hash _ draw collision)
      omega
    rw [find, if_neg different] at found
    exact .inr (Option.filter_eq_some_iff.mp found).1

theorem Ledger.exchange (distinct : TokensDistinct env)
    (ledger : Ledger env world.history world.draws world.db.emailTokens) :
    Ledger env (world.afterRequest env arrival).history (world.afterRequest env arrival).draws
      (world.exchange env arrival).mail.tokens := by
  obtain same | ⟨-, outcome⟩ := mail_cases env world arrival
  · exact ledger.kept distinct (congrArg MailState.tokens same)
  · generalize became : (world.exchange env arrival).mail = after at outcome
    cases outcome with
    | kept same => exact became ▸ ledger.kept distinct (congrArg MailState.tokens (became.trans same))
    | enrolled _ enrolled => exact became ▸ ledger.kept distinct (became ▸ enrolled.tokens)
    | redeemed _ redeemed => subst became; exact ledger.redeem distinct redeemed
    | issued enrolls drawn since upTo issued =>
      subst became drawn
      refine ledger.issue distinct ?_ since upTo issued
      rcases enrolls with rfl | ⟨userId, email, enrolled⟩
      · rfl
      · exact enrolled.tokens

theorem ledger_of_reachable (distinct : TokensDistinct env)
    (reachable : (deployed env).Reachable world) :
    Ledger env world.history world.draws world.db.emailTokens := by
  refine System.Reachable.invariant
    (fun world => Ledger env world.history world.draws world.db.emailTokens) reachable ?_ ?_
  · intro first fresh
    rw [fresh.noEmailTokens, fresh.noHistory]
    exact ⟨by simp, by simp⟩
  · intro before event after _ ledger step
    cases step with
    | tick => exact ledger
    | request => exact ledger.exchange distinct
    | setUserActive => exact ledger

/-! ## What a token grants -/

/-- A route that redeems a token accepts it when it was issued last to its user for the purpose, in time
and for the first time.  It uses the token up and changes its user by what the route grants, and nothing
else; an error changes neither users nor tokens. -/
theorem tokens_grant_their_purpose (distinct : TokensDistinct env)
    (reachable : (deployed env).Reachable world) {route : OpenRoute}
    (routed : arrival.route = .openTo route) (grants : route.redeems = some (purpose, raw)) :
    (∀ reply, (world.exchange env arrival).reply = .ok reply →
      ∃ token, world.db.emailTokens.find (env.sha256Hex raw) = some token ∧
        token.purpose = purpose ∧ MostRecent env world.history raw token ∧
        world.clock < token.expiresAt ∧
        (∀ exchange ∈ world.history, ∀ other, ¬ exchange.Accepts other raw) ∧
        (world.db.users.find token.userId).isSome ∧
        (purpose = .changeEmail → token.newEmail.isSome) ∧
        ∃ salt, (world.afterRequest env arrival).db =
          world.db.redeemed env route token salt world.clock) ∧
      ∀ error, (world.exchange env arrival).reply = .error error →
        (world.afterRequest env arrival).db.users = world.db.users ∧
          (world.afterRequest env arrival).db.emailTokens = world.db.emailTokens := by
  have ledger := ledger_of_reachable distinct reachable
  refine ⟨fun reply replied => ?_, fun error failed => tables_of_error failed⟩
  have accepts : (world.exchange env arrival).Accepts purpose raw :=
    ⟨(congrArg Route.redeems routed).trans grants, reply, replied⟩
  obtain ⟨other, token, final, routed', -, redeems, left⟩ := redeems_of_accepts accepts
  cases routed.symm.trans routed'
  have outstanding := ledger.outstanding _ token redeems.found
  have hash : token.tokenHash = env.sha256Hex raw := Table.find_key redeems.found
  refine ⟨token, redeems.found, redeems.valid.purpose,
    outstanding.mostRecent distinct hash redeems.valid.unused, redeems.valid.unexpired, ?_,
    redeems.user, redeems.newEmail, ?_⟩
  · intro exchange member other earlier
    have used := (ledger.accepted exchange member other raw earlier).2 token redeems.found
    rw [redeems.valid.unused] at used
    cases used
  · obtain ⟨salt, working⟩ := redeems.working
    refine ⟨salt, ?_⟩
    change (world.exchange env arrival).after.committed = _
    rw [left]
    exact working

theorem tokensDistinct_demo : TokensDistinct demo where
  fresh first second same := by
    have digits : first.repr = second.repr := (String.append_right_inj _).mp same
    rw [← Nat.ofDigitChars_ten_toDigits (n := first), ← Nat.toList_repr, digits, Nat.toList_repr,
      Nat.ofDigitChars_ten_toDigits]
  hash _ _ := id

/-- The token that was mailed to Alice verifies her and nobody else. -/
theorem token_of_alice_verifies :
    ∃ token, aliceRegistered.db.emailTokens.find "url-safe-token-6" = some token ∧
      MostRecent demo aliceRegistered.history "url-safe-token-6" token ∧
      ∃ salt, (aliceRegistered.afterRequest demo verifyAlice).db =
        aliceRegistered.db.redeemed demo (.verifyEmail "url-safe-token-6") token salt
          aliceRegistered.clock := by
  have reachable : (deployed demo).Reachable aliceRegistered := deployed_play (by decide +kernel)
  obtain ⟨reply, replied⟩ : ∃ reply, (aliceRegistered.exchange demo verifyAlice).reply = .ok reply :=
    exists_ok (by decide +kernel)
  obtain ⟨accepted, -⟩ := tokens_grant_their_purpose tokensDistinct_demo reachable
    (show verifyAlice.route = .openTo (.verifyEmail "url-safe-token-6") from rfl) rfl
  obtain ⟨token, found, -, recent, -, -, -, -, left⟩ := accepted reply replied
  exact ⟨token, found, recent, left⟩

end EnterpriseAuth

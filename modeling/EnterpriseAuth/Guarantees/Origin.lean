import EnterpriseAuth.Guarantees.Issuance
import EnterpriseAuth.Requests.Admission

/-!
# Who gets sessions and tokens

A session row appears only in a login request, for a user who came through the gate of its route.
An access or refresh token is issued by such a request, or in exchange for a refresh token.
-/

namespace EnterpriseAuth

open Effects Program SessionService

variable {T : Type} {env : Environment T}

theorem Session.Originates.of_new {base : Table (Session.sessionUuid (T := T))}
    {created : Session T → Prop} {row : Session T} (originates : row.Originates base created)
    (new : base.find row.sessionUuid = none) : ∃ origin, created origin ∧ origin.SameBinding row := by
  obtain ⟨origin, same, stored | permitted⟩ := originates
  · rw [same.sessionUuid, stored] at new
    cases new
  · exact ⟨origin, permitted, same⟩

variable [CommRing T] [LinearOrder T] [FloorRing T]

/-- A row after a refresh is one from before, and points at another refresh token only if its own was
exchanged. -/
theorem RefreshOutcome.row {start final : Server T} {request : HttpRequest}
    {result : Except AppError (Reply T)} (outcome : RefreshOutcome env start request result final)
    (same : start.committed = start.working) {sid : Uuid} {later : Session T}
    (found : final.working.sessions.find sid = some later ∨
      final.committed.sessions.find sid = some later) :
    ∃ row, start.working.sessions.find sid = some row ∧
      (row.SameBinding later ∨
        ∃ claims csrf, request.refreshToken = some (.signed claims) ∧ claims.sid = some sid ∧
          result = .ok (.refreshed csrf (start.nextPair env claims)) ∧
          later.refreshTokenId = start.draws + 1) := by
  have unchanged {other : Prop} (found : start.working.sessions.find sid = some later) :
      ∃ row, start.working.sessions.find sid = some row ∧ (row.SameBinding later ∨ other) :=
    ⟨later, found, .inl (.refl later)⟩
  have rotated (claims : Claims) (found : (start.rotated claims).working.sessions.find sid =
      some later ∨ (start.rotated claims).committed.sessions.find sid = some later) :
      start.working.sessions.find sid = some later := by
    rwa [rotated_working, rotated_committed, same, or_self] at found
  cases outcome with
  | refused => exact unchanged (by rwa [same, or_self] at found)
  | replayed =>
    obtain left | ⟨row, -, -, left⟩ := afterReplay_cases env start _
    · rw [left, same, or_self] at found
      exact unchanged found
    · rw [left, or_self] at found
      have changed := find_changeSession start row.sessionUuid sid
        (ended start.clock "refresh_replay") fun _ => rfl
      have ended := changed.symm.trans found
      split at ended
      · cases stored : start.working.sessions.find sid with
        | none => rw [stored] at ended; cases ended
        | some earlier =>
          rw [stored] at ended
          cases ended
          exact ⟨earlier, rfl, .inl ⟨rfl, rfl, rfl⟩⟩
      · exact unchanged ended
  | unbound => exact unchanged (rotated _ found)
  | sessionless => exact unchanged (rotated _ found)
  -- only here the row follows a new token, and only if it is the row of the claims
  | @rebound claims other row presented live unlisted session stored active owner csrf =>
    rw [find_followed, followed_committed, same] at found
    rcases found with found | found
    · split at found
      next here =>
        subst here
        rw [stored] at found
        cases found
        exact ⟨row, stored, .inr ⟨claims, csrf, presented, session, rfl, rfl⟩⟩
      next => exact unchanged found
    · exact unchanged found

variable {world : World T} {arrival : Arrival}

/-- The request logs in by a route whose gate lets the user through. -/
def World.LetsIn (env : Environment T) (world : World T) (arrival : Arrival) (userId : Uuid) :
    Prop :=
  ∃ limited route, world.Passes env arrival limited ∧ arrival.route = .login route ∧
    route.Gate env limited arrival.registry arrival.http userId

omit [FloorRing T] in
theorem Arrival.creates {limited : Server T} {row : Session T}
    (permitted : (arrival.permits env limited).creates row) :
    ∃ route, arrival.route = .login route ∧ row.Opened limited.draws ∧
      route.Gate env limited arrival.registry arrival.http row.userId := by
  unfold Arrival.permits at permitted
  split at permitted
  next route routed => exact ⟨route, routed, permitted.1, permitted.2⟩
  all_goals exact permitted.elim

/-- A session row that appears belongs to a user who came through a gate. -/
theorem letsIn_of_newSession {sid : Uuid} {row : Session T}
    (found : (world.afterRequest env arrival).db.sessions.find sid = some row)
    (new : world.db.sessions.find sid = none) : world.LetsIn env arrival row.userId := by
  have served := served env world arrival
  change (world.exchange env arrival).after.committed.sessions.find sid = some row at found
  generalize (world.exchange env arrival).reply = result at served
  generalize (world.exchange env arrival).after = after at served found
  cases Table.find_key found
  have fromGate {limited : Server T} (passes : world.Passes env arrival limited)
      {final : Server T} (originates : row.Originates limited.working.sessions
        ((arrival.permits env limited).Created final)) :
      world.LetsIn env arrival row.userId := by
    obtain ⟨origin, permitted, same⟩ := originates.of_new (by rw [passes.start.2.1]; exact new)
    obtain ⟨route, routed, -, gate⟩ := Arrival.creates permitted.1
    exact ⟨limited, route, passes, routed, same.userId ▸ gate⟩
  -- a refresh creates no row
  have fromRefresh {limited final : Server T} {result : Except AppError (Reply T)}
      (passes : world.Passes env arrival limited)
      (outcome : RefreshOutcome env limited arrival.http result final)
      (found : final.working.sessions.find row.sessionUuid = some row ∨
        final.committed.sessions.find row.sessionUuid = some row) :
      world.LetsIn env arrival row.userId := by
    obtain ⟨earlier, stored, -⟩ := outcome.row passes.start.1 found
    rw [passes.start.2.1, new] at stored
    cases stored
  cases served with
  | refused aside _ =>
    rw [aside.committed] at found
    cases new.symm.trans found
  | failed passes _ follows =>
    exact fromGate passes ((follows.originate passes.start.1).2 _ row found)
  | answered passes _ follows _ =>
    exact fromGate passes ((follows.originate passes.start.1).1 _ row found)
  | refreshFailed passes _ outcome => exact fromRefresh passes outcome (.inr found)
  | refreshAnswered passes _ outcome => exact fromRefresh passes outcome (.inl found)

/-- The request exchanges a refresh token of the user. -/
def World.Exchanges (world : World T) (arrival : Arrival) (userId : Uuid) : Prop :=
  arrival.route = .refresh ∧ ∃ claims, arrival.http.refreshToken = some (.signed claims) ∧
    world.server.Redeems claims ∧ claims.sub = userId

/-- An access or refresh token that is issued belongs to a user who came through a gate or whose
refresh token was exchanged. -/
theorem letsIn_of_newToken {claims : Claims}
    (issued : claims ∈ (world.exchange env arrival).issued) (notPreAuth : claims.type ≠ .preAuth) :
    world.LetsIn env arrival claims.sub ∨
      (world.LetsPass env arrival ∧ world.Exchanges arrival claims.sub) := by
  have served := served env world arrival
  unfold Exchange.issued at issued
  generalize (world.exchange env arrival).reply = result at served issued
  generalize (world.exchange env arrival).after = after at served
  cases served with
  | refused => cases issued
  | failed => cases issued
  | refreshFailed => cases issued
  -- of the routes other than the refresh only logins answer tokens
  | @answered limited final reply passes other follows backed =>
    cases reply with
    | refreshed => exact backed.elim
    | page => cases issued
    | login reply =>
      obtain ⟨route, routed, sound⟩ := backed
      cases reply with
      | message => cases issued
      | challenge token =>
        cases List.mem_singleton.mp issued
        exact absurd sound.1 notPreAuth
      | auth user csrf pair =>
        obtain ⟨row, gate, bound⟩ := sound
        rw [← (bound.minted.subject claims issued).1] at gate
        exact .inl ⟨limited, route, passes, routed, gate⟩
  | @refreshAnswered limited final reply passes isRefresh outcome =>
    obtain ⟨shown, presented, redeems⟩ := outcome.redeems
    refine .inr ⟨(World.passes_iff.mp passes).1, isRefresh, shown, presented,
      redeems.aside passes.aside, ?_⟩
    have subject {pair : TokenPair} (minted : pair = limited.nextPair env shown)
        (member : claims ∈ pair.tokens) : shown.sub = claims.sub := by
      subst minted
      exact ((minted_mintPair env limited shown.sub shown.rememberMe shown.sid).subject claims
        member).1.symm
    cases outcome with
    | rebound presented' =>
      rw [presented] at presented'
      cases presented'
      exact subject rfl issued
    | sessionless presented' =>
      rw [presented] at presented'
      cases presented'
      exact subject rfl issued

omit [CommRing T] [FloorRing T] in
/-- The existing user whom an OAuth login resolves to is stored. -/
theorem OAuthLogin.found {start : Server T} {registry : String → Option Provider}
    {provider code state : String} {user : User T}
    (login : OAuthLogin env start registry provider code state user) :
    start.working.users.find user.id = some user := by
  obtain ⟨payload, info, -, -, ⟨account, -, found⟩ | ⟨-, claimant⟩⟩ := login
  · have owner : user.id = account.userId := Table.find_key found
    rwa [← owner] at found
  · cases claimant with
    | linking mode started found => exact found
    | @verified email mode address given owner =>
      have member : user ∈ start.working.usersByEmail env email := by
        rw [owner]
        exact List.mem_singleton_self user
      exact Table.find_of_mem (List.mem_filter.mp member).1

omit [CommRing T] [LinearOrder T] [FloorRing T] in
theorem PreAuthorized.found {start : Server T} {token : Token} {user : User T}
    (authorized : PreAuthorized start token user) :
    start.working.users.find user.id = some user ∧ user.isActive = true := by
  obtain ⟨claims, -, -, found, active⟩ := authorized
  have subject : user.id = claims.sub := Table.find_key found
  rw [← subject] at found
  exact ⟨found, active⟩

end EnterpriseAuth

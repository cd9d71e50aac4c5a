import EnterpriseAuth.Requests.SessionEffects

/-!
# Validation of a session

`ValidationOutcome` lists every way in which `validate_and_touch` can end, with the server that it
leaves behind.  What a route behind an access token does before its own body is one of these, or
nothing at all.
-/

namespace EnterpriseAuth

open Effects Program SessionService

variable {T : Type} (env : Environment T) [CommRing T] [LinearOrder T]

/-- The reasons for which a session is found to have lapsed. -/
def expiryReasons : List String := ["absolute_expiry", "idle_timeout"]

inductive ValidationOutcome (server : Server T) (sid userId : Uuid) :
    Except AppError (Session T) → Server T → Prop
  | refused (message : String) : ValidationOutcome server sid userId (.error (.auth message)) server
  | expired {row : Session T} {reason : String}
    (found : server.working.sessions.find sid = some row) (owner : row.userId = userId)
    (active : row.isActive = true) (lapsed : row.Lapsed env server.clock)
    (expiry : reason ∈ expiryReasons) (message : String) :
    ValidationOutcome server sid userId (.error (.auth message)) (server.expire env row reason)
  | throttled {row : Session T} (found : server.working.sessions.find sid = some row)
    (owner : row.userId = userId) (active : row.isActive = true)
    (recent : ¬ row.Lapsed env server.clock)
    (marked : (server.redis.lookup server.clock (.sessionTouch sid)).isSome) :
    ValidationOutcome server sid userId (.ok row) server
  | touched {row : Session T} (found : server.working.sessions.find sid = some row)
    (owner : row.userId = userId) (active : row.isActive = true)
    (recent : ¬ row.Lapsed env server.clock)
    (unmarked : ¬ (server.redis.lookup server.clock (.sessionTouch sid)).isSome) :
    ValidationOutcome server sid userId (.ok (touched server.clock row)) (server.touch env row)

theorem run_validateAndTouch (server : Server T) (sid userId : Uuid) :
    ValidationOutcome env server sid userId ((validateAndTouch env sid userId).run handle server).1
      ((validateAndTouch env sid userId).run handle server).2 := by
  simp only [validateAndTouch, throw_bind, run_bind, run_present, run_ite, run_throw]
  by_cases flagged : (server.redis.lookup server.clock (.sessionRevoked sid)).isSome = true
  · simp only [flagged, if_true]
    exact .refused _
  simp only [flagged, Bool.false_eq_true, if_false, run_view]
  cases found : server.working.sessions.find sid with
  | none => exact .refused _
  | some row =>
    obtain rfl : row.sessionUuid = sid := Table.find_key found
    by_cases invalid : row.userId ≠ userId ∨ (!row.isActive) = true
    · simp only [invalid, if_true, run_throw]
      exact .refused _
    simp only [invalid, if_false, run_ite, run_bind, run_now, run_throw]
    simp only [not_or, not_not, Bool.not_eq_true', Bool.not_eq_false] at invalid
    by_cases expired : server.clock ≥ row.expiresAt
    · simp only [expired, if_true, run_expire env server _ found]
      exact .expired found invalid.1 invalid.2 (.inl expired) (by simp [expiryReasons]) _
    by_cases idle : server.clock > row.lastActivityAt + (idleTimeoutSeconds env : T)
    · simp only [expired, idle, if_true, if_false, run_expire env server _ found]
      exact .expired found invalid.1 invalid.2 (.inr idle) (by simp [expiryReasons]) _
    have recent : ¬ row.Lapsed env server.clock := not_or.mpr ⟨expired, idle⟩
    simp only [expired, idle, if_false, run_touch env server found]
    by_cases marked : (server.redis.lookup server.clock (.sessionTouch row.sessionUuid)).isSome = true
    · simp only [marked, if_true]
      exact .throttled found invalid.1 invalid.2 recent marked
    · simp only [marked, Bool.false_eq_true, if_false]
      exact .touched found invalid.1 invalid.2 recent marked

/-- The token is one that `verify_access` accepts. -/
structure Claims.LiveAccess (claims : Claims) (now : T) : Prop where
  isAccess : claims.type = .access
  unexpired : now < (claims.exp : T)

/-- What comes before the body of a route behind an access token: a refusal that changes nothing, or a
token without a session, or the validation of the token's session. -/
inductive ContextOutcome (server : Server T) (request : HttpRequest) :
    Except AppError (AuthContext T) → Server T → Prop
  | refused (error : AppError) : ContextOutcome server request (.error error) server
  | sessionless {claims : Claims} {user : User T}
    (presented : request.accessToken = some (.signed claims)) (unbound : claims.sid = none) :
    ContextOutcome server request (.ok { user, session := none }) server
  | rejected {claims : Claims} {sid : Uuid} {user : User T} {error : AppError} {final : Server T}
    (presented : request.accessToken = some (.signed claims)) (live : claims.LiveAccess server.clock)
    (session : claims.sid = some sid) (found : server.working.users.find claims.sub = some user)
    (active : user.isActive = true)
    (outcome : ValidationOutcome env server sid claims.sub (.error error) final) :
    ContextOutcome server request (.error error) final
  | validated {claims : Claims} {sid : Uuid} {user : User T} {row : Session T} {final : Server T}
    (presented : request.accessToken = some (.signed claims)) (live : claims.LiveAccess server.clock)
    (session : claims.sid = some sid) (found : server.working.users.find claims.sub = some user)
    (active : user.isActive = true)
    (outcome : ValidationOutcome env server sid claims.sub (.ok row) final) :
    ContextOutcome server request (.ok { user, session := some row }) final

theorem verifyAccess_cases (server : Server T) (token : Token) :
    (∃ error, (TokenService.verifyAccess token).run handle server = (.error error, server)) ∨
      ∃ claims, token = .signed claims ∧ claims.LiveAccess server.clock ∧
        (TokenService.verifyAccess token).run handle server = (.ok claims, server) := by
  cases token with
  | unsigned text => exact .inl ⟨_, rfl⟩
  | signed claims =>
    rw [TokenService.verifyAccess, run_tryCatch, run_decodeToken_signed]
    by_cases expired : (claims.exp : T) ≤ server.clock
    · exact .inl ⟨_, by rw [if_pos expired]; rfl⟩
    · rw [if_neg expired]
      by_cases access : claims.type = .access
      · exact .inr ⟨claims, rfl, ⟨access, not_le.mp expired⟩, by rw [if_neg (not_not.mpr access)]⟩
      · exact .inl ⟨_, by rw [if_pos access]; rfl⟩

theorem run_getAuthContext (server : Server T) (request : HttpRequest) :
    ContextOutcome env server request ((getAuthContext env request).run handle server).1
      ((getAuthContext env request).run handle server).2 := by
  unfold getAuthContext
  cases presented : request.accessToken with
  | none => exact .refused _
  | some token =>
    obtain ⟨error, ran⟩ | ⟨claims, rfl, live, ran⟩ := verifyAccess_cases server token
    · simp only [run_bind, ran]
      exact .refused _
    simp only [run_bind, ran, run_view, throw_bind]
    cases found : server.working.users.find claims.sub with
    | none => exact .refused _
    | some user =>
      cases active : user.isActive with
      | false =>
        simp only [active, Bool.not_false, if_true, run_throw]
        exact .refused _
      | true =>
        simp only [active, Bool.not_true, Bool.false_eq_true, if_false]
        cases session : claims.sid with
        | none => exact .sessionless presented session
        | some sid =>
          have outcome := run_validateAndTouch env server sid user.id
          rw [show user.id = claims.sub from Table.find_key found] at outcome ⊢
          simp only [run_bind]
          cases validated : (validateAndTouch env sid claims.sub).run handle server with
          | mk result final =>
            rw [validated] at outcome
            cases result with
            | error error => exact .rejected presented live session found active outcome
            | ok row => exact .validated presented live session found active outcome

end EnterpriseAuth

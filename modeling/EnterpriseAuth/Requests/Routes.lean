import EnterpriseAuth.Requests.SessionEffects

/-!
# The routes that issue no tokens

The open routes permit nothing, and the routes behind an access token only write the sessions of the
user whose token was shown.
-/

namespace EnterpriseAuth

open Effects Program SessionService

set_option synthInstance.maxSize 1000

variable {T : Type} {env : Environment T} [CommRing T] [LinearOrder T] {permits : Permits T}
  {start : Server T}

section
variable (registry : String → Option Provider) (request : HttpRequest)

instance (route : OpenRoute) : Obeys env permits (serveOpen env registry request route) := by
  cases route <;> simp only [serveOpen]
  case verifyEmail => unfold verifyEmail; infer_instance
  case forgotPassword => unfold forgotPassword; infer_instance
  case resetPassword => unfold resetPassword; infer_instance
  case confirmEmailChange => unfold confirmEmailChange; infer_instance
  case oauthAuthorize => unfold oauthAuthorize; infer_instance

instance (context : AuthContext T) (password otp : String) (replace : Bool) :
    Within .sessions (recoveryCodesRoute env request context password otp replace) := by
  unfold recoveryCodesRoute; infer_instance

/-- The routes behind the access token that end no session write neither sessions nor the
blacklist. -/
theorem within_quietRoute (context : AuthContext T) (route : ProtectedRoute)
    (current : route ≠ .logoutCurrent) (all : route ≠ .logoutAll)
    (single : ∀ sessionId, route ≠ .revokeSession sessionId) :
    Within .sessions (serveWithContext env registry request context route) := by
  cases route <;> simp only [serveWithContext]
  case me => unfold readMe; infer_instance
  case resendVerification => unfold resendVerification; infer_instance
  case changeEmail => unfold changeEmail; infer_instance
  case oauthLinks => unfold oauthLinks; infer_instance
  case oauthLink => unfold oauthLink; infer_instance
  case twoFactorStatus => unfold twoFactorStatus; infer_instance
  case twoFactorSetup => unfold twoFactorSetup; infer_instance
  case twoFactorVerify => unfold twoFactorVerify; infer_instance
  case twoFactorQrcode => unfold twoFactorQrcode; infer_instance
  case recoveryCodes => unfold recoveryCodes; infer_instance
  case regenerateRecoveryCodes => unfold regenerateRecoveryCodes; infer_instance
  case twoFactorDisable => unfold twoFactorDisable; infer_instance
  case listSessions => unfold listSessions; infer_instance
  case getSession => unfold getSession; infer_instance
  case logoutCurrent => exact absurd rfl current
  case logoutAll => exact absurd rfl all
  case revokeSession sessionId => exact absurd rfl (single sessionId)
  case readMe => unfold readMe; infer_instance
  case lastLogin => unfold lastLogin; infer_instance
  case listUsers => unfold listUsers; infer_instance

theorem obeys_quietRoute (context : AuthContext T) (route : ProtectedRoute)
    (current : route ≠ .logoutCurrent) (all : route ≠ .logoutAll)
    (single : ∀ sessionId, route ≠ .revokeSession sessionId) :
    Obeys env permits (serveWithContext env registry request context route) := by
  have within : Within .sessions (serveWithContext env registry request context route) :=
    within_quietRoute registry request context route current all single
  infer_instance

/-- What a route behind the access token keeps, if revocations keep it and the routes that end no
session lead to it. -/
theorem triple_serveWithContext {entry kept : Server T → Prop} {allowed : Session T → Prop}
    (enters : ∀ server, entry server → kept server)
    (keeps : ∀ reason, RevocationKeeps env reason allowed kept) (context : AuthContext T)
    (permitted : ∀ row, row.userId = context.user.id → allowed row) (route : ProtectedRoute)
    (quiet : ∀ before after, entry before → Follows env .none before after → kept after) :
    Triple handle (fun server => entry server ∧ context.Live server)
      (serveWithContext env registry request context route) (fun _ => kept) (fun _ => kept) := by
  have alone {program : App T (Page T)} (keeps : Keeps handle kept program) :
      Triple handle (fun server => entry server ∧ context.Live server) program (fun _ => kept)
        (fun _ => kept) :=
    keeps.weaken (fun server holds => enters server holds.1) (fun _ _ => id) fun _ _ => id
  cases route with
  | logoutCurrent =>
    simp only [serveWithContext]
    unfold logoutCurrent getCurrentSession
    cases current : context.session with
    | none => exact Triple.throw fun server holds => enters server holds.1
    | some session =>
      simp only [pure_bind]
      have revoked : Triple handle (fun server => entry server ∧ context.Live server)
          (revoke env session "logout") (fun _ => kept) (fun _ => kept) := by
        constructor
        rintro server ⟨holds, live⟩
        obtain ⟨active, owner⟩ := live session current
        exact ((keeps _).revoke (permitted session owner)).outcome server ⟨enters server holds, active⟩
      exact Triple.bind revoked fun _ => Triple.pure fun _ => id
  | logoutAll =>
    simp only [serveWithContext]
    unfold logoutAll getCurrentSession
    cases context.session with
    | none => exact Triple.throw fun server holds => enters server holds.1
    | some session =>
      simp only [pure_bind]
      exact alone (Keeps.bind ((keeps _).revokeAll context.user permitted) fun _ => Keeps.pure _)
  | revokeSession sessionId =>
    simp only [serveWithContext]
    unfold revokeSession
    exact alone (Keeps.bind ((keeps _).revokeByUuid context.user sessionId permitted) fun _ =>
      Keeps.pure _)
  | _ =>
    refine Triple.of_final fun server holds => quiet server _ holds.1 ?_
    refine @Obeys.follows T env _ _ .none _ _ ?_ server
    exact obeys_quietRoute registry request context _ nofun nofun fun _ => nofun

instance (route : ProtectedRoute) :
    Obeys env (.owned request) (serveProtected env registry request route) where
  keeps start := by
    have afterCsrf : Triple handle (Follows env (.owned request) start)
        (getAuthContext env request >>= fun context =>
          serveWithContext env registry request context route)
        (fun _ => Follows env (.owned request) start)
        (fun _ => Follows env (.owned request) start) := by
      refine Triple.bind (triple_getAuthContext start request) fun context => ?_
      constructor
      rintro server ⟨follows, live, shown⟩
      have covers := shown.covers
      refine (triple_serveWithContext registry request (fun _ => id) follows_revocation context
        covers.writes route fun before after follows quiet => ?_).outcome server ⟨follows, live⟩
      exact follows.trans (quiet.mono ⟨nofun, nofun, nofun⟩)
    simp only [serveProtected]
    refine Triple.ite (fun _ => ?_) fun _ => afterCsrf
    exact Keeps.bind ((inferInstance : Obeys env (.owned request) (verifyCsrf request)).keeps start)
      fun _ => afterCsrf

end

end EnterpriseAuth

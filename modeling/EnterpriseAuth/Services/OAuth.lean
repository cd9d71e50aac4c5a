import EnterpriseAuth.Services.Auth

/-!
# OAuth login and account linking

`services/oauth/`: the state of an authorization, the provider's answers and the resolution of a
profile to a user.
-/

namespace EnterpriseAuth

structure OAuthUserInfo where
  provider : String
  accountId : String
  email : Option String
  name : String
  emailVerified : Bool

/-- A configured provider, as it answers during one request. -/
structure Provider where
  usesPkce : Bool
  exchangeCode : (code : String) → (codeVerifier : Option String) → Except AppError String
  fetchUserInfo : (accessToken : String) → Except AppError OAuthUserInfo

/-- The query parameters of the redirect to the provider that vary between authorizations. -/
structure AuthorizationUrl where
  provider : String
  state : String
  codeChallenge : Option String
  deriving DecidableEq

def liftExcept {T α : Type} : Except AppError α → App T α
  | .ok value => pure value
  | .error error => throw error

namespace OAuthService

variable {T : Type} (env : Environment T) (registry : String → Option Provider)

/-- `_pkce_challenge`: the encoded digest without its padding. -/
def pkceChallenge (verifier : String) : String :=
  String.ofList ((env.sha256Base64 verifier).toList.reverse.dropWhile (· = '=')).reverse

def providerOr404 (name : String) : App T Provider :=
  match registry name with
  | none => throw (.notFound s!"OAuth provider '{name}' is not available.")
  | some provider => pure provider

def startAuthorization (providerName : String) (mode : OAuthMode) (linkUserId : Option Uuid) :
    App T AuthorizationUrl := do
  let provider ← providerOr404 registry providerName
  let stateDraw ← uuid4
  let state := env.tokenUrlsafe stateDraw
  let codeVerifier ←
    if provider.usesPkce then do
      let draw ← uuid4
      pure (some (env.tokenUrlsafe draw))
    else pure none
  setKey (.oauthState state) (.oauth { provider := providerName, codeVerifier, mode, linkUserId })
    env.settings.oauthStateTtlSeconds
  return { provider := providerName, state, codeChallenge := codeVerifier.map (pkceChallenge env) }

def popState (state providerName : String) : App T OAuthState := do
  match ← getKey (.oauthState state) with
  | some (.oauth payload) =>
    deleteKey (.oauthState state)
    if payload.provider ≠ providerName then
      throw (.auth "OAuth state does not match provider.")
    else return payload
  | none => throw (.auth "Invalid or expired OAuth state.")
  | some _ => throw (.unexpected "the state is not a JSON object")

/-- `_resolve_user` for a provider account that is not linked yet. -/
def resolveUser (info : OAuthUserInfo) (mode : OAuthMode) (linkUserId : Option Uuid) :
    App T (User T) := do
  match mode, linkUserId with
  | .link, some userId =>
    let db ← view
    match db.users.find userId with
    | none => throw (.auth "Account to link no longer exists.")
    | some user => return user
  | _, _ =>
    match nonEmptyEmail info.email with
    | none => throw (.auth "The provider did not return an email address.")
    | some email =>
      match ← getByEmail env email with
      | some existing =>
        if info.emailVerified && existing.isVerified then return existing
        else throw (.conflict (s!"An account with this email already exists. " ++
          s!"Sign in with your password and link {info.provider} from account settings."))
      | none =>
        let passwordDraw ← uuid4
        let salt ← uuid4
        addUser (env.lower email) (env.hashPassword salt (env.tokenUrlsafe passwordDraw)) info.name
          info.emailVerified
where
  nonEmptyEmail (email : Option String) : Option String := email.filter (· ≠ "")

/-- What `handle_callback` does once the provider's profile is known. -/
def resolveProfile (providerName : String) (payload : OAuthState) (info : OAuthUserInfo) :
    App T (User T × OAuthMode) := do
  let db ← view
  match db.oauthAccounts.find (providerName, info.accountId) with
  | some account =>
    if payload.mode = .link ∧ payload.linkUserId.isSome ∧ some account.userId ≠ payload.linkUserId
    then throw (.conflict "This provider account is already linked to another user.")
    match db.users.find account.userId with
    | none => throw (.auth "Linked account no longer exists.")
    | some user => return (user, payload.mode)
  | none =>
    let user ← resolveUser env info payload.mode payload.linkUserId
    let createdAt ← now
    write (Database.insertOAuthAccount
      { userId := user.id
        provider := providerName
        providerAccountId := info.accountId
        email := info.email
        createdAt })
    return (user, payload.mode)

def handleCallback (providerName code state : String) : App T (User T × OAuthMode) := do
  let payload ← popState state providerName
  let provider ← providerOr404 registry providerName
  let accessToken ← liftExcept (provider.exchangeCode code payload.codeVerifier)
  let info ← liftExcept (provider.fetchUserInfo accessToken)
  resolveProfile env providerName payload info

end OAuthService

end EnterpriseAuth

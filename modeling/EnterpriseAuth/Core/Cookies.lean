import EnterpriseAuth.Effects.CookieJar
import EnterpriseAuth.Services.Token

/-!
# Auth cookies

`core/cookies.py`: what the answers to a login and to a refresh set, and what those to a logout
clear.
-/

namespace EnterpriseAuth

open Effects

/-- The cookies of `core/config.py`.  The domain, which all of them share, is left to the browser. -/
structure CookieSettings where
  apiV1Prefix : String := "/api/v1"
  cookieSecure : Bool := true
  cookieSameSite : SameSite := .lax
  accessCookieName : String := "access_token"
  refreshCookieName : String := "refresh_token"
  csrfCookieName : String := "csrf_token"
  namesDiffer : [accessCookieName, refreshCookieName, csrfCookieName].Nodup := by decide

namespace CookieSettings

variable {T : Type} (env : Environment T) (cookies : CookieSettings)

/-- The path below which the refresh token is sent. -/
def refreshPath : String := cookies.apiV1Prefix ++ "/auth"

/-- The names and paths of the cookies. -/
def keys : List (String × String) :=
  [(cookies.accessCookieName, "/"), (cookies.refreshCookieName, cookies.refreshPath),
    (cookies.csrfCookieName, "/")]

/-- A cookie with the attributes that all of them share. -/
def authCookie (name : String) (value : Token) (maxAge : ℕ) (path : String) (httpOnly : Bool) :
    SetCookie Token :=
  { name, value, maxAge, path, httpOnly, secure := cookies.cookieSecure
    sameSite := cookies.cookieSameSite }

def setAuthCookies (pair : TokenPair) (csrfToken : String) : List (SetCookie Token) :=
  [cookies.authCookie cookies.accessCookieName (.signed pair.access)
      (env.settings.accessTokenExpireMinutes * 60) "/" true,
    cookies.authCookie cookies.refreshCookieName (.signed pair.refresh)
      (TokenService.refreshTtlDays env pair.refresh.rememberMe * 86400) cookies.refreshPath true,
    -- the scripts of the page read this one
    cookies.authCookie cookies.csrfCookieName (.unsigned csrfToken)
      (env.settings.refreshTokenExpireDays * 86400) "/" false]

/-- `delete_cookie` passes no `secure`, which is then not set. -/
def clearAuthCookies : List (SetCookie Token) :=
  cookies.keys.map fun (name, path) =>
    { name, value := .unsigned "", maxAge := 0, path, httpOnly := false, secure := false
      sameSite := cookies.cookieSameSite }

/-! ## What is set -/

section
variable {env cookies} {pair : TokenPair} {csrfToken : String}

theorem mem_setAuthCookies {setCookie : SetCookie Token} :
    setCookie ∈ cookies.setAuthCookies env pair csrfToken ↔
      setCookie = cookies.authCookie cookies.accessCookieName (.signed pair.access)
        (env.settings.accessTokenExpireMinutes * 60) "/" true ∨
      setCookie = cookies.authCookie cookies.refreshCookieName (.signed pair.refresh)
        (TokenService.refreshTtlDays env pair.refresh.rememberMe * 86400) cookies.refreshPath true ∨
      setCookie = cookies.authCookie cookies.csrfCookieName (.unsigned csrfToken)
        (env.settings.refreshTokenExpireDays * 86400) "/" false := by
  simp [setAuthCookies]

@[simp] theorem keys_setAuthCookies :
    (cookies.setAuthCookies env pair csrfToken).map SetCookie.key = cookies.keys := rfl

@[simp] theorem keys_clearAuthCookies :
    cookies.clearAuthCookies.map SetCookie.key = cookies.keys := rfl

variable (cookies) in
theorem nodup_keys : cookies.keys.Nodup := by
  have names : (cookies.keys.map Prod.fst).Nodup := cookies.namesDiffer
  exact List.Nodup.of_map Prod.fst names

/-- Each name is used with one path. -/
theorem path_of_name {first second : String × String} (isFirst : first ∈ cookies.keys)
    (isSecond : second ∈ cookies.keys) (same : first.1 = second.1) : first.2 = second.2 := by
  have names : (cookies.keys.map Prod.fst).Nodup := cookies.namesDiffer
  exact congrArg Prod.snd (List.inj_on_of_nodup_map names isFirst isSecond same)

variable (cookies) in
/-- An answer to the request may set cookies. -/
def Storable (fetch : Fetch) : Prop :=
  (cookies.cookieSameSite = .none → cookies.cookieSecure = true) ∧
    (cookies.cookieSecure = true → fetch.https = true) ∧
    (cookies.cookieSameSite = .none ∨ fetch.fromSite = true ∨ fetch.navigates = true)

/-- The cookies share the attributes that decide whether a browser stores them. -/
theorem accepted_authCookie {fetch : Fetch} {name : String} {value : Token} {maxAge : ℕ}
    {path : String} {httpOnly : Bool} :
    (cookies.authCookie name value maxAge path httpOnly).accepted fetch = true ↔
      cookies.Storable fetch := by
  cases secure : cookies.cookieSecure <;> cases sameSite : cookies.cookieSameSite <;>
    simp [SetCookie.accepted, authCookie, Storable, secure, sameSite]

theorem accepted_setAuthCookies {fetch : Fetch} {setCookie : SetCookie Token}
    (member : setCookie ∈ cookies.setAuthCookies env pair csrfToken) :
    setCookie.accepted fetch = true ↔ cookies.Storable fetch := by
  rcases mem_setAuthCookies.mp member with rfl | rfl | rfl <;> exact accepted_authCookie

theorem mem_clearAuthCookies {setCookie : SetCookie Token}
    (member : setCookie ∈ cookies.clearAuthCookies) :
    setCookie.maxAge = 0 ∧ setCookie.secure = false ∧ setCookie.sameSite = cookies.cookieSameSite := by
  obtain ⟨⟨name, path⟩, -, rfl⟩ := List.mem_map.mp member
  exact ⟨rfl, rfl, rfl⟩

end

end CookieSettings

end EnterpriseAuth

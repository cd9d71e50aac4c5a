import EnterpriseAuth.Core.Json

/-!
# Google and GitHub

`fetch_user_info` of `services/oauth/providers.py`, on the responses that the provider sends.
-/

namespace EnterpriseAuth

/-- `OAuthUserInfo` as the providers fill it in.  Nothing checks that the values which are taken
from the JSON have the annotated types. -/
structure FetchedUserInfo where
  provider : String
  accountId : String
  email : Json
  name : Json
  emailVerified : Bool

variable (repr : Json → String)

namespace GoogleProvider

def fetchUserInfo (userinfo : Response) : Except AppError FetchedUserInfo := do
  if userinfo.statusCode ≠ 200 then throw (.auth "Failed to fetch Google profile.")
  let data ← userinfo.json
  let sub ← data.item "sub"
  let email ← data.get "email"
  let name ← data.getD "name" (.string "")
  let emailVerified ← data.getD "email_verified" (.bool false)
  return {
    provider := "google"
    accountId := sub.str repr
    email
    name
    emailVerified := emailVerified.truthy }

end GoogleProvider

namespace GitHubProvider

/-- The first of the entries that is marked as the primary one. -/
def firstPrimary : List Json → Except AppError (Option Json)
  | [] => return none
  | entry :: entries => do
    let primary ← entry.get "primary"
    if primary.truthy then return some entry
    else firstPrimary entries

/-- The address of a profile without a public one, and whether it is verified. -/
def primaryEmail (emails : Response) : Except AppError (Json × Bool) := do
  if emails.statusCode ≠ 200 then return (.null, false)
  let list ← emails.json
  let entries ← list.elements
  match ← firstPrimary entries with
  | none => return (.null, false)
  | some primary =>
    -- an object that has a primary mark is not empty, so `if primary` holds
    let email ← primary.get "email"
    let verified ← primary.get "verified"
    return (email, verified.truthy)

def fetchUserInfo (user emails : Response) : Except AppError FetchedUserInfo := do
  if user.statusCode ≠ 200 then throw (.auth "Failed to fetch GitHub profile.")
  let profile ← user.json
  let published ← profile.get "email"
  let (email, emailVerified) ←
    match published with
    | .null => primaryEmail emails
    | address => pure (address, false)
  let id ← profile.item "id"
  let name ← profile.get "name"
  let login ← profile.getD "login" (.string "")
  return {
    provider := "github"
    accountId := id.str repr
    email
    name := name.orElse login
    emailVerified }

end GitHubProvider

end EnterpriseAuth

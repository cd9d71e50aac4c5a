import EnterpriseAuth.Guarantees.ResetTokens
import EnterpriseAuth.Requests.Keys
import EnterpriseAuth.Guarantees.OAuthBrowsers
import EnterpriseAuth.Guarantees.ProviderIdentities
import EnterpriseAuth.Guarantees.LockoutSubjects
import EnterpriseAuth.Guarantees.OAuthStates
import EnterpriseAuth.Guarantees.EndedTokens
import EnterpriseAuth.Guarantees.Blacklisting
import EnterpriseAuth.Guarantees.CrossSiteRequests
import EnterpriseAuth.Requests.Validation
import EnterpriseAuth.Guarantees.ListedSessions
import EnterpriseAuth.Guarantees.ClientMetadata
import EnterpriseAuth.Guarantees.RateLimits
import EnterpriseAuth.Guarantees.Enumeration
import EnterpriseAuth.Guarantees.TwoFactorLifecycle
import EnterpriseAuth.Guarantees.RecoveryCodes
import EnterpriseAuth.Guarantees.ConcurrentSetup
import EnterpriseAuth.Guarantees.ConcurrentCredentials
import EnterpriseAuth.Guarantees.ConcurrentRefreshes
import EnterpriseAuth.Guarantees.ConcurrentCodes
import EnterpriseAuth.Guarantees.FailClosed
import EnterpriseAuth.Guarantees.CounterLifetimes
import EnterpriseAuth.Guarantees.SecondFactorLockout
import EnterpriseAuth.Guarantees.EmailTokens
import EnterpriseAuth.Guarantees.ActivityTracking
import EnterpriseAuth.Guarantees.UniqueAddresses
import EnterpriseAuth.Guarantees.VerifiedAddresses
import EnterpriseAuth.Guarantees.Letters
import EnterpriseAuth.Requests.MailedTokens
import EnterpriseAuth.Requests.Statements
import EnterpriseAuth.Api.Failures
import EnterpriseAuth.Effects.Faults
import EnterpriseAuth.Requests.ConductOfRoutes
import EnterpriseAuth.Guarantees.FailedRefresh
import EnterpriseAuth.Guarantees.CacheLoss
import EnterpriseAuth.Guarantees.Rollback
import EnterpriseAuth.Guarantees.RevocationFlag
import EnterpriseAuth.Guarantees.Ownership
import EnterpriseAuth.Effects.Conduct
import EnterpriseAuth.Guarantees.Lifecycle
import EnterpriseAuth.Guarantees.Logout
import EnterpriseAuth.Guarantees.Lockout
import EnterpriseAuth.Guarantees.OneTimeCodes
import EnterpriseAuth.Guarantees.ClientAddress
import EnterpriseAuth.Guarantees.Rotation
import EnterpriseAuth.Guarantees.SecondFactor
import EnterpriseAuth.Guarantees.DisabledAccounts
import EnterpriseAuth.Guarantees.Origin
import EnterpriseAuth.Guarantees.Expiry
import EnterpriseAuth.Guarantees.Revocation
import EnterpriseAuth.Guarantees.Scenario
import EnterpriseAuth.Guarantees.Issuance
import EnterpriseAuth.Requests.Admission
import EnterpriseAuth.Guarantees.Continuity
import EnterpriseAuth.Requests.Refresh
import EnterpriseAuth.Effects.Transition
import EnterpriseAuth.Services.Session
import EnterpriseAuth.Services.TwoFactor
import EnterpriseAuth.Services.OAuth
import EnterpriseAuth.Api.System
import EnterpriseAuth.Guarantees.Pagination
import EnterpriseAuth.Guarantees.PasswordPolicy
import EnterpriseAuth.Guarantees.VerifiedProfiles
import EnterpriseAuth.Guarantees.RbacSeeding
import EnterpriseAuth.Guarantees.MailMarkup
import EnterpriseAuth.Guarantees.DeviceAlerts
import EnterpriseAuth.Guarantees.OAuthAccounts
import EnterpriseAuth.Requests.Framed
import EnterpriseAuth.Requests.Passwords
import EnterpriseAuth.Guarantees.Privileges
import EnterpriseAuth.Guarantees.Passwords
import EnterpriseAuth.Guarantees.CurrentTokens
import EnterpriseAuth.Effects.CookieJar
import EnterpriseAuth.Core.Cookies
import EnterpriseAuth.Api.Browsers
import EnterpriseAuth.Api.CookieBrowsing
import EnterpriseAuth.Guarantees.BrowserSessions
import EnterpriseAuth.Guarantees.BrowserRefreshes
import EnterpriseAuth.Guarantees.BrowserCookies

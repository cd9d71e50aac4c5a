import EnterpriseAuth.Runtime

/-!
# Email templates

`services/email/templates.py`, and the choice of a template in `services/notifications.py`.
-/

namespace EnterpriseAuth

/-- The settings that the templates read. -/
structure MailSettings where
  emailFromName : String := "Enterprise Auth Server"
  appBaseUrl : String := "http://localhost:3000"
  passwordResetExpireMinutes : ℕ := 30

structure EmailMessage where
  recipient : String
  subject : String
  html : String
  text : String

namespace EmailTemplates

variable (settings : MailSettings)

/-- `_STYLE` -/
def style : String :=
  "font-family:-apple-system,Segoe UI,Roboto,Helvetica,Arial,sans-serif;" ++
    "line-height:1.5;color:#1a1a2e"

/-- `_wrap` -/
def wrap (title bodyHtml : String) : String :=
  "<div style=\"" ++ style ++ ";max-width:520px;margin:0 auto\">" ++
    "<h2 style=\"color:#0f3460\">" ++ title ++ "</h2>" ++ bodyHtml ++
    "<hr style=\"border:none;border-top:1px solid #eee;margin:24px 0\">" ++
    "<p style=\"font-size:12px;color:#888\">" ++ settings.emailFromName ++ "</p></div>"

/-- `_button` -/
def button (url label : String) : String :=
  "<p><a href=\"" ++ url ++ "\" style=\"background:#0f3460;color:#fff;padding:10px 18px;" ++
    "border-radius:6px;text-decoration:none;display:inline-block\">" ++ label ++ "</a></p>" ++
    "<p style=\"font-size:13px;color:#666\">Or copy this link: " ++ url ++ "</p>"

/-- `name or to` -/
def display (recipient name : String) : String := if name ≠ "" then name else recipient

def welcomeEmail (recipient name : String) : EmailMessage where
  recipient
  subject := "Welcome to " ++ settings.emailFromName
  html := wrap settings "Welcome!"
    ("<p>Hi " ++ display recipient name ++
      ", your account has been created. We're glad to have you on board.</p>")
  text := "Hi " ++ display recipient name ++ ", your account has been created."

def verificationEmail (recipient token : String) : EmailMessage :=
  let url := settings.appBaseUrl ++ "/verify-email?token=" ++ token
  { recipient
    subject := "Verify your email address"
    html := wrap settings "Verify your email"
      ("<p>Confirm your email address to finish setting up your account.</p>" ++
        button url "Verify email")
    text := "Verify your email: " ++ url }

def passwordResetEmail (recipient token : String) : EmailMessage :=
  let url := settings.appBaseUrl ++ "/reset-password?token=" ++ token
  let mins := toString settings.passwordResetExpireMinutes
  { recipient
    subject := "Reset your password"
    html := wrap settings "Reset your password"
      ("<p>We received a request to reset your password. This link expires in " ++ mins ++
        " minutes. If you didn't request this, you can ignore this email.</p>" ++
        button url "Reset password")
    text := "Reset your password (expires in " ++ mins ++ " min): " ++ url }

def passwordChangedEmail (recipient : String) : EmailMessage where
  recipient
  subject := "Your password was changed"
  html := wrap settings "Your password was changed"
    ("<p>Your password was just changed. If this wasn't you, reset your " ++
      "password immediately and contact support.</p>")
  text := "Your password was just changed. If this wasn't you, act now."

def emailChangeEmail (recipient token : String) : EmailMessage :=
  let url := settings.appBaseUrl ++ "/confirm-email-change?token=" ++ token
  { recipient
    subject := "Confirm your new email address"
    html := wrap settings "Confirm your new email"
      ("<p>Confirm this address to complete your email change.</p>" ++
        button url "Confirm new email")
    text := "Confirm your new email: " ++ url }

def newDeviceEmail (recipient device browser ip : String) : EmailMessage where
  recipient
  subject := "New sign-in to your account"
  html := wrap settings "New sign-in to your account"
    ("<p>A new sign-in was detected:</p><ul>" ++ "<li>Device: " ++ device ++
      "</li><li>Browser: " ++ browser ++ "</li>" ++ "<li>IP address: " ++ ip ++ "</li></ul>" ++
      "<p>If this wasn't you, change your password and review your sessions.</p>")
  text := "New sign-in: device=" ++ device ++ ", browser=" ++ browser ++ ", ip=" ++ ip ++ "."

/-- The message that `NotificationService` sends for a task. -/
def message : Mail → EmailMessage
  | .welcome recipient fullName => welcomeEmail settings recipient fullName
  | .verification recipient token => verificationEmail settings recipient token
  | .passwordReset recipient token => passwordResetEmail settings recipient token
  | .passwordChanged recipient => passwordChangedEmail settings recipient
  | .emailChange recipient token => emailChangeEmail settings recipient token
  | .newDeviceAlert recipient device browser ip =>
    newDeviceEmail settings recipient device browser ip

end EmailTemplates

end EnterpriseAuth

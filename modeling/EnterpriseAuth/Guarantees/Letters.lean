import EnterpriseAuth.Guarantees.Rollback
import EnterpriseAuth.Requests.MailedTokens

/-!
# Letters of a run

What each exchange of a run did to the mail flows.  Mail that was scheduled is sent when the request
has succeeded, so a letter that is sent carries a token that is stored.
-/

namespace EnterpriseAuth

open Effects Program

variable {T : Type} {env : Environment T}

/-! ## A new deployment -/

/-- Nobody has registered yet. -/
structure World.Fresh (world : World T) : Prop extends World.Starts world where
  noUsers : world.db.users = ∅
  noEmailTokens : world.db.emailTokens = ∅

/-! ## Exchanges -/

/-- The letters that are sent once the request has been answered. -/
def Exchange.mailed (exchange : Exchange T) : List (String × String) :=
  match exchange.reply with
  | .ok _ => exchange.after.tasks.filterMap Mail.letter
  | .error _ => []

/-- The exchange has stored the token and mailed it to the recipient. -/
structure Exchange.Issues (env : Environment T) (exchange : Exchange T) (recipient raw : String)
    (token : EmailToken T) : Prop where
  letter : (recipient, raw) ∈ exchange.mailed
  hash : token.tokenHash = env.sha256Hex raw
  stored : exchange.after.committed.emailTokens.find token.tokenHash = some token

/-- A token was presented for the purpose, and the request succeeded. -/
structure Exchange.Accepts (exchange : Exchange T) (purpose : Purpose) (raw : String) : Prop where
  redeems : exchange.arrival.route.redeems = some (purpose, raw)
  answered : ∃ reply, exchange.reply = .ok reply

/-- The mail flows as the exchange leaves them. -/
def Exchange.mail (exchange : Exchange T) : MailState T where
  tokens := exchange.after.committed.emailTokens
  address := exchange.after.committed.address
  letters := exchange.mailed

theorem Issued.issues {exchange : Exchange T} {before : MailState T} {row : EmailToken T}
    {recipient raw : String} (issued : Issued env before exchange.mail row recipient raw) :
    exchange.Issues env recipient raw row where
  letter := by
    rw [show exchange.mailed = before.letters ++ [(recipient, raw)] from issued.letters]
    simp
  hash := issued.hash
  stored := (Table.find_insert issued.tokens row.tokenHash).trans (if_pos rfl)

section
variable [CommRing T] [LinearOrder T] [FloorRing T]

variable (env) in
/-- The service from its first request on. -/
def deployed : System (World T) (Event T) where
  start := World.Fresh
  step := World.Step env

variable {world : World T} {arrival : Arrival}

theorem Reachable.service (reachable : (deployed env).Reachable world) :
    (service env).Reachable world := by
  obtain ⟨first, fresh, leads⟩ := reachable
  exact ⟨first, fresh.toStarts, leads⟩

/-- An error leaves users and email tokens as they were. -/
theorem tables_of_error {error : AppError} (fails : (world.exchange env arrival).reply = .error error) :
    (world.exchange env arrival).after.committed.users = world.db.users ∧
      (world.exchange env arrival).after.committed.emailTokens = world.db.emailTokens := by
  obtain ⟨sessions, same⟩ := sessions_of_error fails
  rw [same]
  exact ⟨rfl, rfl⟩

variable (env) in
/-- An exchange leaves the mail flows alone, or it succeeds with one of the outcomes. -/
theorem mail_cases (world : World T) (arrival : Arrival) :
    (world.exchange env arrival).mail = world.server.mail ∨
      (∃ reply, (world.exchange env arrival).reply = .ok reply) ∧
        MailOutcome env arrival world.clock world.draws (world.exchange env arrival).after.draws
          world.server.mail (world.exchange env arrival).mail := by
  cases replied : (world.exchange env arrival).reply with
  | error error =>
    obtain ⟨users, tokens⟩ := tables_of_error replied
    left
    simp only [Exchange.mail, Exchange.mailed, replied, tokens, Server.mail, World.server]
    congr 1
    funext userId
    simp only [Database.address, users]
  | ok reply =>
    obtain ⟨limited, final, passes, ran, same⟩ := exchange_answered replied
    have beside : world.server.Beside limited := beside_of_run passes
    have mails : world.server.Mails env arrival final :=
      (mails_dispatch ran).between beside (.refl _)
    have left : (world.exchange env arrival).mail = final.mail := by
      simp only [Exchange.mail, Exchange.mailed, replied, same]
      rfl
    refine .inr ⟨⟨reply, rfl⟩, ?_⟩
    rw [left, same]
    exact mails

end

/-! ## Alice's letter -/

theorem World.new_fresh : World.new.Fresh :=
  { World.new_starts with noUsers := rfl, noEmailTokens := rfl }

theorem deployed_play {events : List (Event ℚ)} (playable : World.new.Playable demo events) :
    (deployed demo).Reachable (World.new.play demo events) :=
  ⟨World.new, World.new_fresh, leads_play playable⟩

/-- Alice shows the token that was mailed to her when she registered. -/
def verifyAlice : Arrival where
  http := {}
  route := .openTo (.verifyEmail "url-safe-token-6")

end EnterpriseAuth

import EnterpriseAuth.Api.System
import EnterpriseAuth.Requests.Statements

/-!
# What a request leaves alone

Most of what a handler does concerns neither the session rows nor the blacklist of refresh tokens:
it counts a rate limit, reads rows, draws a random value, schedules mail.  `Aside frame` relates
two servers when only such things happened between them, where `frame` bounds what may have
happened to the other tables.  `Within frame` is the class of programs that stay aside whatever
they are started on; the instances follow the syntax of programs, so that a handler without case
distinctions is found to be `Within` its frame by unfolding it.
-/

namespace EnterpriseAuth

open Effects Program

variable {T : Type}

/-! ## Frames -/

/-- A bound on how the database may change. -/
structure Frame (T : Type) where
  holds : Database T → Database T → Prop
  refl : ∀ db, holds db db
  trans : ∀ {first second third}, holds first second → holds second third → holds first third

namespace Frame

/-- The session rows stay as they are. -/
def sessions : Frame T where
  holds before after := after.sessions = before.sessions
  refl _ := rfl
  trans first second := second.trans first

/-- The users who exist keep their standing: session rows and second factors stay as they are, no
user goes away, and nobody is disabled or enabled. -/
structure Standing (before after : Database T) : Prop where
  sessions : after.sessions = before.sessions
  twoFactorAuth : after.twoFactorAuth = before.twoFactorAuth
  users : ∀ id user, before.users.find id = some user →
    ∃ user', after.users.find id = some user' ∧ user'.isActive = user.isActive

def standing : Frame T where
  holds := Standing
  refl _ := ⟨rfl, rfl, fun _ user found => ⟨user, found, rfl⟩⟩
  trans first second :=
    { sessions := second.sessions.trans first.sessions
      twoFactorAuth := second.twoFactorAuth.trans first.twoFactorAuth
      users := by
        intro id user found
        obtain ⟨middle, foundMiddle, same⟩ := first.users id user found
        obtain ⟨last, foundLast, sameLast⟩ := second.users id middle foundMiddle
        exact ⟨last, foundLast, sameLast.trans same⟩ }

/-- Nothing in the database changes. -/
def reads : Frame T where
  holds before after := after = before
  refl _ := rfl
  trans first second := second.trans first

end Frame

/-! ## Aside -/

structure Aside (frame : Frame T) (before after : Server T) : Prop where
  clock : after.clock = before.clock
  draws : before.draws ≤ after.draws
  committed : after.committed = before.committed
  working : frame.holds before.working after.working
  blacklist : ∀ jti, after.redis (.revokedJti jti) = before.redis (.revokedJti jti)
  wellNumbered : before.working.WellNumbered before.draws → after.working.WellNumbered after.draws

theorem Database.WellNumbered.mono {db : Database T} {draws more : ℕ}
    (numbered : db.WellNumbered draws) (order : draws ≤ more) : db.WellNumbered more where
  users id user found := (numbered.users id user found).trans_le order
  twoFactorAuth id record found := (numbered.twoFactorAuth id record found).trans_le order

namespace Aside

variable {frame : Frame T}

theorem refl (server : Server T) : Aside frame server server :=
  ⟨rfl, le_rfl, rfl, frame.refl _, fun _ => rfl, id⟩

theorem trans {first second third : Server T} (left : Aside frame first second)
    (right : Aside frame second third) : Aside frame first third where
  clock := right.clock.trans left.clock
  draws := left.draws.trans right.draws
  committed := right.committed.trans left.committed
  working := frame.trans left.working right.working
  blacklist jti := (right.blacklist jti).trans (left.blacklist jti)
  wellNumbered numbered := right.wellNumbered (left.wellNumbered numbered)

theorem widen {wider : Frame T} {before after : Server T} (aside : Aside frame before after)
    (include' : ∀ first second, frame.holds first second → wider.holds first second) :
    Aside wider before after :=
  { aside with working := include' _ _ aside.working }

end Aside

/-! ## Programs that stay aside -/

/-- The key is not an entry of the blacklist of refresh tokens. -/
class Key.Plain (key : Key) : Prop where
  notBlacklist : ∀ jti, key ≠ .revokedJti jti

instance (key : String) : (Key.rateLimit key).Plain := ⟨nofun⟩
instance (subject : String) : (Key.lockout subject).Plain := ⟨nofun⟩
instance (subject : String) : (Key.failcount subject).Plain := ⟨nofun⟩
instance (sid : Uuid) : (Key.sessionActive sid).Plain := ⟨nofun⟩
instance (sid : Uuid) : (Key.sessionTouch sid).Plain := ⟨nofun⟩
instance (sid : Uuid) : (Key.sessionRevoked sid).Plain := ⟨nofun⟩
instance (userId : Uuid) (otp : String) : (Key.otpUsed userId otp).Plain := ⟨nofun⟩
instance (state : String) : (Key.oauthState state).Plain := ⟨nofun⟩

/-- The statement stays inside the frame and numbers no row. -/
class Frame.Allows (frame : Frame T) (change : Database T → Except AppError (Database T)) :
    Prop where
  inside : ∀ before after, change before = .ok after → frame.holds before after
  numbered : ∀ before after draws, change before = .ok after → before.WellNumbered draws →
    after.WellNumbered draws

section
variable [CommRing T] [LinearOrder T]

class Within (frame : Frame T) {α : Type} (program : App T α) : Prop where
  keeps : ∀ start, Keeps handle (Aside frame start) program

variable {frame : Frame T} {α β : Type}

namespace Within

theorem aside (frame : Frame T) (program : App T α) [within : Within frame program]
    (server : Server T) :
    Aside frame server (program.run handle server).2 :=
  (within.keeps server).final (.refl server)

theorem of_exact (frame : Frame T) {program : App T α} [within : Within frame program]
    {server final : Server T} {result : Except AppError α}
    (ran : program.run handle server = (result, final)) : Aside frame server final := by
  have aside := within.aside frame program server
  rwa [ran] at aside

/-- What staying aside keeps, the program keeps. -/
theorem stable {program : App T α} [within : Within frame program] {holds : Server T → Prop}
    (keeps : ∀ before after, Aside frame before after → holds before → holds after) :
    Keeps handle holds program :=
  Keeps.of_final fun server held => keeps _ _ (within.aside frame program server) held

theorem of_run {program : App T α}
    (step : ∀ server, Aside frame server (program.run handle server).2) : Within frame program where
  keeps _ := Keeps.of_final fun server aside => aside.trans (step server)

instance pure (value : α) : Within frame (Pure.pure value : App T α) :=
  ⟨fun _ => Keeps.pure value⟩

instance throw (error : AppError) : Within frame (throw error : App T α) :=
  ⟨fun _ => Keeps.throw error⟩

instance bind {program : App T α} {rest : α → App T β} [first : Within frame program]
    [second : ∀ value, Within frame (rest value)] : Within frame (program >>= rest) :=
  ⟨fun start => Keeps.bind (first.keeps start) fun value => (second value).keeps start⟩

/-- The bind rule for a continuation that is examined by hand. -/
theorem sequence {program : App T α} {rest : α → App T β} [Within frame program]
    (second : ∀ value, Within frame (rest value)) : Within frame (program >>= rest) :=
  bind

instance map {transform : α → β} {program : App T α} [Within frame program] :
    Within frame (transform <$> program) :=
  sequence fun value => pure (transform value)

instance tryCatch {program : App T α} {recover : AppError → App T α}
    [first : Within frame program] [second : ∀ error, Within frame (recover error)] :
    Within frame (MonadExcept.tryCatch program recover) :=
  ⟨fun start => Keeps.tryCatch (first.keeps start) fun error => (second error).keeps start⟩

instance ite {condition : Prop} [Decidable condition] {first second : App T α}
    [Within frame first] [Within frame second] :
    Within frame (if condition then first else second) := by
  split <;> infer_instance

/-- A command that stays aside. -/
theorem of_step {command : Command T}
    (step : ∀ server, Aside frame server (handle command server).2) :
    Within frame (call command) :=
  ⟨fun _ => Keeps.call fun server aside => aside.trans (step server)⟩

theorem of_unchanged {command : Command T} (same : ∀ server, (handle command server).2 = server) :
    Within frame (call command) :=
  of_step fun server => by rw [same]; exact .refl server

instance now : Within frame (now : App T T) := of_unchanged fun _ => rfl
instance view : Within frame (view : App T (Database T)) := of_unchanged fun _ => rfl
instance present (key : Key) : Within frame (present key : App T Bool) := of_unchanged fun _ => rfl
instance getKey (key : Key) : Within frame (getKey key : App T _) := of_unchanged fun _ => rfl

instance uuid4 : Within frame (uuid4 : App T Uuid) :=
  of_step fun _ => {
    clock := rfl
    draws := Nat.le_succ _
    committed := rfl
    working := frame.refl _
    blacklist := fun _ => rfl
    wellNumbered := fun numbered => numbered.mono (Nat.le_succ _) }

instance addTask (mail : Mail) : Within frame (addTask mail : App T Unit) :=
  of_step fun _ => ⟨rfl, le_rfl, rfl, frame.refl _, fun _ => rfl, id⟩

/-- A command of Redis that writes no entry of the blacklist. -/
theorem redis {command : RedisCommand}
    (plain : ∀ (now : T) (store : RedisStore T) jti,
      (command.execute now store).2 (.revokedJti jti) = store (.revokedJti jti)) :
    Within frame (call (.redis command) : App T _) :=
  of_step fun _ => ⟨rfl, le_rfl, rfl, frame.refl _, fun jti => plain _ _ jti, id⟩

section
variable (key : Key) [plain : key.Plain]

omit [CommRing T] [LinearOrder T] in
theorem put_plain (store : RedisStore T) (entry : Entry RedisValue T) (jti : Uuid) :
    store.put key entry (.revokedJti jti) = store (.revokedJti jti) := by
  simp [ExpiringStore.put, (plain.notBlacklist jti).symm]

instance setKey (value : RedisValue) (ex : ℕ) : Within frame (setKey key value ex : App T Unit) :=
  redis fun now store jti => by
    simp only [RedisCommand.execute]
    split
    · rfl
    · exact put_plain key store _ jti

instance deleteKey : Within frame (deleteKey key : App T Unit) :=
  redis fun _ store jti => by
    simp [RedisCommand.execute, ExpiringStore.remove, (plain.notBlacklist jti).symm]

instance incrKey : Within frame (incrKey key : App T ℕ) :=
  redis fun now store jti => by
    simp only [RedisCommand.execute]
    split
    · exact put_plain key store _ jti
    · exact put_plain key store _ jti
    · rfl

instance expireKey (seconds : ℕ) : Within frame (expireKey key seconds : App T Unit) :=
  redis fun now store jti => by
    simp only [RedisCommand.execute]
    split
    · rfl
    · exact put_plain key store _ jti

end

instance write (change : Database T → Except AppError (Database T))
    [allowed : frame.Allows change] : Within frame (write change : App T Unit) :=
  of_step fun server => by
    simp only [handle]
    split
    next working changed =>
      exact {
        clock := rfl
        draws := le_rfl
        committed := rfl
        working := allowed.inside _ _ changed
        blacklist := fun _ => rfl
        wellNumbered := allowed.numbered _ _ _ changed }
    next => exact .refl server

end Within

end

end EnterpriseAuth

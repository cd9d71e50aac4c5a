import EnterpriseAuth.Guarantees.OneTimeCodes
import EnterpriseAuth.Guarantees.RateLimits

/-!
# Lockouts of different subjects

A login is locked for an address and an IP, a second factor for a user, and each of them is one text
in the keys of Redis.  The texts of two subjects differ unless the subjects are the same: the part
before the first `:` is an address, or it is `2fa`.  So the operations on one subject touch none of
the keys that decide for another one, and a run decides for a subject as if nobody else was there.
-/

namespace EnterpriseAuth

open Effects Program RateLimiter

variable {T : Type}

/-! ## Texts with a separator -/

/-- Two texts with one separator are equal when their parts are. -/
theorem append_colon_inj {first second : List Char} {rest other : List Char}
    (plain : ':' ∉ first) (otherPlain : ':' ∉ second)
    (same : first ++ ':' :: rest = second ++ ':' :: other) : first = second ∧ rest = other := by
  induction first generalizing second with
  | nil =>
    cases second with
    | nil => exact ⟨rfl, by simpa using same⟩
    | cons character second =>
      simp only [List.nil_append, List.cons_append, List.cons.injEq] at same
      simp [← same.1] at otherPlain
  | cons character first inductionHypothesis =>
    cases second with
    | nil =>
      simp only [List.nil_append, List.cons_append, List.cons.injEq] at same
      simp [same.1] at plain
    | cons otherCharacter second =>
      simp only [List.cons_append, List.cons.injEq] at same
      simp only [List.mem_cons, not_or] at plain otherPlain
      obtain ⟨equal, rest⟩ := inductionHypothesis plain.2 otherPlain.2 same.2
      exact ⟨by rw [same.1, equal], rest⟩

theorem toList_toString (number : ℕ) : (toString number).toList = Nat.toDigits 10 number :=
  String.toList_ofList

theorem isDigit_of_mem_toString {number : ℕ} {character : Char}
    (member : character ∈ (toString number).toList) : character.isDigit = true := by
  rw [toList_toString] at member
  exact Nat.isDigit_of_mem_toDigits (by decide) (by decide) member

theorem toString_inj {first second : ℕ} (same : toString first = toString second) :
    first = second :=
  toDigits_injective (String.ofList_injective same)

/-! ## Keys as texts -/

/-- What a key starts with. -/
def Key.family : Key → String
  | .revokedJti _ => "revoked_jti"
  | .sessionRevoked _ => "session_revoked"
  | .sessionTouch _ => "session_touch"
  | .sessionActive _ => "session_active"
  | .rateLimit _ => "ratelimit"
  | .lockout _ => "lockout"
  | .failcount _ => "failcount"
  | .otpUsed .. => "2fa_otp_used"
  | .oauthState _ => "oauth_state"

/-- What follows the separator. -/
def Key.rest : Key → String
  | .revokedJti id | .sessionRevoked id | .sessionTouch id | .sessionActive id => toString id
  | .rateLimit text | .lockout text | .failcount text | .oauthState text => text
  | .otpUsed userId otp => s!"{userId}:{otp}"

/-- The key as it is sent to Redis. -/
def Key.text (key : Key) : String := s!"{key.family}:{key.rest}"

theorem colon_notMem_toString (number : ℕ) : ':' ∉ (toString number).toList := by
  intro member
  have digit := isDigit_of_mem_toString member
  simp [Char.isDigit] at digit

theorem separated_inj {first second rest other : String} (plain : ':' ∉ first.toList)
    (otherPlain : ':' ∉ second.toList) (same : s!"{first}:{rest}" = s!"{second}:{other}") :
    first = second ∧ rest = other := by
  have lists := congrArg String.toList same
  simp only [String.toList_append, toString] at lists
  simp only [List.append_assoc] at lists
  obtain ⟨equal, equalRest⟩ := append_colon_inj plain otherPlain (by simpa using lists)
  exact ⟨String.toList_injective equal, String.toList_injective equalRest⟩

/-- Different keys are different texts. -/
theorem Key.text_injective {first second : Key} (same : first.text = second.text) :
    first = second := by
  have plain (key : Key) : ':' ∉ key.family.toList := by cases key <;> simp [Key.family]
  obtain ⟨family, rest⟩ := separated_inj (plain first) (plain second) same
  cases first <;> cases second <;> simp only [Key.family, Key.rest] at family rest
  all_goals first
    | exact absurd family (by decide)
    | rw [toString_inj rest]
    | rw [rest]
    | skip
  obtain ⟨userId, otp⟩ := separated_inj (colon_notMem_toString _) (colon_notMem_toString _) rest
  rw [toString_inj userId, otp]

/-- A text, and another one behind a separator. -/
def joined (head : String) : Option String → String
  | none => head
  | some tail => s!"{head}:{tail}"

theorem joined_inj {head otherHead : String} {tail other : Option String} (plain : ':' ∉ head.toList)
    (otherPlain : ':' ∉ otherHead.toList) (same : joined head tail = joined otherHead other) :
    head = otherHead ∧ tail = other := by
  have separated (head tail : String) : ':' ∈ s!"{head}:{tail}".toList := by simp [toString]
  cases tail with
  | none =>
    cases other with
    | none => exact ⟨same, rfl⟩
    | some other =>
      simp only [joined] at same
      exact absurd (separated otherHead other) (same ▸ plain)
  | some tail =>
    cases other with
    | none =>
      simp only [joined] at same
      exact absurd (separated head tail) (same ▸ otherPlain)
    | some other =>
      obtain ⟨heads, tails⟩ := separated_inj plain otherPlain same
      exact ⟨heads, by rw [tails]⟩

/-! ## Subjects -/

/-- An address as `EmailStr` lets it pass. -/
structure EmailStr where
  text : String
  hasAt : '@' ∈ text.toList
  noColon : ':' ∉ text.toList

/-- What is relied on of `str.lower`. -/
structure LowerContract (env : Environment T) : Prop where
  colon : ∀ text, ':' ∈ (env.lower text).toList → ':' ∈ text.toList
  keepsAt : ∀ text, '@' ∈ text.toList → '@' ∈ (env.lower text).toList
  plain : ∀ text, (∀ character ∈ text.toList, character.isDigit ∨ character.isLower ∨ character = ':') →
    env.lower text = text

/-- Whom a lockout is about: a login from an IP, or the second factor of a user. -/
inductive LockSubject where
  | login (email : EmailStr) (ip : String)
  | secondFactor (userId : Uuid)

namespace LockSubject

def identifier : LockSubject → String
  | .login email _ => email.text
  | .secondFactor userId => TwoFactorService.lockId userId

def ip : LockSubject → Option String
  | .login _ ip => some ip
  | .secondFactor _ => none

/-- The emails agree up to case and the IPs are equal, or the users are. -/
def Same (env : Environment T) : LockSubject → LockSubject → Prop
  | .login email ip, .login other otherIp => env.lower email.text = env.lower other.text ∧ ip = otherIp
  | .secondFactor userId, .secondFactor other => userId = other
  | _, _ => False

instance (env : Environment T) (first second : LockSubject) : Decidable (first.Same env second) := by
  unfold Same
  split <;> infer_instance

/-- The text under which the subject is counted. -/
def text (env : Environment T) (subject : LockSubject) : String :=
  RateLimiter.subject env subject.identifier subject.ip

variable {env : Environment T}

/-- What precedes the first separator of the text. -/
def head (env : Environment T) : LockSubject → String
  | .login email _ => env.lower email.text
  | .secondFactor _ => "2fa"

def tail : LockSubject → Option String
  | .login _ ip => if ip = "" then none else some ip
  | .secondFactor userId => some (toString userId)

theorem lower_lockId (lowers : LowerContract env) (userId : Uuid) :
    env.lower (TwoFactorService.lockId userId) = TwoFactorService.lockId userId := by
  apply lowers.plain
  intro character member
  have parts : (TwoFactorService.lockId userId).toList = "2fa:".toList ++ (toString userId).toList :=
    String.toList_append
  rw [parts, List.mem_append] at member
  cases member with
  | inl fixed =>
    simp only [String.reduceToList, List.mem_cons, List.not_mem_nil, or_false] at fixed
    rcases fixed with rfl | rfl | rfl | rfl <;> decide
  | inr digit => exact .inl (isDigit_of_mem_toString digit)

theorem text_eq_joined (lowers : LowerContract env) (subject : LockSubject) :
    subject.text env = joined (subject.head env) subject.tail := by
  cases subject with
  | login email ip =>
    simp only [text, RateLimiter.subject, identifier, LockSubject.ip, head, tail]
    split <;> rfl
  | secondFactor userId => exact lower_lockId lowers userId

theorem head_plain (lowers : LowerContract env) (subject : LockSubject) :
    ':' ∉ (subject.head env).toList := by
  cases subject with
  | login email ip => exact fun member => email.noColon (lowers.colon _ member)
  | secondFactor => simp [head]

/-- Two subjects are counted under one text only if they are the same. -/
theorem text_eq_iff (lowers : LowerContract env) (first second : LockSubject) :
    first.text env = second.text env ↔ first.Same env second := by
  -- an address has an @, which sets it apart from the second factor
  have addressed (email : EmailStr) : env.lower email.text ≠ "2fa" := by
    intro same
    have member := lowers.keepsAt _ email.hasAt
    simp [same] at member
  constructor
  · intro same
    rw [text_eq_joined lowers, text_eq_joined lowers] at same
    obtain ⟨heads, tails⟩ := joined_inj (head_plain lowers first) (head_plain lowers second) same
    cases first with
    | login email ip =>
      cases second with
      | secondFactor => exact absurd heads (addressed email)
      | login other otherIp =>
        refine ⟨heads, ?_⟩
        simp only [tail] at tails
        by_cases empty : ip = "" <;> by_cases otherEmpty : otherIp = "" <;> simp_all
    | secondFactor userId =>
      cases second with
      | login other => exact absurd heads.symm (addressed other)
      | secondFactor other => exact toString_inj (Option.some.inj tails)
  · intro same
    cases first with
    | login email ip =>
      cases second with
      | secondFactor => exact same.elim
      | login other otherIp =>
        obtain ⟨emails, rfl⟩ := same
        simp only [text, RateLimiter.subject, identifier, LockSubject.ip, emails]
    | secondFactor userId =>
      cases second with
      | login => exact same.elim
      | secondFactor other =>
        obtain rfl := same
        rfl

end LockSubject

/-! ## Commands on some keys -/

def Command.Among (keys : Key → Prop) : Command T → Prop
  | .redis command => keys command.key
  | _ => False

/-- The servers do not differ in these keys. -/
def Server.Agrees (keys : Key → Prop) (server other : Server T) : Prop :=
  other.clock = server.clock ∧ ∀ key, keys key → other.redis key = server.redis key

section
variable [CommRing T] [LinearOrder T]

/-- What a program comes to depends on the keys that it opens only. -/
theorem run_among {keys : Key → Prop} {α : Type} (program : App T α)
    [calls : Calls (Command.Among keys) program] {server other : Server T}
    (agrees : server.Agrees keys other) :
    (program.run handle other).1 = (program.run handle server).1 ∧
      (program.run handle server).2.Agrees keys (program.run handle other).2 := by
  obtain ⟨every⟩ := calls
  induction program generalizing server other with
  | pure value => exact ⟨rfl, agrees⟩
  | throw error => exact ⟨rfl, agrees⟩
  | perform command next inductionHypothesis =>
    obtain ⟨among, rest⟩ := every
    cases command with
    | now | draw | view | write | commit | addTask => exact among.elim
    | redis command =>
      obtain ⟨clock, same⟩ := agrees
      have congr := RedisCommand.execute_congr rfl (same _ among) server.clock
      simp only [Program.run, handle, clock, congr.1]
      refine inductionHypothesis _ ⟨rfl, fun key isKey => ?_⟩ (rest _)
      by_cases touched : command.key = key
      · exact (RedisCommand.execute_congr touched (same key isKey) server.clock).2
      · have untouched : command.writes ≠ some key := by
          intro writes
          exact touched (RedisCommand.writes_key writes)
        simp only [RedisCommand.execute_other untouched, same key isKey]

/-! ## Runs -/

variable (env : Environment T)

inductive LockAction where
  | check | fail | clear

/-- Time passes, or a subject is checked, fails or succeeds. -/
inductive LockEvent (T : Type) where
  | tick (instant : T)
  | on (subject : LockSubject) (action : LockAction)

def LockAction.program (subject : LockSubject) : LockAction → App T Unit
  | .check => ensureNotLocked env subject.identifier subject.ip
  | .fail => recordFailure env subject.identifier subject.ip
  | .clear => clearFailures env subject.identifier subject.ip

def Server.afterLock (server : Server T) : LockEvent T → Server T
  | .tick instant => { server with clock := instant }
  | .on subject action => ((action.program env subject).run handle server).2

/-- What `ensure_not_locked` decides for the subject. -/
def Server.lockDecision (server : Server T) (subject : LockSubject) : Except AppError Unit :=
  ((ensureNotLocked env subject.identifier subject.ip).run handle server).1

/-- The event is nothing that happens to another subject. -/
def LockEvent.Concerns (subject : LockSubject) : LockEvent T → Prop
  | .tick _ => True
  | .on other _ => subject.Same env other

instance (subject : LockSubject) (event : LockEvent T) : Decidable (event.Concerns env subject) := by
  unfold LockEvent.Concerns
  split <;> infer_instance

/-- The keys that decide for the subject. -/
def LockSubject.Keys (subject : LockSubject) (key : Key) : Prop :=
  key = .lockout (subject.text env) ∨ key = .failcount (subject.text env)

section
variable {env}

omit [CommRing T] [LinearOrder T] in
/-- The actions on a subject open the keys of the subject only. -/
theorem LockAction.calls {allowed : Command T → Prop} (subject : LockSubject) (action : LockAction)
    (lockout : Opens allowed (.lockout (subject.text env)))
    (failcount : Opens allowed (.failcount (subject.text env))) :
    Calls allowed (action.program env subject) := by
  have opensLockout : Opens allowed (lockoutKey env subject.identifier subject.ip) := lockout
  have opensFailcount : Opens allowed (failcountKey env subject.identifier subject.ip) := failcount
  cases action <;> (simp only [LockAction.program]; infer_instance)

theorem Server.Agrees.concerned {server other : Server T} {subject : LockSubject}
    (lowers : LowerContract env) (agrees : server.Agrees (subject.Keys env) other)
    {event : LockEvent T} (concerns : event.Concerns env subject) :
    (server.afterLock env event).Agrees (subject.Keys env) (other.afterLock env event) := by
  cases event with
  | tick instant => exact ⟨rfl, agrees.2⟩
  | on same action =>
    have text : subject.text env = same.text env := (LockSubject.text_eq_iff lowers _ _).mpr concerns
    have calls : Calls (Command.Among (subject.Keys env)) (action.program env same) := by
      apply LockAction.calls
      · exact ⟨fun command isKey => .inl (by rw [isKey, text])⟩
      · exact ⟨fun command isKey => .inr (by rw [isKey, text])⟩
    exact (run_among _ agrees).2

/-- What happens to another subject leaves the keys of this one alone. -/
theorem agrees_unconcerned (lowers : LowerContract env) (server : Server T) {subject : LockSubject}
    {event : LockEvent T} (unconcerned : ¬ event.Concerns env subject) :
    server.Agrees (subject.Keys env) (server.afterLock env event) := by
  cases event with
  | tick => exact absurd trivial unconcerned
  | on other action =>
    have different : subject.text env ≠ other.text env := by
      intro same
      exact unconcerned ((LockSubject.text_eq_iff lowers _ _).mp same)
    have calls : Calls (Command.Spares (subject.Keys env)) (action.program env other) := by
      apply LockAction.calls
      · apply opens_spares
        simp [LockSubject.Keys, different.symm]
      · apply opens_spares
        simp [LockSubject.Keys, different.symm]
    refine ⟨?_, fun key isKey => Calls.spared _ (action.program env other) isKey server⟩
    have aside : Within Frame.reads (action.program env other) := by
      cases action <;> (simp only [LockAction.program]; infer_instance)
    exact (Within.aside .reads (action.program env other) server).clock

omit [CommRing T] [LinearOrder T] in
theorem Server.Agrees.trans {keys : Key → Prop} {first second third : Server T}
    (left : first.Agrees keys second) (right : second.Agrees keys third) : first.Agrees keys third :=
  ⟨right.1.trans left.1, fun key isKey => (right.2 key isKey).trans (left.2 key isKey)⟩

theorem agrees_alone (lowers : LowerContract env) (subject : LockSubject)
    (events : List (LockEvent T)) {server other : Server T}
    (agrees : server.Agrees (subject.Keys env) other) :
    ((events.filter (·.Concerns env subject)).foldl (Server.afterLock env) server).Agrees
      (subject.Keys env) (events.foldl (Server.afterLock env) other) := by
  induction events generalizing server other with
  | nil => exact agrees
  | cons event events inductionHypothesis =>
    rw [List.foldl_cons, List.filter_cons]
    by_cases concerns : event.Concerns env subject
    · simp only [concerns, decide_true, if_true, List.foldl_cons]
      exact inductionHypothesis (agrees.concerned lowers concerns)
    · simp only [concerns, decide_false, Bool.false_eq_true, if_false]
      exact inductionHypothesis (agrees.trans (agrees_unconcerned lowers other concerns))

end

/-- The texts of the keys are told apart, and a run decides for a subject as the run does in which
only time and this subject occur. -/
theorem lockouts_separate {env : Environment T} (lowers : LowerContract env) (server : Server T)
    (events : List (LockEvent T)) (subject : LockSubject) :
    (∀ other : LockSubject,
      ((lockoutKey env subject.identifier subject.ip).text =
        (lockoutKey env other.identifier other.ip).text ↔ subject.Same env other) ∧
      ((failcountKey env subject.identifier subject.ip).text =
        (failcountKey env other.identifier other.ip).text ↔ subject.Same env other) ∧
      (lockoutKey env subject.identifier subject.ip).text ≠
        (failcountKey env other.identifier other.ip).text) ∧
    (events.foldl (Server.afterLock env) server).lockDecision env subject =
      ((events.filter (·.Concerns env subject)).foldl (Server.afterLock env) server).lockDecision env
        subject := by
  refine ⟨fun other => ⟨?_, ?_, ?_⟩, ?_⟩
  · rw [← LockSubject.text_eq_iff lowers]
    exact ⟨fun same => Key.lockout.inj (Key.text_injective same), fun same =>
      congrArg (fun text => (Key.lockout text).text) same⟩
  · rw [← LockSubject.text_eq_iff lowers]
    exact ⟨fun same => Key.failcount.inj (Key.text_injective same), fun same =>
      congrArg (fun text => (Key.failcount text).text) same⟩
  · intro same
    have keys := Key.text_injective same
    simp [lockoutKey, failcountKey] at keys
  · have start : server.Agrees (subject.Keys env) server := ⟨rfl, fun _ _ => rfl⟩
    have calls : Calls (Command.Among (subject.Keys env)) (LockAction.check.program env subject) := by
      apply LockAction.calls
      · exact ⟨fun command isKey => .inl isKey⟩
      · exact ⟨fun command isKey => .inr isKey⟩
    exact (run_among (LockAction.check.program env subject)
      (agrees_alone lowers subject events start)).1

end

/-! ## An address that is locked from one IP -/

theorem toLower_eq_colon {character : Char} (same : character.toLower = ':') : character = ':' := by
  unfold Char.toLower at same
  split at same
  next upper =>
    -- a letter is lowered to a letter
    have least : 65 ≤ character.toNat := UInt32.le_iff_toNat_le.mp upper.1
    have most : character.toNat ≤ 90 := UInt32.le_iff_toNat_le.mp upper.2
    have code := congrArg (fun lowered => lowered.val.toNat) same
    simp at code
    omega
  next => exact same

theorem toLower_eq_self {character : Char}
    (plain : character.isDigit ∨ character.isLower ∨ character = ':') : character.toLower = character := by
  apply toLower_of_outside
  rcases plain with digit | lower | rfl
  · simp only [Char.isDigit, Bool.and_eq_true, decide_eq_true_eq] at digit
    have most : character.val.toNat ≤ 57 := UInt32.le_iff_toNat_le.mp digit.2
    omega
  · have letter := Bool.and_eq_true_iff.mp lower
    have least : 97 ≤ character.val.toNat :=
      UInt32.le_iff_toNat_le.mp (of_decide_eq_true letter.1)
    omega
  · decide

theorem lowerContract_demo : LowerContract demo where
  colon text member := by
    simp only [demo, String.toList_ofList, List.mem_map] at member
    obtain ⟨character, isIn, same⟩ := member
    rwa [toLower_eq_colon same] at isIn
  keepsAt text member := by
    simp only [demo, String.toList_ofList, List.mem_map]
    exact ⟨'@', member, rfl⟩
  plain text characters := by
    have same : text.toList.map Char.toLower = text.toList.map id :=
      List.map_congr_left fun character member => toLower_eq_self (characters character member)
    simp only [demo, same, List.map_id, String.ofList_toList]

def aliceAddress : EmailStr := ⟨"alice@example.org", by decide, by decide⟩

def aliceAt (ip : String) : LockSubject := .login aliceAddress ip

/-- Five failures from one IP, and a failure of a second factor some time later. -/
def aliceFailures : List (LockEvent ℚ) :=
  List.replicate 5 (.on (aliceAt "198.51.100.7") .fail) ++
    [.tick 10, .on (.secondFactor 1) .fail, .on (aliceAt "") .check]

/-- The address is locked where it has failed, and it is not locked elsewhere. -/
theorem lockouts_separate_for_alice :
    (aliceFailures.foldl (Server.afterLock demo) World.new.server).lockDecision demo
        (aliceAt "198.51.100.7") = .error .accountLocked ∧
      (aliceFailures.foldl (Server.afterLock demo) World.new.server).lockDecision demo (aliceAt "") =
        ((aliceFailures.filter (·.Concerns demo (aliceAt ""))).foldl (Server.afterLock demo)
          World.new.server).lockDecision demo (aliceAt "") :=
  ⟨by decide +kernel, (lockouts_separate lowerContract_demo World.new.server aliceFailures (aliceAt "")).2⟩

end EnterpriseAuth

import EnterpriseAuth.Api.Concurrency
import EnterpriseAuth.Effects.OneTime
import EnterpriseAuth.Guarantees.EndedTokens
import EnterpriseAuth.Guarantees.Scenario
import EnterpriseAuth.Requests.Interleaved
import EnterpriseAuth.Requests.Keys

/-!
# Refreshes with one token at the same time

`rotate` asks whether the presented token is on the blacklist, and lists it with a later command.  Two
requests that both ask before either lists get a pair each.  Where no request asks while another one
has found the token unlisted and has not minted its pair yet, at most one request gets a pair, and the
session has at most one usable refresh token.
-/

namespace EnterpriseAuth

open Effects Program

variable {T ι : Type} [CommRing T] [LinearOrder T]

/-! ## The window of a rotation -/

/-- The token is on the blacklist until the last second of its life. -/
def Shared.Retired (claims : Claims) (shared : Shared T) : Prop :=
  ∃ bound, (claims.exp : T) < bound + 1 ∧ shared.redis.HoldsUntil (.revokedJti claims.jti) bound

/-- The request has asked for the token and found it unlisted. -/
def FoundUnlisted (claims : Claims)
    (entry : Performed (Command T) Command.Res AppError (Shared T)) : Prop :=
  entry.op = .redis (.present (.revokedJti claims.jti)) ∧
    entry.found.redis.lookup entry.found.clock (.revokedJti claims.jti) = none

/-- A request that has found the token unlisted reads the clock to see how long it has to be listed. -/
def ReadsClock (claims : Claims) (log : RequestLog T) (command : Command T) : Prop :=
  command = .now ∧ (∃ entry ∈ log, FoundUnlisted claims entry) ∧ ∀ entry ∈ log, entry.op ≠ .draw

/-- A token that is asked for, listed and replaced.  No command lies between the `SET` of the blacklist
and the first draw of the next pair, so the draw stands for both. -/
def refreshOnce (claims : Claims) :
    OneTime (Command T) Command.Res AppError (Transaction T) (Shared T) where
  handle := concurrently
  moves before after := before.clock ≤ after.clock
  refl _ := le_rfl
  trans := le_trans
  spent := Shared.Retired claims
  checks log command :=
    command = .redis (.present (.revokedJti claims.jti)) ∨ ReadsClock claims log command
  passes := FoundUnlisted claims
  marks entry := entry.op = .draw
  timely shared := shared.clock + 1 ≤ (claims.exp : T)

variable (env : Environment T) {claims : Claims}

/-- Of the commands on the blacklist entry of the token, the one of `revoke_jti` alone.  Draws are
for those who may mint. -/
def Command.Around (claims : Claims) (mints : Prop) : Command T → Prop
  | .redis command => command.key = .revokedJti claims.jti →
      command = .set (.revokedJti claims.jti) .flag (revocationSeconds env)
  | .draw => mints
  | .now | .view | .write _ | .commit | .addTask _ => True

abbrev RefreshVantage (T : Type) :=
  Vantage (Command T) Command.Res AppError (Transaction T) (Shared T)

/-- The request has not minted anything, and `revoke_jti` outlasts the token. -/
structure Unminted (claims : Claims) (vantage : RefreshVantage T) : Prop where
  outlived : (claims.exp : T) ≤ vantage.since.clock + (revocationSeconds env : ℕ)
  unminted : ∀ entry ∈ vantage.log, entry.op ≠ .draw

/-- The request has found the token unlisted, and has not minted anything. -/
structure Found (claims : Claims) (vantage : RefreshVantage T) : Prop extends
    Unminted env claims vantage where
  found : ∃ entry ∈ vantage.log, FoundUnlisted claims entry

/-- The request has found the token unlisted and has listed it. -/
structure Listed (claims : Claims) (vantage : RefreshVantage T) : Prop where
  outlived : (claims.exp : T) ≤ vantage.since.clock + (revocationSeconds env : ℕ)
  passed : (refreshOnce claims).Passed vantage.log
  retired : vantage.since.Retired claims

/-- The request has listed the token and has begun to mint its pair. -/
structure Minted (claims : Claims) (vantage : RefreshVantage T) : Prop extends
    Listed env claims vantage where
  marked : (refreshOnce claims).Marked vantage.log

/-! ## Single commands -/

variable {env}

theorem clock_concurrently (command : Command T) (own : Transaction T) (shared : Shared T) :
    (concurrently command (own, shared)).2.2.clock = shared.clock := by
  cases command with
  | write | commit => simp only [concurrently]; split <;> rfl
  | now | draw | redis | view | addTask => rfl

theorem redis_concurrently {command : Command T} (other : ∀ sent, command ≠ .redis sent)
    (own : Transaction T) (shared : Shared T) :
    (concurrently command (own, shared)).2.2.redis = shared.redis := by
  cases command with
  | redis sent => exact absurd rfl (other sent)
  | write | commit => simp only [concurrently]; split <;> rfl
  | now | draw | view | addTask => rfl

theorem Shared.Retired.congr {before after : Shared T} (retired : before.Retired claims)
    (same : after.redis (.revokedJti claims.jti) = before.redis (.revokedJti claims.jti)) :
    after.Retired claims := by
  obtain ⟨bound, covers, holds⟩ := retired
  exact ⟨bound, covers, holds.congr same⟩

/-- An entry that is written with the lifetime retires the token. -/
theorem retired_put {shared : Shared T} {seconds : ℕ}
    (covers : (claims.exp : T) < shared.clock + seconds + 1) :
    ({ shared with
      redis := shared.redis.put (.revokedJti claims.jti)
        ⟨.flag, some (shared.clock + seconds)⟩ } : Shared T).Retired claims :=
  ⟨_, covers, ExpiringStore.holdsUntil_put _ _ _ _⟩

section
variable [IsStrictOrderedRing T]

/-- A retired token is not found unlisted while a second of its life is left. -/
theorem Shared.Retired.listed {shared : Shared T} (retired : shared.Retired claims) {instant : T}
    (timely : instant + 1 ≤ (claims.exp : T)) :
    shared.redis.lookup instant (.revokedJti claims.jti) ≠ none := by
  obtain ⟨bound, covers, holds⟩ := retired
  have before : instant < bound := lt_of_add_lt_add_right (timely.trans_lt covers)
  exact Option.isSome_iff_ne_none.mp (holds instant before)

theorem around_retired {mints : Prop} {command : Command T}
    (around : command.Around env claims mints) {own : Transaction T} {shared : Shared T}
    (outlived : (claims.exp : T) ≤ shared.clock + (revocationSeconds env : ℕ))
    (retired : shared.Retired claims) :
    (concurrently command (own, shared)).2.2.Retired claims := by
  cases command with
  | redis sent =>
    by_cases here : sent.key = .revokedJti claims.jti
    · obtain rfl := around here
      simp only [concurrently, RedisCommand.execute]
      split
      · exact retired
      · exact retired_put (outlived.trans_lt (lt_add_one _))
    · apply retired.congr
      apply RedisCommand.execute_other
      exact fun written => here (RedisCommand.writes_key written)
  | now | draw | view | write | commit | addTask =>
    exact retired.congr (congrFun (redis_concurrently (by simp) own shared) _)

/-- The commands around the window keep to the discipline. -/
theorem permits_around {mints : Prop} {command : Command T}
    (around : command.Around env claims mints) {vantage : RefreshVantage T} {shared : Shared T}
    (outlived : (claims.exp : T) ≤ shared.clock + (revocationSeconds env : ℕ))
    (minting : mints → (refreshOnce claims).Passed vantage.log ∧ shared.Retired claims) :
    (refreshOnce claims).discipline.Permits vantage command shared := by
  refine ⟨⟨fun _ passes => ?_, fun marks => ?_⟩, ?_, around_retired around outlived⟩
  · -- no such command asks for the token
    have asks : command = .redis (.present (.revokedJti claims.jti)) := passes.1
    subst asks
    cases around rfl
  · have draws : command = .draw := marks
    subst draws
    obtain ⟨passed, retired⟩ := minting around
    exact ⟨passed, retired⟩
  · exact (clock_concurrently command vantage.own shared).ge

/-! ## Whole requests -/

/-! ### Around the window -/

theorem obeys_unminted {α : Type} {program : App T α} {wanted : α → Prop}
    (every : program.Every (Command.Around env claims False) wanted) :
    (refreshOnce claims).discipline.Obeys (Unminted env claims) program
      (fun value vantage => wanted value ∧ Unminted env claims vantage)
      fun _ => Unminted env claims := by
  apply Discipline.Obeys.of_every every
  · intro vantage shared holds evolves
    exact ⟨holds.outlived.trans (add_le_add_left evolves.1 _), holds.unminted⟩
  · intro command vantage around holds _
    refine ⟨permits_around around holds.outlived False.elim, ?_, ?_⟩
    · exact holds.outlived.trans_eq
        (congrArg (· + _) (clock_concurrently command vantage.own vantage.since).symm)
    · intro entry member
      rcases List.mem_cons.mp member with rfl | old
      · rintro draws
        change command = .draw at draws
        subst draws
        exact around
      · exact holds.unminted entry old

theorem obeys_minted {α : Type} (program : App T α)
    [calls : Calls (Command.Around env claims True) program] :
    (refreshOnce claims).discipline.Obeys (Minted env claims) program
      (fun _ => Minted env claims) fun _ => Minted env claims := by
  refine (Discipline.Obeys.of_every calls.every ?_ ?_).weaken (fun _ => id) (fun _ _ => And.right)
    fun _ _ => id
  · intro vantage shared holds evolves
    exact { holds with
      outlived := holds.outlived.trans (add_le_add_left evolves.1 _)
      retired := evolves.2 holds.retired }
  · intro command vantage around holds _
    refine ⟨permits_around around holds.outlived fun _ => ⟨holds.passed, holds.retired⟩, ?_⟩
    exact {
      outlived := holds.outlived.trans_eq
        (congrArg (· + _) (clock_concurrently command vantage.own vantage.since).symm)
      passed := holds.passed.cons _
      retired := around_retired around holds.outlived holds.retired
      marked := OneTime.marked_cons.mpr (.inr holds.marked) }

/-! ### The window -/

omit [IsStrictOrderedRing T] in
theorem passed_of_found {log : RequestLog T} (found : ∃ entry ∈ log, FoundUnlisted claims entry) :
    (refreshOnce claims).Passed log := by
  induction log with
  | nil => simp at found
  | cons latest log inductionHypothesis =>
    obtain ⟨entry, member, unlisted⟩ := found
    rcases List.mem_cons.mp member with rfl | old
    · exact .inr ⟨.inl unlisted.1, unlisted⟩
    · exact .inl (inductionHypothesis ⟨entry, old, unlisted⟩)

theorem obeys_isRevoked :
    (refreshOnce claims).discipline.Obeys (Unminted env claims)
      (TokenService.isRevoked claims.jti : App T Bool)
      (fun listed vantage => Unminted env claims vantage ∧
        (listed = false → Found env claims vantage)) fun _ => Unminted env claims := by
  refine .call fun vantage shared unminted evolves granted => ?_
  have timely : shared.clock + 1 ≤ (claims.exp : T) := granted (.inl rfl)
  have outlived := unminted.outlived.trans (add_le_add_left evolves.1 _)
  have still : Unminted env claims ((refreshOnce claims).discipline.left vantage
      (.redis (.present (.revokedJti claims.jti))) shared) :=
    ⟨outlived, by simpa [Discipline.left] using unminted.unminted⟩
  refine ⟨⟨⟨fun _ passes retired => retired.listed timely passes.2, nofun⟩, le_rfl, id⟩, still, ?_⟩
  intro unlisted
  refine ⟨still, _, List.mem_cons_self, rfl, ?_⟩
  have absent : (shared.redis.lookup shared.clock (.revokedJti claims.jti)).isSome = false := unlisted
  simpa using absent

theorem obeys_verifyRefresh :
    (refreshOnce claims).discipline.Obeys (Unminted env claims)
      (TokenService.verifyRefresh (.signed claims) : App T Claims)
      (fun payload vantage => payload = claims ∧ Found env claims vantage)
      fun _ => Unminted env claims := by
  have decoded : (decodeToken (.signed claims) .refresh : App T Claims).Every
      (Command.Around env claims False) (· = claims) := by
    unfold decodeToken
    refine Every.bind (Every.call trivial fun _ => trivial) fun instant _ => ?_
    exact .ite (fun _ => .throw _) fun _ => .ite (fun _ => .throw _) fun _ => .pure rfl
  unfold TokenService.verifyRefresh
  refine (obeys_unminted (decoded.tryCatch fun error => ?_)).bind fun payload => .of_fact ?_
  · exact .ite (fun _ => .throw _) fun _ => .throw _
  rintro rfl
  refine obeys_isRevoked.bind fun listed => .ite (fun _ => ?_) fun unlisted => ?_
  · exact .throw fun _ known => known.1
  · exact .pure fun _ known => ⟨rfl, known.2 (by simpa using unlisted)⟩

/-- The whole seconds that are left reach into the last second of the token's life. -/
theorem covers_wholeSeconds [FloorRing T] {instant : T} (timely : instant + 1 ≤ (claims.exp : T)) :
    0 < pyInt ((claims.exp : T) - instant) ∧
      (claims.exp : T) < instant + ((pyInt ((claims.exp : T) - instant)).toNat : ℕ) + 1 := by
  have left : 1 ≤ (claims.exp : T) - instant := le_sub_iff_add_le'.mpr timely
  have positive := pyInt_pos left
  refine ⟨positive, ?_⟩
  have seconds : ((pyInt ((claims.exp : T) - instant)).toNat : T) =
      (⌊(claims.exp : T) - instant⌋ : T) := by
    rw [← Int.cast_natCast, Int.toNat_of_nonneg positive.le, pyInt, if_pos (zero_le_one.trans left)]
  have below := Int.lt_floor_add_one ((claims.exp : T) - instant)
  rw [seconds]
  linarith

/-- The token is listed for the whole seconds that were left when the clock was read. -/
theorem obeys_revoke [FloorRing T] :
    (refreshOnce claims).discipline.Obeys (Found env claims)
      (TokenService.revoke claims : App T Unit) (fun _ => Listed env claims) fun _ _ => False := by
  -- the identifier is listed only while a whole second of its life is left
  have reads : (refreshOnce claims).discipline.Obeys (Found env claims) (now : App T T)
      (fun instant vantage => Found env claims vantage ∧ instant ≤ vantage.since.clock ∧
        instant + 1 ≤ (claims.exp : T)) fun _ _ => False := by
    refine .call fun vantage shared found evolves granted => ⟨⟨⟨?_, ?_⟩, le_rfl, id⟩, ?_⟩
    · rintro - ⟨isPresent, -⟩
      cases isPresent
    · rintro ⟨⟩
    · have timely : shared.clock + 1 ≤ (claims.exp : T) :=
        granted (.inr ⟨rfl, found.found, found.unminted⟩)
      obtain ⟨entry, member, unlisted⟩ := found.found
      refine ⟨⟨⟨found.outlived.trans (add_le_add_left evolves.1 _), ?_⟩, entry,
        List.mem_cons_of_mem _ member, unlisted⟩, le_rfl, timely⟩
      simpa [Discipline.left] using found.unminted
  unfold TokenService.revoke
  refine reads.bind fun instant => .ite (fun positive => ?_) fun expired => .pure ?_
  · refine .call fun vantage shared known evolves _ => ?_
    obtain ⟨found, read, timely⟩ := known
    have outlived := found.outlived.trans (add_le_add_left evolves.1 _)
    have covers : (claims.exp : T) <
        shared.clock + ((pyInt ((claims.exp : T) - instant)).toNat : ℕ) + 1 := by
      have whole := (covers_wholeSeconds timely).2
      have later := read.trans evolves.1
      linarith
    have lasts : (pyInt ((claims.exp : T) - instant)).toNat ≠ 0 := by omega
    generalize (pyInt ((claims.exp : T) - instant)).toNat = seconds at covers lasts ⊢
    have outcome : concurrently (.redis (.set (.revokedJti claims.jti) .flag seconds))
        (vantage.own, shared) = (.ok (), vantage.own, { shared with
          redis := shared.redis.put (.revokedJti claims.jti)
            ⟨.flag, some (shared.clock + (seconds : ℕ))⟩ }) := by
      simp [concurrently, RedisCommand.execute, lasts]
    have written : (concurrently (.redis (.set (.revokedJti claims.jti) .flag seconds))
        (vantage.own, shared)).2.2.Retired claims := by
      rw [outcome]
      exact retired_put covers
    have clock := clock_concurrently (.redis (.set (.revokedJti claims.jti) .flag seconds))
      vantage.own shared
    have permits : (refreshOnce claims).discipline.Permits vantage
        (.redis (.set (.revokedJti claims.jti) .flag seconds)) shared := by
      refine ⟨⟨?_, ?_⟩, clock.ge, fun _ => written⟩
      · rintro - ⟨isPresent, -⟩
        cases isPresent
      · rintro ⟨⟩
    have listed : Listed env claims ((refreshOnce claims).discipline.left vantage
        (.redis (.set (.revokedJti claims.jti) .flag seconds)) shared) :=
      ⟨outlived.trans_eq (congrArg (· + _) clock.symm), (passed_of_found found.found).cons _, written⟩
    exact Discipline.Obeys.answered (fun _ => Listed env claims) (fun _ _ => False) permits
      (congrArg Prod.fst outcome) listed
  · rintro vantage ⟨-, -, timely⟩
    exact absurd (covers_wholeSeconds timely).1 expired

end

/-! ### The programs around the window -/

section
variable (mints : Prop)

instance : Admits (Command.Around env claims mints) .now := ⟨trivial⟩
instance : Admits (Command.Around env claims mints) .view := ⟨trivial⟩
instance : Admits (Command.Around env claims mints) .commit := ⟨trivial⟩

instance (change : Database T → Except AppError (Database T)) :
    Admits (Command.Around env claims mints) (.write change) := ⟨trivial⟩

instance : Liberal (Command.Around env claims True) where
  admits command other _ := by
    cases command with
    | redis sent => exact absurd rfl (other sent)
    | now | draw | view | write | commit | addTask => trivial

instance (key : String) : Opens (Command.Around env claims mints) (.rateLimit key) where
  opens command isKey := by simp [Command.Around, isKey]

instance (sid : Uuid) : Opens (Command.Around env claims mints) (.sessionActive sid) where
  opens command isKey := by simp [Command.Around, isKey]

instance (sid : Uuid) : Opens (Command.Around env claims mints) (.sessionTouch sid) where
  opens command isKey := by simp [Command.Around, isKey]

instance (sid : Uuid) : Opens (Command.Around env claims mints) (.sessionRevoked sid) where
  opens command isKey := by simp [Command.Around, isKey]

/-- `revoke_jti` may be about the token itself, as long as the session has not been rebound. -/
instance (jti : Uuid) :
    Calls (Command.Around env claims mints) (TokenService.revokeJti env jti) := by
  apply Calls.of_call
  intro isKey
  obtain rfl : jti = claims.jti := Key.revokedJti.inj isKey
  rfl

instance (record : Session T) (reason : String) :
    Calls (Command.Around env claims mints) (SessionService.revoke env record reason) := by
  unfold SessionService.revoke SessionService.clearCache; infer_instance

instance (sid : Uuid) (reason : String) :
    Calls (Command.Around env claims mints) (SessionService.revokeBySid env sid reason) := by
  unfold SessionService.revokeBySid
  refine Calls.sequence fun db => ?_
  split <;> infer_instance

instance (token : Token) (expected : TokenType) :
    Calls (Command.Around env claims mints) (decodeToken token expected : App T Claims) := by
  unfold decodeToken
  cases token <;> infer_instance

instance (token : Token) :
    Calls (Command.Around env claims mints) (handleRefreshReplay env token) := by
  unfold handleRefreshReplay
  refine Calls.sequence fun payload => ?_
  split <;> infer_instance

end

/-! ### From the arrival to the reply -/

section
variable [IsStrictOrderedRing T]

theorem obeys_mint :
    (refreshOnce claims).discipline.Obeys (Listed env claims) (uuid4 : App T Uuid)
      (fun _ => Minted env claims) fun _ _ => False := by
  refine .call fun vantage shared listed evolves _ => ?_
  have retired := evolves.2 listed.retired
  refine ⟨⟨⟨?_, fun _ => ⟨listed.passed, retired⟩⟩, le_rfl, id⟩, ?_⟩
  · rintro - ⟨isPresent, -⟩
    cases isPresent
  · exact {
      outlived := listed.outlived.trans (add_le_add_left evolves.1 _)
      passed := listed.passed.cons _
      retired
      marked := OneTime.marked_cons.mpr (.inl rfl) }

variable [FloorRing T]

theorem obeys_issuePair (userId : Uuid) (rememberMe : Bool) (sid : Option Uuid) :
    (refreshOnce claims).discipline.Obeys (Listed env claims)
      (TokenService.issuePair env userId rememberMe sid) (fun _ => Minted env claims)
      fun _ => Minted env claims := by
  unfold TokenService.issuePair
  have first : (refreshOnce claims).discipline.Obeys (Listed env claims)
      (createToken userId .access (env.settings.accessTokenExpireMinutes * 60) sid false)
      (fun _ => Minted env claims) fun _ => Minted env claims :=
    (obeys_mint.weaken (fun _ => id) (fun _ _ => id) fun _ _ => False.elim).bind
      fun jti => obeys_minted _
  exact first.bind fun access => obeys_minted _

/-- A rotation lists the token and mints, unless it raises before. -/
theorem obeys_rotate :
    (refreshOnce claims).discipline.Obeys (Unminted env claims)
      (TokenService.rotate env (.signed claims)) (fun _ => Minted env claims)
      fun _ vantage => Unminted env claims vantage ∨ Minted env claims vantage := by
  unfold TokenService.rotate
  refine (obeys_verifyRefresh.weaken (fun _ => id) (fun _ _ => id) fun _ _ => .inl).bind
    fun payload => .of_fact ?_
  rintro rfl
  refine (obeys_revoke.weaken (fun _ => id) (fun _ _ => id) fun _ _ => False.elim).bind fun _ => ?_
  refine ((obeys_issuePair _ _ _).weaken (fun _ => id) (fun _ _ => id) fun _ _ => .inr).bind
    fun issued => .pure fun _ => id

/-- The request presents the refresh token. -/
structure Arrival.Refreshes (arrival : Arrival) (claims : Claims) : Prop where
  route : arrival.route = .refresh
  presents : arrival.http.refreshToken = some (.signed claims)
  isRefresh : claims.type = .refresh

theorem obeys_refresh {arrival : Arrival} (refreshes : arrival.Refreshes claims) :
    (refreshOnce claims).discipline.Obeys (Unminted env claims) (refresh env arrival.http)
      (fun _ => Minted env claims) fun _ _ => True := by
  have replays : (refreshOnce claims).discipline.Obeys
      (fun vantage => Unminted env claims vantage ∨ Minted env claims vantage)
      (handleRefreshReplay env (.signed claims)) (fun _ _ => True) fun _ _ => True := by
    rintro vantage (unminted | minted)
    · have calls : Calls (Command.Around env claims False) (handleRefreshReplay env (.signed claims)) :=
        inferInstance
      exact (obeys_unminted calls.every).weaken (fun _ => id) (fun _ _ _ => trivial)
        (fun _ _ _ => trivial) vantage unminted
    · exact (obeys_minted _).weaken (fun _ => id) (fun _ _ _ => trivial) (fun _ _ _ => trivial)
        vantage minted
  simp only [refresh, refreshes.presents]
  refine (obeys_rotate.tryCatch fun error => ?_).bind fun rotated => ?_
  · -- whoever has not rotated the token raises
    refine .ite (fun _ => ?_) fun _ => .throw fun _ _ => trivial
    exact replays.bind fun _ => .throw fun _ _ => trivial
  · obtain ⟨userId, sid, pair, refreshJti⟩ := rotated
    cases sid with
    | none => exact (obeys_minted _).weaken (fun _ => id) (fun _ _ => id) fun _ _ _ => trivial
    | some sid => exact (obeys_minted _).weaken (fun _ => id) (fun _ _ => id) fun _ _ _ => trivial

theorem obeys_serveRefresh {arrival : Arrival} (refreshes : arrival.Refreshes claims) :
    (refreshOnce claims).discipline.Obeys (Unminted env claims) (serve env arrival)
      (fun _ => Minted env claims) fun _ _ => True := by
  have limit : Calls (Command.Around env claims False) (rateLimitMiddleware env arrival.http) :=
    inferInstance
  have dispatched : (refreshOnce claims).discipline.Obeys (Unminted env claims)
      (refresh env arrival.http) (fun _ => Minted env claims) fun _ _ => True :=
    obeys_refresh refreshes
  unfold serve getDb
  simp only [dispatch, refreshes.route]
  refine ((obeys_unminted limit.every).weaken (fun _ => id) (fun _ _ => And.right)
    fun _ _ _ => trivial).bind fun _ => dispatched.bind fun reply => ?_
  exact (obeys_minted _).weaken (fun _ => id) (fun _ _ => id) fun _ _ _ => trivial

/-! ## Runs -/

/-- The server as a request finds it that runs alone from now on. -/
def Shared.server (shared : Shared T) : Server T where
  committed := shared.committed
  working := shared.committed
  redis := shared.redis
  clock := shared.clock
  draws := shared.draws
  tasks := []

/-- `verify_refresh` accepts the token. -/
def Shared.Accepts (shared : Shared T) (token : Claims) : Prop :=
  ((TokenService.verifyRefresh (.signed token)).run handle shared.server).1 = .ok token

abbrev RefreshPool (ι T : Type) :=
  Pool ι (Command T) Command.Res AppError (Reply T) (Transaction T) (Shared T)

/-- The refresh tokens that are out: the one that is presented, and those of the new pairs. -/
inductive HandedOut (claims : Claims) (pool : RefreshPool ι T) : Claims → Prop
  | presented : HandedOut claims pool claims
  | received {i : ι} {csrf : String} {pair : TokenPair}
    (returned : (pool.threads i).program = .pure (.refreshed csrf pair)) :
    HandedOut claims pool pair.refresh

/-- Of the refresh tokens that are out, `verify_refresh` accepts one at most. -/
def OneAccepted (claims : Claims) (pool : RefreshPool ι T) : Prop :=
  ∀ first second, HandedOut claims pool first → HandedOut claims pool second →
    pool.shared.Accepts first → pool.shared.Accepts second → first = second

omit [IsStrictOrderedRing T] [FloorRing T] in
theorem accepts_listed {shared : Shared T} (accepts : shared.Accepts claims) :
    shared.clock < (claims.exp : T) ∧
      shared.redis.lookup shared.clock (.revokedJti claims.jti) = none := by
  obtain ⟨result, ran, check⟩ := run_verifyRefresh shared.server (.signed claims)
  unfold Shared.Accepts at accepts
  rw [ran] at accepts
  cases check with
  | accepted live unlisted =>
    have absent : ¬ (shared.redis.lookup shared.clock (.revokedJti claims.jti)).isSome := unlisted
    exact ⟨live.unexpired, by simpa using absent⟩
  | replayed | rejected => cases accepts

variable [DecidableEq ι]

variable (env) in
/-- Requests that present one refresh token, while the time goes by and others leave its entry on
the blacklist alone.  The token lives no longer than an entry of `revoke_jti`. -/
def refreshRequests (claims : Claims) (arrivals : ι → Arrival) :
    System (RefreshPool ι T) (Option ι) :=
  interleavings concurrently
    (fun before after => before.clock ≤ after.clock ∧
      after.redis (.revokedJti claims.jti) = before.redis (.revokedJti claims.jti))
    (fun i => serve env (arrivals i)) (fun _ => {}) fun shared => claims.Outlived env shared.clock

/-- In the runs in which no request asks for the token while another one has found it unlisted and
has not minted yet, and in which these steps leave a second of the token's life, at most one request
gets a new pair.  Outside the last second of its life, one refresh token is usable at most. -/
theorem refresh_rotates_once {arrivals : ι → Arrival}
    (refreshes : ∀ i, (arrivals i).Refreshes claims) {pool : RefreshPool ι T}
    (reachable : ((refreshRequests env claims arrivals).guarded
      (refreshOnce claims).OneAtATime).Reachable pool) :
    pool.AtMostOneReturned ∧
      ((claims.exp : T) ≤ pool.shared.clock ∨ pool.shared.clock + 1 ≤ (claims.exp : T) →
        OneAccepted claims pool) := by
  have obeys (i : ι) : (refreshOnce claims).discipline.Obeys
      (fun vantage => vantage.own = {} ∧ vantage.log = [] ∧ claims.Outlived env vantage.since.clock)
      (serve env (arrivals i)) (fun _ => Minted env claims) fun _ _ => True := by
    refine (obeys_serveRefresh (refreshes i)).enter fun vantage entered => ?_
    obtain ⟨-, log, outlived⟩ := entered
    exact ⟨outlived (refreshes i).isRefresh, by simp [log]⟩
  have drifts (before after : Shared T) (drifted : before.clock ≤ after.clock ∧
      after.redis (.revokedJti claims.jti) = before.redis (.revokedJti claims.jti)) :
      (refreshOnce claims).discipline.evolves before after :=
    ⟨drifted.1, fun retired => retired.congr drifted.2⟩
  have once : pool.AtMostOneReturned := OneTime.at_most_once (refreshOnce claims) reachable
    (fun i => (obeys i).weaken (fun _ => id) (fun _ _ minted => minted.marked) fun _ _ => id) drifts
  refine ⟨once, fun outside => ?_⟩
  -- what each thread knows holds of what the others have left
  have orderly : (refreshOnce claims).discipline.Orderly (fun _ _ => Minted env claims) pool := by
    have run : ((interleavings (refreshOnce claims).discipline.handle
        (fun before after => before.clock ≤ after.clock ∧
          after.redis (.revokedJti claims.jti) = before.redis (.revokedJti claims.jti))
        (fun i => serve env (arrivals i)) (fun _ => {})
        fun shared => claims.Outlived env shared.clock).guarded
        (refreshOnce claims).OneAtATime).Reachable pool := reachable
    refine (Discipline.invariant (fun _ => True) run obeys drifts ?_ (fun _ _ => trivial)
      fun _ _ _ _ _ _ _ => trivial).2
    intro pool turn op rest oneAtATime programIs checks
    exact (oneAtATime op rest programIs checks).1
  -- a token that has been replaced is not accepted
  have replaced {i : ι} {csrf : String} {pair : TokenPair}
      (returned : (pool.threads i).program = .pure (.refreshed csrf pair)) :
      ¬ pool.shared.Accepts claims := by
    intro accepts
    obtain ⟨since, evolves, minted⟩ := orderly.returned returned
    obtain ⟨unexpired, unlisted⟩ := accepts_listed accepts
    have timely := outside.resolve_left (not_le.mpr unexpired)
    exact (evolves.2 minted.retired).listed timely unlisted
  intro first second isFirst isSecond acceptsFirst acceptsSecond
  cases isFirst with
  | presented =>
    cases isSecond with
    | presented => rfl
    | received returned => exact absurd acceptsFirst (replaced returned)
  | received returned =>
    cases isSecond with
    | presented => exact absurd acceptsSecond (replaced returned)
    | received alsoReturned =>
      obtain rfl := once _ _ ⟨_, returned⟩ ⟨_, alsoReturned⟩
      rw [returned] at alsoReturned
      cases alsoReturned
      rfl

end

/-! ## Two requests -/

/-- The refresh token that a request has come back with. -/
def receivedRefresh : App T (Reply T) → Option Claims
  | .pure (.refreshed _ pair) => some pair.refresh
  | _ => none

omit [CommRing T] [LinearOrder T] in
theorem HandedOut.of_received {pool : RefreshPool ι T} {i : ι} {token : Claims}
    (received : receivedRefresh (pool.threads i).program = some token) :
    HandedOut claims pool token := by
  unfold receivedRefresh at received
  split at received
  next csrf pair returned =>
    cases received
    exact .received returned
  next => cases received

/-- Alice has registered, and presents her refresh token twice. -/
def bothRefresh : RefreshPool Bool ℚ where
  threads _ := ⟨serve demo (refreshWith aliceRefresh), {}, []⟩
  shared := (World.new.play demo [.request registerAlice]).shared

theorem aliceRefresh_refreshes : (refreshWith aliceRefresh).Refreshes aliceRefresh := ⟨rfl, rfl, rfl⟩

theorem aliceRefresh_outlived : aliceRefresh.Outlived demo bothRefresh.shared.clock :=
  fun _ => by decide +kernel

/-- Nothing runs beside the request, and its token has a second to live. -/
def aliceAlone (pool : RefreshPool Bool ℚ) (turn : Bool) : Bool :=
  (pool.threads !turn).idle && decide (pool.shared.clock + 1 ≤ (aliceRefresh.exp : ℚ))

/-- One request after the other: the second finds the token listed. -/
theorem refresh_rotates_once_in_turn :
    let pool := bothRefresh.afterTurns concurrently aliceAlone
      (List.replicate 15 false ++ List.replicate 12 true)
    pool.AtMostOneReturned ∧ OneAccepted aliceRefresh pool := by
  intro pool
  have reachable : ((refreshRequests demo aliceRefresh fun _ : Bool => refreshWith aliceRefresh).guarded
      (refreshOnce aliceRefresh).OneAtATime).Reachable pool := by
    refine Pool.reachable_afterTurns aliceRefresh_outlived (fun pool turn safe => ?_)
      (by decide +kernel)
    simp only [aliceAlone, Bool.and_eq_true, decide_eq_true_eq] at safe
    exact OneTime.oneAtATime_of_idle safe.1 safe.2
  have holds := refresh_rotates_once (fun _ => aliceRefresh_refreshes) reachable
  exact ⟨holds.1, holds.2 (.inr (by decide +kernel))⟩

/-- Both requests ask for the token before either lists it: both get a pair, and the session has two
refresh tokens that can be used. -/
theorem refresh_rotates_twice :
    (¬ ∀ pool, (refreshRequests demo aliceRefresh fun _ : Bool => refreshWith aliceRefresh).Reachable
      pool → pool.AtMostOneReturned) ∧
    ¬ ∀ pool, (refreshRequests demo aliceRefresh fun _ : Bool => refreshWith aliceRefresh).Reachable
      pool → OneAccepted aliceRefresh pool := by
  let pool := bothRefresh.afterTurns concurrently (fun _ _ => true)
    (List.replicate 4 false ++ List.replicate 4 true ++ List.replicate 11 false ++
      List.replicate 11 true)
  have reachable : (refreshRequests demo aliceRefresh
      fun _ : Bool => refreshWith aliceRefresh).Reachable pool :=
    Pool.reachable_schedule aliceRefresh_outlived (by decide +kernel)
  refine ⟨fun once => Pool.not_atMostOneReturned Bool.false_ne_true (by decide +kernel)
    (by decide +kernel) (once pool reachable), fun oneAccepted => ?_⟩
  have same := oneAccepted pool reachable { aliceRefresh with jti := 8 } { aliceRefresh with jti := 11 }
    (.of_received (i := false) (by decide +kernel)) (.of_received (i := true) (by decide +kernel))
    (show _ = _ by decide +kernel) (show _ = _ by decide +kernel)
  cases same

end EnterpriseAuth

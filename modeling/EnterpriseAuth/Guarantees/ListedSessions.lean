import EnterpriseAuth.Guarantees.CacheLoss

/-!
# Listed sessions and usable ones

`list_active` and `count_active` go by the column `is_active`, and `validate_and_touch` also by the
clock and by the revocation flag in Redis.  The two agree on a user exactly as long as none of the
user's active rows has lapsed or is flagged.
-/

namespace EnterpriseAuth

open Effects Program SessionService

variable {T : Type}

/-! ## Pages -/

/-- The pages of a list, one after the other, are the list. -/
theorem take_of_pages {Row : Type} (rows : List Row) (limit count : ℕ) :
    (List.range count).flatMap (fun page => (rows.drop (page * limit)).take limit) =
      rows.take (count * limit) := by
  induction count with
  | zero => simp
  | succ count inductionHypothesis =>
    rw [List.range_succ, List.flatMap_append, inductionHypothesis, List.flatMap_singleton,
      Nat.succ_mul, List.take_add]

section
variable [LinearOrder T]

/-- A page of `list_active`. -/
def Database.activePage (db : Database T) (userId : Uuid) (limit offset : ℕ) : List (Session T) :=
  ((db.listActiveForUser userId).drop offset).take limit

/-- What `list_active` returns on all its pages, as many as `count_active` sessions need at most. -/
def Database.activePages (db : Database T) (userId : Uuid) (limit : ℕ) : List (Session T) :=
  (List.range (db.countActiveForUser userId)).flatMap fun page =>
    db.activePage userId limit (page * limit)

theorem perm_listActiveForUser (db : Database T) (userId : Uuid) :
    (db.listActiveForUser userId).Perm
      (db.sessions.rows.filter fun row => row.userId = userId && row.isActive) := by
  simpa [Database.listActiveForUser, Database.listForUser] using List.perm_insertionSort _ _

omit [LinearOrder T] in
theorem countActiveForUser_eq (db : Database T) (userId : Uuid) :
    db.countActiveForUser userId =
      (db.sessions.rows.filter fun row => row.userId = userId && row.isActive).length :=
  List.countP_eq_length_filter

theorem activePages_eq {db : Database T} {userId : Uuid} {limit : ℕ} (positive : 0 < limit) :
    db.activePages userId limit = db.listActiveForUser userId := by
  simp only [Database.activePages, Database.activePage, take_of_pages]
  refine List.take_of_length_le ?_
  rw [(perm_listActiveForUser db userId).length_eq, ← countActiveForUser_eq]
  exact Nat.le_mul_of_pos_right _ positive

end

/-! ## Usable sessions -/

variable (env : Environment T) [CommRing T] [LinearOrder T]

/-- `validate_and_touch` succeeds at the instant. -/
def World.validates (world : World T) (instant : T) (sid userId : Uuid) : Bool :=
  ((validateAndTouch env sid userId).run handle
    { world.server with clock := instant }).1.isOk

/-- The sessions of the user that can be used at the instant. -/
def World.usableSessions (world : World T) (userId : Uuid) (instant : T) : List (Session T) :=
  world.db.sessions.rows.filter fun row =>
    row.userId = userId && world.validates env instant row.sessionUuid userId

/-- All pages together list each usable session once and no other one, and it is these that are
counted. -/
structure World.ListsUsable (world : World T) (userId : Uuid) (instant : T) : Prop where
  listed : ∀ limit, 0 < limit →
    (world.db.activePages userId limit).Perm (world.usableSessions env userId instant)
  counted : world.db.countActiveForUser userId = (world.usableSessions env userId instant).length

variable {env} {world : World T} {userId : Uuid} {instant : T}

theorem validates_iff {row : Session T} (stored : row ∈ world.db.sessions.rows)
    (owner : row.userId = userId) :
    world.validates env instant row.sessionUuid userId = true ↔
      row.isActive = true ∧ ¬ row.Lapsed env instant ∧
        ¬ (world.redis.lookup instant (.sessionRevoked row.sessionUuid)).isSome := by
  let server : Server T := { world.server with clock := instant }
  have found : server.working.sessions.find row.sessionUuid = some row := Table.find_of_mem stored
  change ((validateAndTouch env row.sessionUuid userId).run handle server).1.isOk = true ↔
    row.isActive = true ∧ ¬ row.Lapsed env instant ∧ ¬ server.Flagged row.sessionUuid
  cases ran : (validateAndTouch env row.sessionUuid userId).run handle server with
  | mk result final =>
    cases result with
    | ok validated =>
      have live := (triple_validateAndTouch_live server row.sessionUuid userId).returned rfl ran
      obtain ⟨other, same, -, active, recent⟩ := live
      obtain rfl := Option.some.inj (found.symm.trans same)
      refine iff_of_true rfl ⟨active, recent, fun flagged => ?_⟩
      obtain ⟨error, refused⟩ : ∃ error,
          ((validateAndTouch env row.sessionUuid userId).run handle server).1 = .error error :=
        run_validateAndTouch_flagged flagged
      rw [ran] at refused
      cases refused
    | error error =>
      refine iff_of_false (by simp [Except.isOk, Except.toBool]) fun usable => ?_
      obtain ⟨active, recent, unflagged⟩ := usable
      obtain ⟨validated, accepted⟩ : ∃ validated,
          ((validateAndTouch env row.sessionUuid userId).run handle server).1 = .ok validated :=
        run_validateAndTouch_ok ⟨row, found, owner, active, recent⟩ unflagged
      rw [ran] at accepted
      cases accepted

/-- The lists agree exactly while every active session of the user is within its limits and has no
revocation flag. -/
theorem listed_sessions_usable_iff (world : World T) (userId : Uuid) (instant : T) :
    world.ListsUsable env userId instant ↔
      ∀ row ∈ world.db.sessions.rows, row.userId = userId → row.isActive = true →
        ¬ row.Lapsed env instant ∧
          ¬ (world.redis.lookup instant (.sessionRevoked row.sessionUuid)).isSome := by
  -- both queries select from the active rows of the user
  have usable : world.usableSessions env userId instant =
      (world.db.sessions.rows.filter fun row => row.userId = userId && row.isActive).filter
        fun row => world.validates env instant row.sessionUuid userId := by
    rw [World.usableSessions, List.filter_filter]
    refine List.filter_congr fun row stored => ?_
    by_cases owner : row.userId = userId
    · have active (validated : world.validates env instant row.sessionUuid userId = true) :=
        (validates_iff stored owner).mp validated
      cases validated : world.validates env instant row.sessionUuid userId with
      | true => simp [owner, (active validated).1]
      | false => simp
    · simp [owner]
  constructor
  · rintro ⟨-, counted⟩ row stored owner active
    rw [countActiveForUser_eq, usable, eq_comm, List.length_filter_eq_length_iff] at counted
    have validated := counted row (List.mem_filter.mpr ⟨stored, by simp [owner, active]⟩)
    exact ((validates_iff stored owner).mp validated).2
  · intro within
    have all : world.usableSessions env userId instant =
        world.db.sessions.rows.filter fun row => row.userId = userId && row.isActive := by
      rw [usable, List.filter_eq_self]
      intro row member
      obtain ⟨stored, ofUser⟩ := List.mem_filter.mp member
      simp only [Bool.and_eq_true, decide_eq_true_eq] at ofUser
      exact (validates_iff stored ofUser.1).mpr ⟨ofUser.2, within row stored ofUser.1 ofUser.2⟩
    refine ⟨fun limit positive => ?_, ?_⟩
    · rw [activePages_eq positive, all]
      exact perm_listActiveForUser _ _
    · rw [countActiveForUser_eq, all]

/-- Where no request fails, only the limits of the sessions matter. -/
theorem listed_sessions_usable_in_service [FloorRing T] (reachable : (service env).Reachable world)
    (later : world.clock ≤ instant) :
    world.ListsUsable env userId instant ↔
      ∀ row ∈ world.db.sessions.rows, row.userId = userId → row.isActive = true →
        ¬ row.Lapsed env instant := by
  rw [listed_sessions_usable_iff]
  refine forall₄_congr fun row stored _ active => and_iff_left fun flagged => ?_
  obtain ⟨value, found⟩ := Option.isSome_iff_exists.mp flagged
  have earlier := ExpiringStore.lookup_earlier later found
  obtain ⟨other, same, inactive⟩ :=
    flagsAgree_of_reachable (guarded_of_reachable reachable) row.sessionUuid 
      (by simp [Server.Flagged, World.server, earlier])
  obtain rfl := Option.some.inj ((Table.find_of_mem stored).symm.trans same)
  rw [active] at inactive
  cases inactive

/-! ## An idle session -/

/-- Alice's session is listed after it has gone idle. -/
theorem idle_session_listed :
    ¬ ∀ (world : World ℚ) (userId : Uuid) (instant : ℚ), (service demo).Reachable world →
      world.clock ≤ instant → world.ListsUsable demo userId instant := by
  intro lists
  have listed := lists aliceRegistered 1 1801 reachable_aliceRegistered (by decide +kernel)
  exact absurd listed.counted (by decide +kernel)

end EnterpriseAuth

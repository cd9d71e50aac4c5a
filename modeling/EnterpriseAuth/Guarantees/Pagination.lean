import EnterpriseAuth.Guarantees.ListedSessions
import EnterpriseAuth.Effects.Pagination

/-!
# Pages of users and of sessions

`list_all` orders the users by `created_at`, and `list_active_for_user` the sessions by
`last_activity_at`; neither column is unique.  Each page is a query of its own, so users of one
instant may change places between two of them.
-/

namespace EnterpriseAuth

open Effects Program

variable {T : Type} [LinearOrder T]

/-! ## Queries that find the rows in another order -/

/-- The same users and sessions, stored in another order. -/
structure Database.Rearranged (db found : Database T) : Prop where
  users : found.users.rows.Perm db.users.rows
  sessions : found.sessions.rows.Perm db.sessions.rows

/-- The active sessions of the user. -/
def Database.activeRows (db : Database T) (userId : Uuid) : List (Session T) :=
  db.sessions.rows.filter fun row => row.userId = userId && row.isActive

/-- A page of `list_all`. -/
def Database.usersPage (db : Database T) (limit offset : ℕ) : List (User T) :=
  (db.listAllUsers.drop offset).take limit

/-- Turning the pages of `GET /users` shows each user once, in whatever order each query finds
users of one instant. -/
def Database.UsersOnce (db : Database T) (limit : ℕ) : Prop :=
  ∀ found : ℕ → Database T, (∀ number, db.Rearranged (found number)) →
    ∃ shown, Turns (fun number => (found number).usersPage limit (number * limit)) 0 shown ∧
      shown.Perm db.users.rows

/-- Turning the pages of `GET /sessions` shows each active session of the user once. -/
def Database.SessionsOnce (db : Database T) (userId : Uuid) (limit : ℕ) : Prop :=
  ∀ found : ℕ → Database T, (∀ number, db.Rearranged (found number)) →
    ∃ shown, Turns (fun number => (found number).activePage userId limit (number * limit)) 0 shown ∧
      shown.Perm (db.activeRows userId)

/-- The most recently active session comes first. -/
def Session.recency (session : Session T) : Tᵒᵈ := OrderDual.toDual session.lastActivityAt

/-! ## The routes answer with these pages -/

section
variable [CommRing T] {env : Environment T} {server final : Server T} {context : AuthContext T}
  {limit offset : ℕ} {reply : Page T}

theorem run_checkSchema {accepted : Bool}
    (ran : (checkSchema accepted : App T Unit).run handle server = (.ok (), final)) :
    server = final := by
  cases accepted <;> cases ran
  rfl

theorem run_requirePermission {code : String}
    (ran : (requirePermission context code).run handle server = (.ok (), final)) :
    server = final := by
  simp only [requirePermission, run_bind, run_view] at ran
  split at ran <;> cases ran
  rfl

theorem readUsers_ids {users : List (User T)} {items : List (UserRead T)}
    (ran : (readUsers env users).run handle server = (.ok items, final)) :
    items.map (·.id) = users.map (·.id) := by
  induction users generalizing items server final with
  | nil =>
    cases ran
    rfl
  | cons user users inductionHypothesis =>
    obtain ⟨first, middle, read, ran⟩ := run_bind_ok ran
    obtain ⟨rest, last, others, ran⟩ := run_bind_ok ran
    cases ran
    have same : first.id = user.id := by
      exact userRead_id env read
    simp [same, inductionHypothesis others]

/-- `GET /users` shows a page of `list_all` and the number of all users. -/
theorem listUsers_reply
    (ran : (listUsers env context limit offset).run handle server = (.ok reply, final)) :
    ∃ items, reply = .users items server.working.users.rows.length limit offset ∧
      items.map (·.id) = (server.working.usersPage limit offset).map (·.id) := by
  obtain ⟨⟨⟩, allowed, permitted, ran⟩ := run_bind_ok ran
  obtain rfl := run_requirePermission permitted
  obtain ⟨⟨⟩, valid, checked, ran⟩ := run_bind_ok ran
  obtain rfl := run_checkSchema checked
  obtain ⟨db, seen, viewed, ran⟩ := run_bind_ok ran
  simp only [run_view, Prod.mk.injEq, Except.ok.injEq] at viewed
  obtain ⟨rfl, rfl⟩ := viewed
  obtain ⟨items, last, read, ran⟩ := run_bind_ok ran
  simp only [run_pure, Prod.mk.injEq, Except.ok.injEq] at ran
  exact ⟨items, ran.1.symm, readUsers_ids read⟩

/-- `GET /sessions` shows a page of `list_active_for_user` and the number of the active sessions. -/
theorem listSessions_reply
    (ran : (listSessions context limit offset).run handle server = (.ok reply, final)) :
    ∃ items, reply = .sessions items (server.working.countActiveForUser context.user.id) limit offset ∧
      items.map (·.session) = server.working.activePage context.user.id limit offset := by
  obtain ⟨current, seen, present, ran⟩ := run_bind_ok ran
  obtain ⟨⟨⟩, valid, checked, ran⟩ := run_bind_ok ran
  have unchanged : server = seen := by
    simp only [getCurrentSession] at present
    split at present <;> cases present
    rfl
  obtain rfl := unchanged
  obtain rfl := run_checkSchema checked
  simp only [run_bind, run_view, run_pure, Prod.mk.injEq, Except.ok.injEq] at ran
  refine ⟨_, ran.1.symm, ?_⟩
  simp [Function.comp_def, toRead, Database.activePage]

end

/-! ## Every arrangement can be found -/

theorem arranges_listAllUsers {db found : Database T} (rearranged : db.Rearranged found) :
    Arranges User.createdAt db.users.rows found.listAllUsers := by
  have arranges := arranges_insertionSort User.createdAt found.users.rows
  exact ⟨arranges.perm.trans rearranged.users, arranges.ascends⟩

theorem arranges_listActiveForUser {db found : Database T} (userId : Uuid)
    (rearranged : db.Rearranged found) :
    Arranges Session.recency (db.activeRows userId) (found.listActiveForUser userId) := by
  have arranges := arranges_insertionSort Session.recency (found.activeRows userId)
  have same : found.listActiveForUser userId = (found.activeRows userId).insertionSort
      fun first second => first.recency ≤ second.recency := by
    simp [Database.listActiveForUser, Database.listForUser, Database.activeRows, Session.recency]
  rw [same]
  exact ⟨arranges.perm.trans (rearranged.sessions.filter _), arranges.ascends⟩

theorem usersOnce_iff {db : Database T} {limit : ℕ} :
    db.UsersOnce limit ↔ PagesOnce User.createdAt db.users.rows limit := by
  constructor
  · intro once answers arranges
    have distinct (number : ℕ) : ((answers number).map User.id).Nodup :=
      ((arranges number).perm.map User.id).nodup_iff.mpr db.users.distinct
    have returned (number : ℕ) : (answers number).insertionSort
        (fun first second => first.createdAt ≤ second.createdAt) = answers number :=
      (arranges number).ascends.insertionSort_eq
    obtain ⟨shown, turns, perm⟩ := once
      (fun number => { db with users := ⟨answers number, distinct number⟩ })
      fun number => ⟨(arranges number).perm, .refl _⟩
    simp only [Database.usersPage, Database.listAllUsers, returned] at turns
    exact ⟨shown, turns, perm⟩
  · intro once found rearranged
    exact once (fun number => (found number).listAllUsers) fun number =>
      arranges_listAllUsers (rearranged number)

theorem sessionsOnce_iff {db : Database T} {userId : Uuid} {limit : ℕ} :
    db.SessionsOnce userId limit ↔ PagesOnce Session.recency (db.activeRows userId) limit := by
  constructor
  · intro once answers arranges
    -- the rows that the query leaves out stay behind those that it returns
    let rows (number : ℕ) := answers number ++
      db.sessions.rows.filter fun row => !(row.userId = userId && row.isActive)
    have perm (number : ℕ) : (rows number).Perm db.sessions.rows :=
      ((arranges number).perm.append_right _).trans (List.filter_append_perm _ _)
    have distinct (number : ℕ) : ((rows number).map Session.sessionUuid).Nodup :=
      ((perm number).map Session.sessionUuid).nodup_iff.mpr db.sessions.distinct
    have returned (number : ℕ) : ({ db with sessions := ⟨rows number, distinct number⟩ } :
        Database T).listActiveForUser userId = answers number := by
      have selected : (rows number).filter (fun row => row.userId = userId && row.isActive) =
          answers number := by
        rw [List.filter_append, List.filter_filter, List.filter_eq_self.mpr]
        · simp
        · intro row member
          exact (List.mem_filter.mp ((arranges number).perm.mem_iff.mp member)).2
      have returned : (answers number).insertionSort
          (fun first second => second.lastActivityAt ≤ first.lastActivityAt) = answers number :=
        (arranges number).ascends.insertionSort_eq
      simp only [Database.listActiveForUser, Database.listForUser, Bool.not_true, Bool.false_or,
        selected, returned]
    obtain ⟨shown, turns, shownPerm⟩ := once
      (fun number => { db with sessions := ⟨rows number, distinct number⟩ })
      fun number => ⟨.refl _, perm number⟩
    simp only [Database.activePage, returned] at turns
    exact ⟨shown, turns, shownPerm⟩
  · intro once found rearranged
    exact once (fun number => (found number).listActiveForUser userId) fun number =>
      arranges_listActiveForUser userId (rearranged number)

/-! ## When each row is shown once -/

/-- Each user and each active session is shown once if and only if no page begins between two users
with one `created_at`, or between two sessions with one `last_activity_at`. -/
theorem pages_once_iff (db : Database T) (userId : Uuid) {limit : ℕ} (positive : 1 ≤ limit) :
    (db.UsersOnce limit ↔
      ∀ number, ¬ SplitsTie User.createdAt db.users.rows (number * limit)) ∧
    (db.SessionsOnce userId limit ↔
      ∀ number, ¬ SplitsTie Session.recency (db.activeRows userId) (number * limit)) := by
  rw [usersOnce_iff, sessionsOnce_iff]
  constructor
  · exact pagesOnce_iff db.users.distinct.of_map positive
  · exact pagesOnce_iff (db.sessions.distinct.of_map.filter _) positive

/-! ## Two users of one instant -/

/-- Bob registers a minute after Alice, who logs in once more another minute later. -/
def bobRegistersLater : World ℚ :=
  aliceRegistered.play demo
    [.tick 60, .request registerBob, .tick 120,
      .request { http := {}, route := .login (.login
        { email := "alice@example.org", password := "Str0ng!pass" }) }]

/-- One on a page, both users are shown once, and so are Alice's two sessions. -/
theorem pages_once_of_both :
    bobRegistersLater.db.UsersOnce 1 ∧ bobRegistersLater.db.SessionsOnce 1 1 := by
  have positive : 1 ≤ 1 := le_refl 1
  constructor
  · refine (pages_once_iff bobRegistersLater.db 1 positive).1.mpr fun number => ?_
    exact not_splitsTie_of_nodup (by decide +kernel) _
  · refine (pages_once_iff bobRegistersLater.db 1 positive).2.mpr fun number => ?_
    exact not_splitsTie_of_nodup (by decide +kernel) _

/-- With one user on a page, both pages may show Alice. -/
theorem user_shown_twice :
    ¬ ∀ world : World ℚ, (service demo).Reachable world →
      ∀ limit, 1 ≤ limit → limit ≤ 200 → world.db.UsersOnce limit := by
  intro once
  have shown := once bothRegistered reachable_bothRegistered 1 (by decide) (by decide)
  rw [usersOnce_iff, pagesOnce_iff bothRegistered.db.users.distinct.of_map (by decide)] at shown
  have split : SplitsTie User.createdAt bothRegistered.db.users.rows (1 * 1) := by
    unfold SplitsTie
    decide +kernel
  exact shown 1 split

end EnterpriseAuth

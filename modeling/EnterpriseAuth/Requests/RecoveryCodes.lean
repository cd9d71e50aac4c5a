import EnterpriseAuth.Requests.Services
import EnterpriseAuth.Requests.TwoFactor
import Mathlib.Data.List.Forall2

/-!
# Recovery codes in the database

The rows of a user that are unused stand for the codes that were returned when they were generated.
What generating, consuming and disabling make of these rows, for the user and for all others.
-/

namespace EnterpriseAuth

open Effects Program TwoFactorService

variable {T : Type} (env : Environment T)

/-! ## Rows and codes -/

/-- The row stores a hash of the code. -/
def BackupCode.StandsFor (row : BackupCode T) (code : String) : Prop :=
  ∃ salt, row.hashedCode = env.hashPassword salt code

/-- The unused rows of the user are for these codes, one each. -/
def Database.UnusedAre (db : Database T) (userId : Uuid) (codes : List String) : Prop :=
  List.Forall₂ (BackupCode.StandsFor env) (db.listUnused userId) codes

variable {env} {before after : Database T}

theorem Database.UnusedAre.count {db : Database T} {userId : Uuid} {codes : List String}
    (agree : db.UnusedAre env userId codes) : db.countUnused userId = codes.length :=
  List.Forall₂.length_eq agree

theorem listUnused_insert {code : BackupCode T}
    (inserted : Database.insertBackupCode code before = .ok after) (unused : code.usedAt = none)
    (userId : Uuid) : after.listUnused userId =
      before.listUnused userId ++ if code.userId = userId then [code] else [] := by
  obtain ⟨-, -, table, added, rfl⟩ := Database.insertBackupCode_ok inserted
  simp only [Database.listUnused, (Table.insert_eq_some added).2, List.filter_append]
  by_cases owner : code.userId = userId <;> simp [owner, unused]

theorem listUnused_delete {userId : Uuid} (deleted : Database.deleteBackupCodes userId before = .ok after)
    (other : Uuid) :
    after.listUnused other = if other = userId then [] else before.listUnused other := by
  cases deleted
  simp only [Database.listUnused, Table.removeWhere, List.filter_filter]
  split
  next same =>
    refine List.filter_eq_nil_iff.mpr fun row _ => ?_
    by_cases owner : row.userId = userId <;> simp [owner, same]
  next different =>
    refine List.filter_congr fun row _ => ?_
    by_cases owner : row.userId = other <;> simp [owner, different]

theorem listUnused_codeUsed (db : Database T) (id : Uuid) (now : T) (userId : Uuid) :
    (db.codeUsed id now).listUnused userId = (db.listUnused userId).filter (·.id ≠ id) := by
  simp only [Database.listUnused, Database.codeUsed, Table.modify]
  induction db.backupCodes.rows with
  | nil => rfl
  | cons row rows inductionHypothesis =>
    rw [List.map_cons, List.filter_cons, List.filter_cons, inductionHypothesis]
    by_cases used : row.id = id
    · by_cases unused : (decide (row.userId = userId) && row.usedAt.isNone) = true
      · rw [if_pos unused, if_pos used, List.filter_cons]
        simp [used]
      · rw [if_neg unused, if_pos used]
        simp
    · by_cases unused : (decide (row.userId = userId) && row.usedAt.isNone) = true <;>
        simp [used, unused]

/-! ## The row of a code -/

/-- Passwords are verified against their own hashes only. -/
def Environment.HashesFaithfully (env : Environment T) : Prop :=
  ∀ salt password other, env.verifyPassword password (env.hashPassword salt other) = true ↔
    password = other

/-- A text is accepted if and only if it is one of the codes. -/
theorem find_isSome_iff (faithful : env.HashesFaithfully) {rows : List (BackupCode T)}
    {codes : List String} (agree : List.Forall₂ (BackupCode.StandsFor env) rows codes) (text : String) :
    (rows.find? fun row => env.verifyPassword text row.hashedCode).isSome ↔ text ∈ codes := by
  induction agree with
  | nil => simp
  | cons standsFor _ inductionHypothesis =>
    obtain ⟨salt, hashed⟩ := standsFor
    rw [List.find?_cons, List.mem_cons, hashed]
    cases verified : env.verifyPassword text (env.hashPassword salt _) with
    | true => simp [(faithful _ _ _).mp verified]
    | false =>
      have different : ¬ text = _ := fun same => by
        rw [(faithful salt _ _).mpr same] at verified
        cases verified
      simpa [different] using inductionHypothesis

/-- The row that a text is accepted for stores a hash of the text. -/
theorem standsFor_of_find (faithful : env.HashesFaithfully) {rows : List (BackupCode T)}
    {codes : List String} (agree : List.Forall₂ (BackupCode.StandsFor env) rows codes) {text : String}
    {used : BackupCode T}
    (found : (rows.find? fun row => env.verifyPassword text row.hashedCode) = some used) :
    used.StandsFor env text := by
  induction agree with
  | nil => cases found
  | cons standsFor _ inductionHypothesis =>
    obtain ⟨salt, hashed⟩ := standsFor
    rw [List.find?_cons] at found
    split at found
    next verified =>
      obtain rfl := Option.some.inj found
      rw [hashed, faithful] at verified
      exact ⟨salt, verified ▸ hashed⟩
    next => exact inductionHypothesis found

/-- Where the codes are distinct, the row that is used up takes its code with it. -/
theorem forall₂_used (faithful : env.HashesFaithfully) {rows : List (BackupCode T)}
    {codes : List String} (agree : List.Forall₂ (BackupCode.StandsFor env) rows codes)
    (distinctRows : (rows.map (·.id)).Nodup) (distinctCodes : codes.Nodup) {text : String}
    {used : BackupCode T}
    (found : (rows.find? fun row => env.verifyPassword text row.hashedCode) = some used) :
    List.Forall₂ (BackupCode.StandsFor env) (rows.filter (·.id ≠ used.id)) (codes.filter (· ≠ text)) := by
  induction agree with
  | nil => cases found
  | @cons row code rows codes standsFor rest inductionHypothesis =>
    rw [List.map_cons, List.nodup_cons] at distinctRows
    rw [List.nodup_cons] at distinctCodes
    obtain ⟨salt, hashed⟩ := id standsFor
    rw [List.find?_cons, hashed] at found
    cases verified : env.verifyPassword text (env.hashPassword salt code) with
    -- the first row that verifies stands for the code itself, since hashes are faithful
    | true =>
      rw [verified] at found
      obtain rfl : row = used := Option.some.inj found
      obtain rfl : text = code := (faithful _ _ _).mp verified
      have others : rows.filter (·.id ≠ row.id) = rows := by
        refine List.filter_eq_self.mpr fun other member => decide_eq_true fun same => ?_
        exact distinctRows.1 (same ▸ List.mem_map_of_mem member)
      have otherCodes : codes.filter (· ≠ text) = codes := by
        refine List.filter_eq_self.mpr fun other member => decide_eq_true fun same => ?_
        exact distinctCodes.1 (same ▸ member)
      rw [List.filter_cons_of_neg (by simp), List.filter_cons_of_neg (by simp), others, otherCodes]
      exact rest
    | false =>
      rw [verified] at found
      have member : used ∈ rows := List.mem_of_find?_eq_some found
      have different : row.id ≠ used.id := fun same =>
        distinctRows.1 (same ▸ List.mem_map_of_mem member)
      have otherCode : code ≠ text := by
        rintro rfl
        rw [(faithful salt _ _).mpr rfl] at verified
        cases verified
      rw [List.filter_cons_of_pos (by simpa using different),
        List.filter_cons_of_pos (by simpa using otherCode)]
      exact .cons standsFor (inductionHypothesis distinctRows.2 distinctCodes.2 found)

theorem nodup_listUnused (db : Database T) (userId : Uuid) :
    ((db.listUnused userId).map (·.id)).Nodup :=
  db.backupCodes.distinct.sublist (List.filter_sublist.map _)

/-! ## Generation -/

section
variable [CommRing T] [LinearOrder T] (env)

/-- The letters of a generated code. -/
def InCodeFormat (characters : List Char) : Prop :=
  ∀ character ∈ characters, character ∈ '-' :: codeAlphabet

theorem run_drawLetters (count : ℕ) (server : Server T) :
    ∃ letters draws, (drawLetters env count).run handle server = (.ok letters, { server with draws }) ∧
      InCodeFormat letters := by
  induction count generalizing server with
  | zero => exact ⟨[], server.draws, rfl, fun _ member => by cases member⟩
  | succ count inductionHypothesis =>
    obtain ⟨rest, draws, ran, format⟩ := inductionHypothesis { server with draws := server.draws + 1 }
    simp only [drawLetters, run_bind, run_uuid4, ran, run_pure]
    refine ⟨_, draws, rfl, List.forall_mem_cons.mpr ⟨?_, format⟩⟩
    have inside : (env.secretsChoice server.draws : ℕ) < codeAlphabet.length :=
      (env.secretsChoice server.draws).isLt
    rw [List.getD_eq_getElem?_getD, List.getElem?_eq_getElem inside, Option.getD_some]
    exact .tail _ (List.getElem_mem inside)

/-- The codes are drawn and nothing else happens. -/
theorem run_generateCodes (count : ℕ) (server : Server T) :
    ∃ codes draws, (generateCodes env count).run handle server = (.ok codes, { server with draws }) ∧
      codes.length = count ∧ ∀ code ∈ codes, InCodeFormat code.toList := by
  induction count generalizing server with
  | zero => exact ⟨[], server.draws, rfl, rfl, fun _ member => by cases member⟩
  | succ count inductionHypothesis =>
    obtain ⟨letters, draws, drawn, format⟩ := run_drawLetters env 12 server
    obtain ⟨rest, later, ran, length, formats⟩ := inductionHypothesis { server with draws }
    simp only [generateCodes, generateCode, run_bind, drawn, ran, run_pure]
    refine ⟨_, later, rfl, by rw [List.length_cons, length], List.forall_mem_cons.mpr ⟨?_, formats⟩⟩
    intro character member
    simp only [String.toList_ofList, List.mem_append, List.mem_cons] at member
    rcases member with (first | rfl | second) | rfl | third
    · exact format _ (List.mem_of_mem_take first)
    · exact List.mem_cons_self
    · exact format _ (List.mem_of_mem_drop (List.mem_of_mem_take second))
    · exact List.mem_cons_self
    · exact format _ (List.mem_of_mem_drop (List.mem_of_mem_take third))

/-- The unused rows of all users are these. -/
def Server.Unused (unused : Uuid → List (BackupCode T)) (server : Server T) : Prop :=
  ∀ userId, server.working.listUnused userId = unused userId

/-- What generation without replacement answers while unused codes remain. -/
def codesExist : AppError := .conflict "Recovery codes already exist. Use regenerate to replace them."

variable {env} (user : User T) {unused : Uuid → List (BackupCode T)}

theorem triple_insertBackupCode {row : BackupCode T} (fresh : row.usedAt = none) :
    Triple handle (Server.Unused unused) (write (Database.insertBackupCode row))
      (fun _ => Server.Unused fun userId => unused userId ++ if row.userId = userId then [row] else [])
      fun error _ => error ≠ codesExist where
  outcome server same := by
    rw [run_write]
    cases inserted : Database.insertBackupCode row server.working with
    | error error =>
      rintro rfl
      unfold Database.insertBackupCode at inserted
      grind [codesExist, AppError.conflict, AppError.dataError, AppError.integrity]
    | ok working =>
      intro userId
      rw [listUnused_insert inserted fresh, same]

omit env in
theorem triple_deleteBackupCodes {raised : AppError → Server T → Prop} (userId : Uuid) :
    Triple handle (Server.Unused unused) (write (Database.deleteBackupCodes userId))
      (fun _ => Server.Unused fun other => if other = userId then [] else unused other) raised where
  outcome server same := by
    rw [run_write]
    intro other
    rw [listUnused_delete rfl, same]

theorem triple_storeCodes (codes : List String) :
    Triple handle (Server.Unused unused) (storeCodes env user codes)
      (fun _ server => ∃ rows, List.Forall₂ (BackupCode.StandsFor env) rows codes ∧
        server.Unused fun userId => unused userId ++ if user.id = userId then rows else [])
      fun error _ => error ≠ codesExist := by
  induction codes generalizing unused with
  | nil => exact .pure fun server same => ⟨[], .nil, fun userId => by simp [same userId]⟩
  | cons code codes inductionHypothesis =>
    have draws : Triple handle (Server.Unused unused) (uuid4 : App T Uuid)
        (fun _ => Server.Unused unused) fun error _ => error ≠ codesExist :=
      .returns (fun server _ => run_uuid4 server) fun _ same => same
    refine draws.bind fun salt => draws.bind fun codeId => ?_
    refine (triple_insertBackupCode rfl).bind fun _ => ?_
    refine inductionHypothesis.weaken (fun _ => id) ?_ fun _ _ => id
    rintro _ server ⟨rows, agree, same⟩
    let row : BackupCode T :=
      { id := codeId, userId := user.id, hashedCode := env.hashPassword salt code }
    refine ⟨row :: rows, .cons ⟨salt, rfl⟩ agree, fun userId => ?_⟩
    rw [same userId]
    by_cases owner : user.id = userId <;> simp [owner, row]

/-- What a generation makes of the unused rows. -/
structure GeneratedCodes (env : Environment T) (userId : Uuid) (unused : Uuid → List (BackupCode T))
    (codes : List String) (db : Database T) : Prop where
  length : codes.length = env.settings.backupCodeCount
  format : ∀ code ∈ codes, InCodeFormat code.toList
  agree : db.UnusedAre env userId codes
  others : ∀ other, other ≠ userId → db.listUnused other = unused other

/-- New codes for a user who has no unused ones. -/
theorem triple_newCodes (none : unused user.id = []) :
    Triple handle (Server.Unused unused)
      (do
        let plaintext ← generateCodes env env.settings.backupCodeCount
        storeCodes env user plaintext
        return plaintext)
      (fun codes server => GeneratedCodes env user.id unused codes server.working)
      fun error _ => error ≠ codesExist := by
  have drawn : Triple handle (Server.Unused unused) (generateCodes env env.settings.backupCodeCount)
      (fun codes server => (codes.length = env.settings.backupCodeCount ∧
        ∀ code ∈ codes, InCodeFormat code.toList) ∧ server.Unused unused)
      fun error _ => error ≠ codesExist := by
    refine ⟨fun server same => ?_⟩
    obtain ⟨codes, draws, ran, length, format⟩ :=
      run_generateCodes env env.settings.backupCodeCount server
    rw [ran]
    exact ⟨⟨length, format⟩, same⟩
  refine drawn.bind fun codes => .of_fact fun ⟨length, format⟩ => ?_
  refine (triple_storeCodes user codes).bind fun _ => .pure ?_
  rintro server ⟨rows, agree, now⟩
  refine ⟨length, format, ?_, fun other different => ?_⟩
  · have own := now user.id
    simp only [none, if_pos, List.nil_append] at own
    rwa [Database.UnusedAre, own]
  · have same := now other
    simpa only [if_neg different.symm, List.append_nil] using same

theorem triple_generateRecoveryCodes (replace : Bool) :
    Triple handle (Server.Unused unused) (generateRecoveryCodes env user replace)
      (fun codes server => (replace = false → unused user.id = []) ∧
        GeneratedCodes env user.id unused codes server.working)
      fun error _ => error = codesExist ↔ replace = false ∧ unused user.id ≠ [] := by
  have count (db : Database T) : db.countUnused user.id = 0 ↔ db.listUnused user.id = [] :=
    List.length_eq_zero_iff
  simp only [generateRecoveryCodes, throw_bind]
  refine (Triple.read run_view).bind fun db => .ite (fun refused => .throw ?_) fun accepted => ?_
  · rintro server ⟨same, rfl⟩
    rw [Ne, count, same user.id] at refused
    exact iff_of_true rfl ⟨by simpa using refused.2, refused.1⟩
  cases replace with
  | true =>
    refine ((triple_deleteBackupCodes user.id).bind fun _ =>
      triple_newCodes user (if_pos rfl)).weaken (fun _ => And.left) ?_ ?_
    · rintro codes server generated
      refine ⟨by simp, generated.length, generated.format, generated.agree, fun other different => ?_⟩
      rw [generated.others other different, if_neg different]
    · exact fun error server different => iff_of_false different (by simp)
  | false =>
    constructor
    rintro server ⟨same, rfl⟩
    have none : unused user.id = [] := by
      rw [← same user.id, ← count]
      by_contra some
      exact accepted ⟨some, rfl⟩
    refine ((triple_newCodes user none).weaken (fun _ => id)
      (fun _ _ generated => ⟨fun _ => none, generated⟩) ?_).outcome server same
    exact fun error server different => iff_of_false different (by simp [none])

/-! ## Disabling -/

theorem triple_disable (password otp : String) :
    Triple handle (Server.Unused unused) (disable env user password otp)
      (fun _ => Server.Unused fun userId => if userId = user.id then [] else unused userId)
      fun _ _ => True := by
  have aside {α : Type} (program : App T α) [Within .reads program] :
      Triple handle (Server.Unused unused) program (fun _ => Server.Unused unused) fun _ _ => True := by
    have keeps : Keeps handle (Server.Unused unused) program := by
      refine .of_final fun server same userId => ?_
      rw [(Within.aside .reads program server).working]
      exact same userId
    exact keeps.weaken (fun _ => id) (fun _ _ => id) fun _ _ _ => trivial
  have removed : Triple handle (Server.Unused unused) (write (Database.deleteTwoFactorAuth user.id))
      (fun _ => Server.Unused unused) fun _ _ => True := by
    refine ⟨fun server same => ?_⟩
    rw [run_write]
    exact same
  unfold TwoFactorService.disable
  refine (aside _).bind fun _ => (aside _).bind fun _ => (aside _).bind fun db => ?_
  exact .ite (fun _ => removed.bind fun _ => triple_deleteBackupCodes user.id)
    fun _ => triple_deleteBackupCodes user.id

end

end EnterpriseAuth

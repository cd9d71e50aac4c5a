import EnterpriseAuth.Requests.Addresses
import EnterpriseAuth.Guarantees.Scenario

/-!
# One user per address

However requests take turns, every stored address is lowered and belongs to one user up to case.  So
no lookup by address finds two users, and the check for an address that is in use says what the
unique constraint would say.
-/

namespace EnterpriseAuth

open Effects Program

variable {T ι : Type} {env : Environment T}

/-! ## Lookups -/

variable (env) in
/-- What the lookups by address and the constraint on addresses make of the users. -/
structure OneUserPerAddress (db : Database T) : Prop where
  lowered : ∀ user ∈ db.users.rows, user.email = env.lower user.email
  unique : ∀ user ∈ db.users.rows, ∀ other ∈ db.users.rows,
    env.lower user.email = env.lower other.email → user = other
  /-- `MultipleResultsFound` is not raised -/
  lookup : ∀ email, ∃ found, db.getByEmail env email = .ok found
  /-- for a user who does not have the address yet, the check agrees with the constraint -/
  agrees : ∀ (user : User T) (email : String), user.email = env.lower email →
    (∀ row ∈ db.users.rows, row.id = user.id → row.email ≠ user.email) →
    db.emailExists env email = db.emailTaken user

variable {db : Database T}

theorem usersByEmail_eq [env.LowersOnce] (normalised : db.Normalised env) (email : String) :
    db.usersByEmail env email = db.users.rows.filter fun user => user.email == env.lower email := by
  apply List.filter_congr
  intro user member
  rw [← normalised.lowered user member, Environment.LowersOnce.sql]

theorem eq_of_id {user other : User T} (member : user ∈ db.users.rows)
    (otherMember : other ∈ db.users.rows) (same : user.id = other.id) : user = other := by
  have found := Table.find_of_mem member
  rw [same, Table.find_of_mem otherMember] at found
  exact (Option.some.inj found).symm

theorem oneUserPerAddress [env.LowersOnce] (normalised : db.Normalised env) :
    OneUserPerAddress env db := by
  constructor
  · intro user member
    exact (normalised.lowered user member).symm
  · intro user member other otherMember same
    rw [normalised.lowered user member, normalised.lowered other otherMember] at same
    exact eq_of_id member otherMember (normalised.unique user member other otherMember same)
  · intro email
    have selected := usersByEmail_eq normalised email
    have distinct : ((db.usersByEmail env email).map User.id).Nodup :=
      db.users.distinct.sublist (List.filter_sublist.map _)
    unfold Database.getByEmail
    cases rows : db.usersByEmail env email with
    | nil => exact ⟨none, rfl⟩
    | cons user others =>
      cases others with
      | nil => exact ⟨some user, rfl⟩
      | cons other others =>
        -- two rows would have one address, and so one key
        have chosen (row : User T) (member : row ∈ user :: other :: others) :
            row ∈ db.users.rows ∧ row.email = env.lower email := by
          rw [← rows, selected, List.mem_filter] at member
          simpa using member
        obtain ⟨member, email⟩ := chosen user (by simp)
        obtain ⟨otherMember, otherEmail⟩ := chosen other (by simp)
        have same := normalised.unique user member other otherMember (email.trans otherEmail.symm)
        simp [rows, same] at distinct
  · intro user email isEmail others
    rw [Database.emailExists, usersByEmail_eq normalised, ← isEmail, Bool.eq_iff_iff]
    simp only [Database.emailTaken, decide_eq_true_eq, gt_iff_lt, List.length_pos_iff_exists_mem,
      List.mem_filter, List.any_eq_true, Bool.and_eq_true, beq_iff_eq]
    constructor
    · rintro ⟨row, member, same⟩
      exact ⟨row, member, fun key => others row member key same, same⟩
    · rintro ⟨row, member, -, same⟩
      exact ⟨row, member, same⟩

/-! ## Runs -/

section
variable [CommRing T] [LinearOrder T] [FloorRing T] [DecidableEq ι]

variable (env) in
/-- Requests in all interleavings, while others leave addresses and email tokens alone. -/
def addressRequests (arrivals : ι → Arrival) : System (RequestPool ι T) (Option ι) :=
  requests env (fun before after => before.committed.KeepsMail after.committed)
    (fun shared => shared.committed.Normalised env) arrivals

/-- What is committed has one user per address, and so has what any running request sees. -/
theorem one_user_per_address [env.LowersOnce] {arrivals : ι → Arrival} {pool : RequestPool ι T}
    (reachable : (addressRequests env arrivals).Reachable pool) :
    OneUserPerAddress env pool.shared.committed ∧
      ∀ i db, (pool.threads i).Running →
        (pool.threads i).own.2.sees pool.shared.committed = .ok db → OneUserPerAddress env db := by
  have obeys (i : ι) : (addressDiscipline env).Obeys
      (fun vantage => vantage.own = (arrivals i, {}) ∧ vantage.log = [] ∧
        vantage.since.committed.Normalised env)
      (serve env (arrivals i)) (fun _ => Tidy env) fun _ _ => True := by
    apply (tidy_serve (arrivals i)).weaken
    · rintro vantage ⟨own, -, started⟩
      refine ⟨?_, started⟩
      rw [own]
      simp [Transaction.Inside]
    · exact fun _ _ => id
    · exact fun _ _ _ => trivial
  obtain ⟨normalised, orderly⟩ := (addressDiscipline env).invariant
    (fun pool : RequestPool ι T => pool.shared.committed.Normalised env) reachable.unconditional obeys
    (fun before after => normalised_of_keepsMail) (fun _ _ _ _ _ _ => trivial) (fun _ => id)
    fun pool turn next _ _ normalised moves => moves.evolves normalised
  refine ⟨oneUserPerAddress normalised, ?_⟩
  rintro i db ⟨command, next, programIs⟩ shows
  obtain ⟨since, evolves, amid⟩ := orderly i
  rw [programIs] at amid
  have inside := (amid pool.shared evolves trivial).1.1.1
  exact oneUserPerAddress (inside.sees shows normalised)

end

/-! ## Two spellings of one address -/

theorem toLower_lowered (character : Char) : character.toLower.toLower = character.toLower := by
  have lowered : 97 ≤ character.toLower.val.toNat ∨ character.toLower = character := by
    unfold Char.toLower
    split
    next upper =>
      have least : 65 ≤ character.toNat := UInt32.le_iff_toNat_le.mp upper.1
      have most : character.toNat ≤ 90 := UInt32.le_iff_toNat_le.mp upper.2
      left
      simp
      omega
    next => exact .inr rfl
  rcases lowered with behind | same
  · exact toLower_of_outside (.inr (by omega))
  · rw [same, same]

instance : demo.LowersOnce := by
  have again (text : String) : demo.lower (demo.lower text) = demo.lower text := by
    simp [demo, Function.comp_def, toLower_lowered]
  exact ⟨again, again⟩

def registerAs (email : String) : Arrival where
  http := {}
  route := .login (.register { email, password := "Str0ng!pass" })

def twoSpellings : Bool → Arrival
  | false => registerAs "Alice@example.org"
  | true => registerAs "alice@EXAMPLE.org"

def spellingsPool : RequestPool Bool ℚ :=
  ⟨fun i => ⟨serve demo (twoSpellings i), (twoSpellings i, {}), []⟩, World.new.shared⟩

/-- Both find the address free and insert a user, and the second commit breaks the constraint. -/
theorem race_for_address :
    OneUserPerAddress demo (spellingsPool.afterTurns (Handler.labelled concurrently) (fun _ _ => true)
      (List.replicate 28 false ++ List.replicate 26 true ++ [false, true])).shared.committed := by
  have reachable : (addressRequests demo twoSpellings).Reachable
      (spellingsPool.afterTurns (Handler.labelled concurrently) (fun _ _ => true)
        (List.replicate 28 false ++ List.replicate 26 true ++ [false, true])) := by
    unfold addressRequests requests spellingsPool
    apply Pool.reachable_schedule
    · constructor <;> (intro row member; cases member)
    · decide +kernel
  exact (one_user_per_address reachable).1

end EnterpriseAuth

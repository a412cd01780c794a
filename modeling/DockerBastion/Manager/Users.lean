import DockerBastion.Foundation.Join
import DockerBastion.Foundation.Text
import DockerBastion.Manager.Response
import DockerBastion.Store
import Mathlib.Tactic.MkIffOfInductiveProp

/-!
# Listing the users

`Users` answers with a left join of the users with their grants.  For a user without
grants it counts on `rows.Scan` to fail at the first NULL and to leave the remaining
fields at zero.  It looks neither at the errors of `Scan` nor at the error that may
have ended the iteration.  The driver reads a text up to its first zero byte, and JSON
has no way to write a byte that belongs to no character.
-/

namespace DockerBastion.Manager

open Foundation

/-- The fields of `UserPriv` that `Users` scans; `none` is the zero time. -/
structure UserPriv where
  userId : Nat := 0
  name : Bytes := []
  createdAt : Option Nat := none
  privId : Nat := 0
  cid : Bytes := []
  joinedAt : Option Nat := none
  deriving DecidableEq, Repr

abbrev JoinRow := Row User × Option (Row Container)

def hasGrant (user : Row User) (grant : Row Container) : Bool :=
  grant.val.userId = .integer user.id

/-- The rows of the query, in the order of users.id and containers.id. -/
def joinRows (db : Store) : List JoinRow :=
  leftJoin db.users.rows db.containers.rows hasGrant

/-- `C.GoString`, which is how `SQLiteRows.Next` reads a column of text. -/
def goString (text : Bytes) : Bytes := text.takeWhile (· ≠ 0)

/-- What scanning each column assigns, `none` where the column is NULL. -/
def columns (row : JoinRow) : List (Option (UserPriv → UserPriv)) :=
  [some fun user => { user with userId := row.1.id },
   some fun user => { user with name := goString row.1.val.name },
   some fun user => { user with createdAt := some row.1.val.createdAt },
   row.2.map fun grant user => { user with privId := grant.id },
   row.2.map fun grant user => { user with cid := goString grant.val.cid },
   row.2.map fun grant user => { user with joinedAt := some grant.val.createdAt }]

def assign : List (Option (UserPriv → UserPriv)) → UserPriv → UserPriv
  | some set :: columns, user => assign columns (set user)
  | _, user => user

/-- What `rows.Scan` leaves in `user`; `fault` is the column at which it fails. -/
def scan (row : JoinRow) (fault : Option Nat) : UserPriv :=
  match fault with
  | none => assign (columns row) {}
  | some column => assign ((columns row).take column) {}

/-- The loop, `i` rows having been read; `rows.Next` fails after `stop` rows. -/
def readRows (stop : Option Nat) (scanFaults : Nat → Option Nat) :
    Nat → List JoinRow → List UserPriv
  | _, [] => []
  | i, row :: rows =>
      if stop = some i then []
      else scan row (scanFaults i) :: readRows stop scanFaults (i + 1) rows

/-- The entry as it is read from the answer; `rnd.JSON` writes U+FFFD where it must. -/
def UserPriv.json (entry : UserPriv) : UserPriv :=
  { entry with name := replaceInvalid entry.name, cid := replaceInvalid entry.cid }

/-- The list that is answered with status 200, or an error. -/
def users (queryFault : Option GoError) (stop : Option Nat) (scanFaults : Nat → Option Nat)
    (db : Store) : Except Response (List UserPriv) :=
  match queryFault with
  | some err => .error (showError err {})
  | none => .ok ((readRows stop scanFaults 0 (joinRows db)).map UserPriv.json)

/-! ## The listing -/

structure Shown where
  userId : Nat
  name : Bytes
  privId : Nat
  cid : Bytes
  deriving DecidableEq, Repr

def UserPriv.shown (entry : UserPriv) : Shown :=
  ⟨entry.userId, entry.name, entry.privId, entry.cid⟩

def listing (db : Store) : List Shown :=
  db.users.rows.flatMap fun user =>
    match db.containers.rows.filter (hasGrant user) with
    | [] => [⟨user.id, user.val.name, 0, []⟩]
    | grant :: grants =>
        (grant :: grants).map fun grant =>
          ⟨user.id, user.val.name, grant.id, grant.val.cid⟩

def Exact (db : Store) : Except Response (List UserPriv) → Prop
  | .ok entries => entries.map UserPriv.shown = listing db
  | .error w => 400 ≤ w.code

instance (db : Store) : (answer : Except Response (List UserPriv)) → Decidable (Exact db answer)
  | .ok entries => inferInstanceAs (Decidable (entries.map UserPriv.shown = listing db))
  | .error w => inferInstanceAs (Decidable (400 ≤ w.code))

/-- The columns that a failure of `Scan` at `column` leaves out are zero or empty. -/
@[mk_iff] structure Harmless (row : JoinRow) (column : Nat) : Prop where
  userId : column ≤ 0 → row.1.id = 0
  name : column ≤ 1 → row.1.val.name = []
  privId : ∀ grant ∈ row.2, column ≤ 3 → grant.id = 0
  cid : ∀ grant ∈ row.2, column ≤ 4 → grant.val.cid = []

/-- A text without a zero byte, all of it UTF-8. -/
def Plain (text : Bytes) : Prop := 0 ∉ text ∧ (decodeUtf8 text).isSome = true

/-- The texts of the row arrive as they are stored. -/
def Readable (row : JoinRow) : Prop :=
  Plain row.1.val.name ∧ ∀ grant ∈ row.2, Plain grant.val.cid

def shownRow (row : JoinRow) : Shown :=
  match row.2 with
  | none => ⟨row.1.id, row.1.val.name, 0, []⟩
  | some grant => ⟨row.1.id, row.1.val.name, grant.id, grant.val.cid⟩

theorem listing_eq (db : Store) : listing db = (joinRows db).map shownRow := by
  rw [joinRows, map_leftJoin shownRow (fun user => ⟨user.id, user.val.name, 0, []⟩)
    (fun user grant => ⟨user.id, user.val.name, grant.id, grant.val.cid⟩)
    (fun _ => rfl) (fun _ _ => rfl)]
  refine congrArg (fun f => db.users.rows.flatMap f) (funext fun user => ?_)
  cases db.containers.rows.filter (hasGrant user) <;> rfl

/-! ## Scanning -/

theorem goString_eq_iff {text : Bytes} : goString text = text ↔ 0 ∉ text := by
  rw [goString, List.takeWhile_eq_self_iff]
  constructor
  · intro h hzero
    simpa using h 0 hzero
  · intro h b hb
    simp only [decide_eq_true_eq]
    rintro rfl
    exact h hb

theorem zero_notMem_goString (text : Bytes) : 0 ∉ goString text := by
  intro hzero
  have hkept := List.mem_takeWhile_imp hzero
  simp at hkept

theorem replaceInvalid_goString_eq_iff {text : Bytes} :
    replaceInvalid (goString text) = text ↔ Plain text := by
  constructor
  · intro h
    have hzero : 0 ∉ text := by
      intro hzero
      rw [← h] at hzero
      rcases mem_of_mem_replaceInvalid hzero with hkept | hnew
      · exact zero_notMem_goString text hkept
      · exact absurd hnew (by decide)
    rw [goString_eq_iff.mpr hzero, replaceInvalid_eq_iff] at h
    exact ⟨hzero, h⟩
  · rintro ⟨hzero, htext⟩
    rw [goString_eq_iff.mpr hzero, replaceInvalid_eq_iff]
    exact htext

@[simp] theorem replaceInvalid_nil : replaceInvalid [] = [] := rfl

/-- A NULL stops the scan where the zero values are the right ones. -/
theorem shown_scan_none (row : JoinRow) :
    (scan row none).json.shown = shownRow row ↔ Readable row := by
  obtain ⟨user, grant⟩ := row
  cases grant with
  | none =>
      simp [scan, columns, assign, UserPriv.json, UserPriv.shown, shownRow, Readable,
        replaceInvalid_goString_eq_iff]
  | some grant =>
      simp [scan, columns, assign, UserPriv.json, UserPriv.shown, shownRow, Readable,
        replaceInvalid_goString_eq_iff]

/-- What a failure at `column` leaves in the fields of the columns behind it. -/
theorem shown_scan_eq (row : JoinRow) (column : Nat) :
    (scan row (some column)).shown =
      ⟨if column ≤ 0 then 0 else row.1.id,
        if column ≤ 1 then [] else goString row.1.val.name,
        if column ≤ 3 then 0 else row.2.elim 0 Row.id,
        if column ≤ 4 then [] else row.2.elim [] fun grant => goString grant.val.cid⟩ := by
  obtain ⟨user, grant⟩ := row
  match column with
  | 0 | 1 | 2 | 3 | 4 | 5 | n + 6 =>
      cases grant <;> simp [scan, columns, assign, UserPriv.shown]

theorem shown_json (entry : UserPriv) :
    entry.json.shown =
      ⟨entry.shown.userId, replaceInvalid entry.shown.name, entry.shown.privId,
        replaceInvalid entry.shown.cid⟩ := rfl

theorem text_eq_iff {column i : Nat} {text : Bytes} :
    replaceInvalid (if column ≤ i then [] else goString text) = text ↔
      Plain text ∧ (column ≤ i → text = []) := by
  split
  · rename_i hleft
    constructor
    · rintro rfl
      exact ⟨⟨List.not_mem_nil, rfl⟩, fun _ => rfl⟩
    · exact fun h => (h.2 hleft).symm
  · rename_i hread
    rw [replaceInvalid_goString_eq_iff]
    exact ⟨fun h => ⟨h, fun hleft => absurd hleft hread⟩, And.left⟩

theorem number_eq_iff {column i n : Nat} :
    (if column ≤ i then 0 else n) = n ↔ (column ≤ i → n = 0) := by
  split
  · rename_i hleft
    exact ⟨fun h _ => h.symm, fun h => (h hleft).symm⟩
  · rename_i hread
    exact iff_of_true rfl fun hleft => absurd hleft hread

theorem shown_scan_some (row : JoinRow) (column : Nat) :
    (scan row (some column)).json.shown = shownRow row ↔
      Readable row ∧ Harmless row column := by
  rw [shown_json, shown_scan_eq, harmless_iff]
  obtain ⟨user, grant⟩ := row
  cases grant with
  | none =>
      simp only [shownRow, Readable, Shown.mk.injEq, number_eq_iff, text_eq_iff, Option.elim,
        ite_self, Option.mem_def, reduceCtorEq, false_implies, implies_true, and_true,
        replaceInvalid_nil]
      exact and_left_comm
  | some grant =>
      simp only [shownRow, Readable, Shown.mk.injEq, number_eq_iff, text_eq_iff, Option.elim,
        Option.mem_def, Option.some.injEq, forall_eq']
      tauto

theorem shown_scan (row : JoinRow) (fault : Option Nat) :
    (scan row fault).json.shown = shownRow row ↔
      Readable row ∧ ∀ column ∈ fault, Harmless row column := by
  cases fault with
  | none => simpa using shown_scan_none row
  | some column => simpa using shown_scan_some row column

/-! ## The loop -/

private theorem forall_getElem?_cons {α : Type*} {P : Nat → α → Prop} {a : α} {l : List α} :
    (∀ j b, (a :: l)[j]? = some b → P j b) ↔ P 0 a ∧ ∀ j b, l[j]? = some b → P (j + 1) b := by
  constructor
  · exact fun h => ⟨h 0 a rfl, fun j b hb => h (j + 1) b hb⟩
  · rintro ⟨hfirst, hrest⟩ j b hb
    cases j with
    | zero =>
        cases hb
        exact hfirst
    | succ j => exact hrest j b hb

theorem readRows_eq_iff (stop : Option Nat) (scanFaults : Nat → Option Nat) (i : Nat)
    (rows : List JoinRow) :
    ((readRows stop scanFaults i rows).map UserPriv.json).map UserPriv.shown =
        rows.map shownRow ↔
      (∀ n ∈ stop, n < i ∨ i + rows.length ≤ n) ∧
        ∀ j row, rows[j]? = some row →
          Readable row ∧ ∀ column ∈ scanFaults (i + j), Harmless row column := by
  induction rows generalizing i with
  | nil => simp [readRows, Nat.lt_or_ge]
  | cons row rows ih =>
      by_cases hstop : stop = some i
      · refine iff_of_false ?_ fun h => ?_
        · simp [readRows, hstop]
        · have hlong := h.1 i hstop
          rw [List.length_cons] at hlong
          omega
      · have hbound : (∀ n ∈ stop, n < i + 1 ∨ i + (rows.length + 1) ≤ n) ↔
            ∀ n ∈ stop, n < i ∨ i + (rows.length + 1) ≤ n := by
          refine forall₂_congr fun n hn => ?_
          have hne : n ≠ i := fun heq => hstop (heq ▸ hn)
          omega
        have hshift : ∀ j, i + 1 + j = i + (j + 1) := fun j => by omega
        simp only [readRows, if_neg hstop, List.map_cons, List.cons.injEq, shown_scan, ih,
          List.length_cons, forall_getElem?_cons, hshift, hbound, Nat.add_zero]
        exact and_left_comm

/--
The listing is right exactly if the query fails, or the iteration is not cut short, the
texts are UTF-8 without a zero byte and a failure of `Scan` leaves out only what is zero
or empty.
-/
theorem users_exact_iff (queryFault : Option GoError) (stop : Option Nat)
    (scanFaults : Nat → Option Nat) (db : Store) :
    Exact db (users queryFault stop scanFaults db) ↔
      queryFault ≠ none ∨
        (∀ n ∈ stop, (joinRows db).length ≤ n) ∧
          ∀ i row, (joinRows db)[i]? = some row →
            Readable row ∧ ∀ column ∈ scanFaults i, Harmless row column := by
  cases queryFault with
  | some err => exact iff_of_true (le_errorStatus err) (.inl nofun)
  | none =>
      have hloop := readRows_eq_iff stop scanFaults 0 (joinRows db)
      simp only [Nat.not_lt_zero, false_or, Nat.zero_add] at hloop
      simpa [users, Exact, listing_eq] using hloop

/-! ## A listing that no failure disturbs -/

theorem readRows_undisturbed (i : Nat) (rows : List JoinRow) :
    readRows none (fun _ => none) i rows = rows.map fun row => scan row none := by
  induction rows generalizing i with
  | nil => rfl
  | cons row rows ih =>
      rw [readRows, if_neg nofun, ih]
      rfl

theorem scan_user (row : JoinRow) :
    (scan row none).userId = row.1.id ∧ (scan row none).name = goString row.1.val.name ∧
      (scan row none).createdAt = some row.1.val.createdAt := by
  obtain ⟨user, grant⟩ := row
  cases grant <;> exact ⟨rfl, rfl, rfl⟩

theorem user_of_users {db : Store} {data : List UserPriv}
    (h : users none none (fun _ => none) db = .ok data) {entry : UserPriv}
    (hentry : entry ∈ data) :
    ∃ user ∈ db.users, replaceInvalid (goString user.val.name) = entry.name ∧
      user.id = entry.userId ∧ some user.val.createdAt = entry.createdAt := by
  simp only [users, readRows_undisturbed, List.map_map, Except.ok.injEq] at h
  rw [← h] at hentry
  obtain ⟨row, hrow, rfl⟩ := List.mem_map.mp hentry
  obtain ⟨hid, hname, hcreated⟩ := scan_user row
  exact ⟨row.1, (mem_leftJoin hrow).1, congrArg replaceInvalid hname.symm, hid.symm,
    hcreated.symm⟩

def twoUsers : Store where
  users := ⟨[⟨1, ⟨ascii "ann", [], 0⟩⟩, ⟨2, ⟨ascii "joe", [], 0⟩⟩], by decide, by decide⟩
  containers := .empty
  admins := .empty

def zeroName : Store where
  users := ⟨[⟨1, ⟨ascii "ann" ++ 0 :: ascii "x", [], 0⟩⟩], by decide, by decide⟩
  containers := .empty
  admins := .empty

/-- A grant of a container under a name that is one byte of no character. -/
def strayByte : Store where
  users := ⟨[⟨1, ⟨ascii "ann", [], 0⟩⟩], by decide, by decide⟩
  containers := ⟨[⟨1, ⟨[0xff], .integer 1, 0⟩⟩], by decide, by decide⟩
  admins := .empty

theorem cut_short_not_exact :
    ¬ Exact twoUsers (users none (some 1) (fun _ => none) twoUsers) ∧
      ¬ Exact zeroName (users none none (fun _ => none) zeroName) ∧
        ¬ Exact strayByte (users none none (fun _ => none) strayByte) := by
  decide

end DockerBastion.Manager

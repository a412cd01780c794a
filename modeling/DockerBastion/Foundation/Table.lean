import DockerBastion.Foundation.Run
import Mathlib.Data.List.Nodup

/-!
# Tables with an integer primary key and one unique index

A table carries the proofs that its ids increase and that no two rows have the
same key.  An insertion takes the id one above the largest present, or one in an
empty table, and fails when the key is taken.
-/

namespace DockerBastion.Foundation

structure Row (α : Type*) where
  id : Nat
  val : α
  deriving DecidableEq, Repr

structure Table (α : Type*) {κ : Type*} (key : α → κ) where
  rows : List (Row α)
  sorted : rows.Pairwise fun a b => a.id < b.id
  unique : rows.Pairwise fun a b => key a.val ≠ key b.val

namespace Table

variable {α κ : Type*} {key : α → κ}

instance : Membership (Row α) (Table α key) := ⟨fun t r => r ∈ t.rows⟩

instance [DecidableEq α] (r : Row α) (t : Table α key) : Decidable (r ∈ t) :=
  inferInstanceAs (Decidable (r ∈ t.rows))

instance (t : Table α key) (P : Row α → Prop) [DecidablePred P] :
    Decidable (∃ r ∈ t, P r) :=
  inferInstanceAs (Decidable (∃ r ∈ t.rows, P r))

instance (t : Table α key) (P : Row α → Prop) [DecidablePred P] :
    Decidable (∀ r ∈ t, P r) :=
  inferInstanceAs (Decidable (∀ r ∈ t.rows, P r))

def empty : Table α key := ⟨[], .nil, .nil⟩

def lastId (t : Table α key) : Nat :=
  t.rows.foldr (fun r largest => max r.id largest) 0

def nextId (t : Table α key) : Nat := t.lastId + 1

theorem mem_rows {t : Table α key} {r : Row α} : r ∈ t.rows ↔ r ∈ t := Iff.rfl

@[simp] theorem not_mem_empty (r : Row α) : r ∉ (empty : Table α key) := by
  simp [← mem_rows, empty]

private theorem id_le_foldr {rows : List (Row α)} {r : Row α} (h : r ∈ rows) :
    r.id ≤ rows.foldr (fun r largest => max r.id largest) 0 := by
  induction rows with
  | nil => cases h
  | cons q rows ih =>
      rw [List.foldr_cons]
      rcases List.mem_cons.mp h with rfl | h
      · omega
      · have := ih h
        omega

theorem id_lt_nextId {t : Table α key} {r : Row α} (h : r ∈ t) : r.id < t.nextId :=
  Nat.lt_succ_of_le (id_le_foldr h)

private theorem eq_of_pairwise_ne {β : Type*} {f : Row α → β} {rows : List (Row α)}
    (h : rows.Pairwise fun a b => f a ≠ f b) {a b : Row α} (ha : a ∈ rows)
    (hb : b ∈ rows) (hf : f a = f b) : a = b := by
  have hnodup : (rows.map f).Nodup := List.pairwise_map.mpr h
  exact List.inj_on_of_nodup_map hnodup ha hb hf

theorem eq_of_id_eq {t : Table α key} {a b : Row α} (ha : a ∈ t) (hb : b ∈ t)
    (hid : a.id = b.id) : a = b :=
  eq_of_pairwise_ne (t.sorted.imp fun hlt => Nat.ne_of_lt hlt) ha hb hid

theorem eq_of_key_eq {t : Table α key} {a b : Row α} (ha : a ∈ t) (hb : b ∈ t)
    (hkey : key a.val = key b.val) : a = b :=
  eq_of_pairwise_ne (f := fun r => key r.val) t.unique ha hb hkey

theorem find?_key_eq_some_iff [DecidableEq κ] {t : Table α key} {k : κ} {r : Row α} :
    (t.rows.find? fun q => key q.val = k) = some r ↔ r ∈ t ∧ key r.val = k := by
  constructor
  · intro h
    exact ⟨List.mem_of_find?_eq_some h, by simpa using List.find?_some h⟩
  · rintro ⟨hr, hkey⟩
    cases hfind : t.rows.find? fun q => key q.val = k with
    | none =>
        have hne := List.find?_eq_none.mp hfind r hr
        exact absurd hkey (by simpa using hne)
    | some q =>
        have hq : q ∈ t := List.mem_of_find?_eq_some hfind
        have hqkey : key q.val = k := by simpa using List.find?_some hfind
        rw [eq_of_key_eq hq hr (hqkey.trans hkey.symm)]

/-! ## Insertion -/

section Insert

variable [DecidableEq κ]

/-- Fails, leaving no table, when the key of the new row is taken. -/
def insert (t : Table α key) (v : α) : Option (Table α key) :=
  if h : ∀ r ∈ t.rows, key r.val ≠ key v then
    some
      { rows := t.rows ++ [⟨t.nextId, v⟩]
        sorted := by
          rw [List.pairwise_append]
          refine ⟨t.sorted, List.pairwise_singleton _ _, ?_⟩
          rintro a ha b hb
          obtain rfl := List.mem_singleton.mp hb
          exact id_lt_nextId ha
        unique := by
          rw [List.pairwise_append]
          refine ⟨t.unique, List.pairwise_singleton _ _, ?_⟩
          rintro a ha b hb
          obtain rfl := List.mem_singleton.mp hb
          exact h a ha }
  else none

theorem rows_insert {t t' : Table α key} {v : α} (h : t.insert v = some t') :
    t'.rows = t.rows ++ [⟨t.nextId, v⟩] := by
  unfold insert at h
  split at h
  · cases h
    rfl
  · cases h

theorem mem_insert {t t' : Table α key} {v : α} (h : t.insert v = some t')
    {r : Row α} : r ∈ t' ↔ r ∈ t ∨ r = ⟨t.nextId, v⟩ := by
  rw [← mem_rows, rows_insert h, List.mem_append, List.mem_singleton, mem_rows]

theorem mem_getD_insert {t : Table α key} {v : α} {r : Row α}
    (h : r ∈ (t.insert v).getD t) : r ∈ t ∨ r = ⟨t.nextId, v⟩ := by
  cases hinsert : t.insert v with
  | none => exact .inl (by simpa [hinsert] using h)
  | some t' =>
      rw [hinsert] at h
      exact (mem_insert hinsert).mp h

theorem mem_getD_insert_of_mem {t : Table α key} {v : α} {r : Row α} (h : r ∈ t) :
    r ∈ (t.insert v).getD t := by
  cases hinsert : t.insert v with
  | none => exact h
  | some t' => exact (mem_insert hinsert).mpr (.inl h)

theorem insert_eq_none_iff {t : Table α key} {v : α} :
    t.insert v = none ↔ ∃ r ∈ t, key r.val = key v := by
  unfold insert
  split
  · rename_i h
    simp only [reduceCtorEq, false_iff, not_exists, not_and]
    exact h
  · rename_i h
    simp only [true_iff]
    push Not at h
    exact h

end Insert

/-! ## Deletion and update -/

def deleteWhere (t : Table α key) (p : Row α → Bool) : Table α key where
  rows := t.rows.filter fun r => !p r
  sorted := t.sorted.filter _
  unique := t.unique.filter _

@[simp] theorem mem_deleteWhere {t : Table α key} {p : Row α → Bool} {r : Row α} :
    r ∈ t.deleteWhere p ↔ r ∈ t ∧ p r = false := by
  simp [← mem_rows, deleteWhere]

def update (t : Table α key) (f : Row α → α) (hf : ∀ r, key (f r) = key r.val) :
    Table α key where
  rows := t.rows.map fun r => ⟨r.id, f r⟩
  sorted := by
    rw [List.pairwise_map]
    exact t.sorted
  unique := by
    rw [List.pairwise_map]
    simpa only [hf] using t.unique

/-! ## Ids along a run -/

def Grows (t t' : Table α key) : Prop :=
  ∀ r ∈ t', r ∈ t ∨ ∀ q ∈ t, q.id < r.id

/--
As long as the table keeps some row with the id `i` or a larger one, a row that
has the id `i` at the end of a run had it at the start.
-/
theorem mem_of_mem_run {σ ε : Type*} {step : σ → ε → σ} {table : σ → Table α key}
    (hstep : ∀ s e, Grows (table s) (table (step s e))) {i : Nat} {s : σ}
    {events : List ε}
    (hkept : Always step (fun s => ∃ q ∈ table s, i ≤ q.id) s events)
    {r : Row α} (hr : r ∈ table (run step s events)) (hid : r.id = i) :
    r ∈ table s := by
  induction events generalizing s with
  | nil => exact hr
  | cons e events ih =>
      rcases hstep s e r (ih hkept.2 hr) with hold | hnew
      · exact hold
      · -- a new row would have to be above the row that is kept
        obtain ⟨q, hq, hle⟩ := hkept.1
        have := hnew q hq
        omega

end Table

end DockerBastion.Foundation

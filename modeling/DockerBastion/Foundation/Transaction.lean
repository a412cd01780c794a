import Mathlib.Tactic.Common

/-!
# Write transactions

One transaction at a time may write.  It takes the write lock with its first
statement and works on a copy; a commit puts the copy in the place of what was
committed, a rollback drops it.  While the lock is held, every other statement
fails.
-/

namespace DockerBastion.Foundation

structure Transacted (δ κ : Type*) where
  committed : δ
  /-- The transaction that holds the write lock, and its copy. -/
  writer : Option (κ × δ)

namespace Transacted

variable {δ κ ε : Type*}

def faultOutside (t : Transacted δ κ) (locked : ε) (fault : Option ε) : Option ε :=
  if t.writer.isSome then some locked else fault

/-- Transaction `k` has not written. -/
def Idle (t : Transacted δ κ) (k : κ) : Prop := ∀ copy, t.writer ≠ some (k, copy)

/-- Another transaction than `k` sees no difference between the two. -/
structure SameFor (k : κ) (t t' : Transacted δ κ) : Prop where
  writer : ∀ copy, t'.writer = some (k, copy) ↔ t.writer = some (k, copy)
  committed : ∀ copy, t.writer = some (k, copy) → t'.committed = t.committed

variable {t t' : Transacted δ κ} {k : κ}

theorem SameFor.idle (h : SameFor k t t') : t'.Idle k ↔ t.Idle k := by
  simp only [Idle, ne_eq, h.writer]

theorem SameFor.of_outside {d : δ} (h : t.writer ≠ none → d = t.committed) :
    SameFor k t { t with committed := d } where
  writer _ := Iff.rfl
  committed copy hwriter := h (by simp [hwriter])

variable [DecidableEq κ]

/-- What a statement of transaction `k` works on, if it may write. -/
def view (t : Transacted δ κ) (k : κ) : Option δ :=
  match t.writer with
  | none => some t.committed
  | some (holder, copy) => if holder = k then some copy else none

def execute (t : Transacted δ κ) (locked : ε) (k : κ) (stmt : δ → Except ε δ) :
    Except ε (Transacted δ κ) :=
  match t.view k with
  | none => .error locked
  | some d => (stmt d).map fun copy => { t with writer := some (k, copy) }

def rollback (t : Transacted δ κ) (k : κ) : Transacted δ κ :=
  match t.writer with
  | none => t
  | some (holder, _) => if holder = k then { t with writer := none } else t

def commit (t : Transacted δ κ) (k : κ) : Transacted δ κ :=
  match t.writer with
  | none => t
  | some (holder, copy) => if holder = k then ⟨copy, none⟩ else t

variable {other : κ}

/-! ## Statements -/

theorem view_of_writer {copy : δ} (h : t.writer = some (k, copy)) :
    t.view k = some copy := by
  simp [view, h]

theorem view_of_idle {d : δ} (hidle : t.Idle k) (h : t.view k = some d) :
    t.writer = none ∧ d = t.committed := by
  unfold view at h
  split at h
  · rename_i hnone
    exact ⟨hnone, (Option.some.inj h).symm⟩
  · rename_i holder copy hwriter
    split at h
    · rename_i heq
      exact absurd (heq ▸ hwriter) (hidle copy)
    · cases h

theorem execute_eq_ok {locked : ε} {stmt : δ → Except ε δ}
    (h : t.execute locked k stmt = .ok t') :
    ∃ d copy, t.view k = some d ∧ stmt d = .ok copy ∧
      t' = { t with writer := some (k, copy) } := by
  unfold execute at h
  split at h
  · cases h
  · rename_i d hview
    cases hstmt : stmt d with
    | error err =>
        rw [hstmt] at h
        cases h
    | ok copy =>
        rw [hstmt] at h
        cases h
        exact ⟨d, copy, hview, hstmt, rfl⟩

theorem sameFor_write {d copy : δ} (hview : t.view k = some d) (hne : other ≠ k) :
    SameFor other t { t with writer := some (k, copy) } := by
  have hidle : ∀ copy, t.writer ≠ some (other, copy) := by
    intro copy' hwriter
    simp [view, hwriter, hne] at hview
  refine ⟨fun copy' => iff_of_false ?_ (hidle copy'), fun copy' hwriter => ?_⟩
  · rintro heq
    cases heq
    exact hne rfl
  · exact absurd hwriter (hidle copy')

/-! ## The end of a transaction -/

theorem rollback_committed (t : Transacted δ κ) (k : κ) :
    (t.rollback k).committed = t.committed := by
  unfold rollback
  split
  · rfl
  · split <;> rfl

theorem idle_rollback (t : Transacted δ κ) (k : κ) : (t.rollback k).Idle k := by
  intro copy hwriter
  unfold rollback at hwriter
  split at hwriter
  · rename_i hnone
    rw [hnone] at hwriter
    cases hwriter
  · rename_i holder copy' hholder
    split at hwriter
    · cases hwriter
    · rename_i hne
      rw [hholder] at hwriter
      cases hwriter
      exact hne rfl

theorem sameFor_rollback (hne : other ≠ k) : SameFor other t (t.rollback k) := by
  refine ⟨fun copy => ?_, fun _ _ => t.rollback_committed k⟩
  unfold rollback
  split
  · rfl
  · rename_i holder copy' hholder
    split
    · rename_i heq
      subst heq
      simp [hholder, hne.symm]
    · rfl

theorem commit_of_writer {copy : δ} (h : t.writer = some (k, copy)) :
    t.commit k = ⟨copy, none⟩ := by
  simp [commit, h]

theorem sameFor_commit {copy : δ} (h : t.writer = some (k, copy)) (hne : other ≠ k) :
    SameFor other t (t.commit k) := by
  rw [commit_of_writer h]
  have hother : ∀ copy', t.writer ≠ some (other, copy') := by
    intro copy' hwriter
    rw [h] at hwriter
    cases hwriter
    exact hne rfl
  exact ⟨fun copy' => iff_of_false nofun (hother copy'),
    fun copy' hwriter => absurd hwriter (hother copy')⟩

end Transacted

end DockerBastion.Foundation

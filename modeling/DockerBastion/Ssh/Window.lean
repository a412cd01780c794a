import DockerBastion.Foundation.Bytes

/-!
# Flow control windows and buffers

A `window` counts what a writer may still send; its counter has 32 bits.  A `buffer`
is a linked list of the slices that have arrived, and a read takes from as many of
them as it needs.  Here a window is connected to the number that it counts, and a
buffer to the string of bytes that it holds.
-/

namespace DockerBastion.Ssh

open Foundation

structure Window where
  win : UInt32
  closed : Bool
  deriving DecidableEq, Repr

namespace Window

def empty : Window := ⟨0, false⟩

/-- `none` where `add` returns false. -/
def add (w : Window) (win : UInt32) : Option Window :=
  if win = 0 then some w
  else if w.win + win < win then none
  else some { w with win := w.win + win }

def close (w : Window) : Window := { w with closed := true }

/-- What is reserved and whether the window was closed; `none` while the writer waits. -/
def reserve (w : Window) (win : UInt32) : Option (UInt32 × Bool × Window) :=
  if w.win = 0 ∧ w.closed = false then none
  else
    let win := if w.win < win then w.win else win
    some (win, w.closed, { w with win := w.win - win })

theorem add_eq_some_iff {w w' : Window} {win : UInt32} :
    w.add win = some w' ↔
      w.win.toNat + win.toNat < 2 ^ 32 ∧ w'.win.toNat = w.win.toNat + win.toNat ∧
        w'.closed = w.closed := by
  have hw := w.win.toNat_lt
  have hwin := win.toNat_lt
  have hsum : (w.win + win).toNat = (w.win.toNat + win.toNat) % 2 ^ 32 := UInt32.toNat_add _ _
  unfold add
  split
  · rename_i hzero
    subst hzero
    constructor
    · intro h
      cases h
      exact ⟨by simpa using hw, by simp, rfl⟩
    · rintro ⟨-, hcount, hclosed⟩
      obtain ⟨count, closed⟩ := w'
      obtain rfl : closed = w.closed := hclosed
      have hcount : count = w.win := UInt32.toNat_inj.mp (by simpa using hcount)
      rw [hcount]
  · rename_i hpos
    split
    · rename_i hwrap
      rw [UInt32.lt_iff_toNat_lt, hsum] at hwrap
      refine iff_of_false (by simp) ?_
      rintro ⟨hfits, -, -⟩
      rw [Nat.mod_eq_of_lt hfits] at hwrap
      omega
    · rename_i hwrap
      rw [UInt32.lt_iff_toNat_lt, hsum, not_lt] at hwrap
      have hfits : w.win.toNat + win.toNat < 2 ^ 32 := by
        by_contra hover
        have hmod : (w.win.toNat + win.toNat) % 2 ^ 32 =
            w.win.toNat + win.toNat - 2 ^ 32 := by omega
        omega
      rw [Nat.mod_eq_of_lt hfits] at hsum
      constructor
      · intro h
        cases h
        exact ⟨hfits, hsum, rfl⟩
      · rintro ⟨-, hcount, hclosed⟩
        obtain ⟨count, closed⟩ := w'
        obtain rfl : closed = w.closed := hclosed
        have hcount : count = w.win + win := UInt32.toNat_inj.mp (hcount.trans hsum.symm)
        rw [hcount]

theorem reserve_eq_some {w w' : Window} {win got : UInt32} {closed : Bool}
    (h : w.reserve win = some (got, closed, w')) :
    got.toNat = min w.win.toNat win.toNat ∧ closed = w.closed ∧
      w'.win.toNat + got.toNat = w.win.toNat ∧ w'.closed = w.closed := by
  unfold reserve at h
  split at h
  · cases h
  cases h
  have hgot : (if w.win < win then w.win else win).toNat = min w.win.toNat win.toNat := by
    split <;> rename_i hlt <;> rw [UInt32.lt_iff_toNat_lt] at hlt <;> omega
  refine ⟨hgot, rfl, ?_, rfl⟩
  have hle : (if w.win < win then w.win else win) ≤ w.win := by
    rw [UInt32.le_iff_toNat_le, hgot]
    exact Nat.min_le_left _ _
  rw [UInt32.toNat_sub_of_le _ _ hle]
  rw [UInt32.le_iff_toNat_le] at hle
  omega

end Window

/-- The elements from `head` to `tail`; a new buffer has one empty element. -/
structure Buffer where
  elements : List Bytes
  closed : Bool
  deriving DecidableEq, Repr

namespace Buffer

def empty : Buffer := ⟨[[]], false⟩

def write (b : Buffer) (buf : Bytes) : Buffer :=
  { b with elements := b.elements ++ [buf] }

def eof (b : Buffer) : Buffer := { b with closed := true }

/-- The loop of `Read`: what it copies, and the elements from the new head on. -/
def take : Nat → List Bytes → Bytes × List Bytes
  | _, [] => ([], [])
  | n, [e] => (e.take n, [e.drop n])
  | n, e :: e' :: rest =>
      if n ≤ e.length then (e.take n, e.drop n :: e' :: rest)
      else
        let (copied, elements) := take (n - e.length) (e' :: rest)
        (e ++ copied, elements)

/-- What is read, or the end of the data; `none` while the reader waits. -/
def read (b : Buffer) (n : Nat) : Option (Option Bytes × Buffer) :=
  let (copied, elements) := take n b.elements
  if n > 0 ∧ copied = [] then
    if b.closed then some (none, { b with elements := elements }) else none
  else some (some copied, { b with elements := elements })

def contents (b : Buffer) : Bytes := b.elements.flatten

@[simp] theorem contents_empty : empty.contents = [] := rfl

@[simp] theorem contents_write (b : Buffer) (buf : Bytes) :
    (b.write buf).contents = b.contents ++ buf := by
  simp [contents, write]

theorem take_spec (n : Nat) (elements : List Bytes) :
    (take n elements).1 = elements.flatten.take n ∧
      (take n elements).2.flatten = elements.flatten.drop n := by
  induction n, elements using take.induct with
  | case1 n => simp [take]
  | case2 n e => simp [take]
  | case3 n e e' rest hle =>
      rw [take, if_pos hle]
      constructor
      · rw [List.flatten_cons, List.take_append_of_le_length hle]
      · exact (List.drop_append_of_le_length hle).symm
  | case4 n e e' rest hlong copied elements htake ih =>
      have hle : e.length ≤ n := by omega
      rw [htake] at ih
      rw [take, if_neg hlong, htake]
      dsimp only at ih ⊢
      constructor
      · rw [List.flatten_cons, List.take_append, List.take_of_length_le hle, ih.1]
      · rw [List.flatten_cons, List.drop_append, List.drop_of_length_le hle,
          List.nil_append]
        exact ih.2

theorem read_eq_data {b b' : Buffer} {n : Nat} {data : Bytes}
    (h : b.read n = some (some data, b')) :
    b.contents = data ++ b'.contents ∧ data.length ≤ n ∧ b'.closed = b.closed := by
  obtain ⟨hcopied, hrest⟩ := take_spec n b.elements
  simp only [read] at h
  split at h
  · split at h <;> cases h
  · cases h
    refine ⟨?_, ?_, rfl⟩
    · rw [hcopied]
      exact (List.take_append_drop n _).symm.trans (congrArg _ hrest.symm)
    · rw [hcopied]
      exact List.length_take_le _ _

theorem read_eq_eof {b b' : Buffer} {n : Nat} (h : b.read n = some (none, b')) :
    b.contents = [] ∧ b'.contents = [] ∧ b.closed = true ∧ b'.closed = true := by
  obtain ⟨hcopied, hrest⟩ := take_spec n b.elements
  simp only [read] at h
  split at h
  · rename_i hnone
    split at h
    · rename_i hclosed
      cases h
      have hcontents : b.elements.flatten = [] := by
        rw [hcopied, List.take_eq_nil_iff] at hnone
        rcases hnone.2 with hzero | hnil
        · omega
        · exact hnil
      refine ⟨hcontents, ?_, hclosed, hclosed⟩
      show (take n b.elements).2.flatten = []
      rw [hrest, hcontents, List.drop_nil]
    · cases h
  · cases h

end Buffer

end DockerBastion.Ssh

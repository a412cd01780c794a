import Mathlib.Data.List.Basic
import Mathlib.Tactic.Common

/-!
# Streams of involutions

A stream cipher changes each element of its input by its place in the stream.  What one
side has changed the other side changes back at the same places, however the input is
cut into pieces.
-/

namespace DockerBastion.Foundation

variable {α : Type*} (f : Nat → α → α)

/-- The element `i` of the list is changed by `f (n + i)`. -/
def applyFrom : Nat → List α → List α
  | _, [] => []
  | n, x :: xs => f n x :: applyFrom (n + 1) xs

@[simp] theorem length_applyFrom (n : Nat) (xs : List α) :
    (applyFrom f n xs).length = xs.length := by
  induction xs generalizing n with
  | nil => rfl
  | cons x xs ih => simp [applyFrom, ih]

theorem applyFrom_append (n : Nat) (xs ys : List α) :
    applyFrom f n (xs ++ ys) = applyFrom f n xs ++ applyFrom f (n + xs.length) ys := by
  induction xs generalizing n with
  | nil => rfl
  | cons x xs ih =>
      simp only [List.cons_append, applyFrom, ih, List.length_cons, Nat.add_assoc,
        Nat.add_comm 1]

variable {f}

theorem applyFrom_applyFrom (hf : ∀ n x, f n (f n x) = x) (n : Nat) (xs : List α) :
    applyFrom f n (applyFrom f n xs) = xs := by
  induction xs generalizing n with
  | nil => rfl
  | cons x xs ih => simp [applyFrom, ih, hf]

end DockerBastion.Foundation

import Mathlib.Algebra.Group.Nat.Defs
import Mathlib.Data.List.Basic
import Mathlib.Data.List.TakeWhile
import Mathlib.Tactic.Common

/-!
# Byte strings

Strings are sequences of bytes, as in Go.  This file holds the operations on
them that the development needs: splitting in two at the first separator,
decimal integers and hexadecimal digits.
-/

namespace DockerBastion.Foundation

abbrev Bytes := List UInt8

instance : LawfulBEq Bytes := inferInstanceAs (LawfulBEq (List UInt8))

/-- The bytes of an ASCII literal. -/
def ascii (s : String) : Bytes := s.toList.map fun c => UInt8.ofNat c.toNat

/-! ## Splitting at the first separator -/

/-- `strings.SplitN(s, sep, 2)` for a one-byte separator. -/
def splitTwo (sep : UInt8) (s : Bytes) : List Bytes :=
  match s.dropWhile (· != sep) with
  | [] => [s]
  | _ :: rest => [s.takeWhile (· != sep), rest]

theorem splitTwo_append {sep : UInt8} {s : Bytes} (h : sep ∉ s) (rest : Bytes) :
    splitTwo sep (s ++ sep :: rest) = [s, rest] := by
  have hall : ∀ b ∈ s, (b != sep) = true := by
    intro b hb
    simp only [bne_iff_ne, ne_eq]
    rintro rfl
    exact h hb
  have hdrop : (s ++ sep :: rest).dropWhile (· != sep) = sep :: rest := by
    rw [List.dropWhile_append_of_pos hall]
    simp
  have htake : (s ++ sep :: rest).takeWhile (· != sep) = s := by
    rw [List.takeWhile_append_of_pos hall]
    simp
  simp [splitTwo, hdrop, htake]

theorem exists_first_sep {sep : UInt8} {s : Bytes} (h : sep ∈ s) :
    ∃ head tail, s = head ++ sep :: tail ∧ sep ∉ head := by
  induction s with
  | nil => cases h
  | cons b s ih =>
      by_cases hb : b = sep
      · exact ⟨[], s, by simp [hb], by simp⟩
      · have hs : sep ∈ s := by
          rcases List.mem_cons.mp h with rfl | hs
          · exact absurd rfl hb
          · exact hs
        obtain ⟨head, tail, rfl, hhead⟩ := ih hs
        refine ⟨b :: head, tail, rfl, ?_⟩
        simp only [List.mem_cons, not_or]
        exact ⟨fun heq => hb heq.symm, hhead⟩

/-! ## Decimal integers -/

def isDigit (b : UInt8) : Bool := 48 ≤ b.toNat && b.toNat ≤ 57

inductive NumErr where
  | syntaxErr
  | rangeErr
  deriving DecidableEq, Repr

/-- The loop of `strconv.ParseUint`, which stops at the first digit that overflows. -/
def parseDigits : Nat → Bytes → Except NumErr Nat
  | n, [] => .ok n
  | n, b :: s =>
      if ¬ isDigit b then .error .syntaxErr
      else if 2 ^ 64 ≤ 10 * n + (b.toNat - 48) then .error .rangeErr
      else parseDigits (10 * n + (b.toNat - 48)) s

def parseUint (s : Bytes) : Except NumErr Nat :=
  if s = [] then .error .syntaxErr else parseDigits 0 s

/-- `strconv.Atoi` on a 64-bit platform: an optional sign and decimal digits. -/
def atoi (s : Bytes) : Except NumErr Int :=
  match parseUint (if s.head? = some 45 ∨ s.head? = some 43 then s.tail else s) with
  | .error err => .error err
  | .ok n =>
      if s.head? = some 45 then
        if n ≤ 2 ^ 63 then .ok (-(n : Int)) else .error .rangeErr
      else if n < 2 ^ 63 then .ok n
      else .error .rangeErr

/-! ## Hexadecimal digits -/

def isHexDigit (b : UInt8) : Bool :=
  isDigit b || (97 ≤ b.toNat && b.toNat ≤ 102)

theorem isHexDigit_bounds {b : UInt8} (h : isHexDigit b = true) :
    (48 ≤ b.toNat ∧ b.toNat ≤ 57) ∨ (97 ≤ b.toNat ∧ b.toNat ≤ 102) := by
  simpa [isHexDigit, isDigit] using h

example : splitTwo 46 (ascii "bob.a.b") = [ascii "bob", ascii "a.b"] := by decide

example : (atoi (ascii "-12")).toOption = some (-12) := by decide

example : parseUint (ascii "99999999999999999999x") = .error .rangeErr := by decide

end DockerBastion.Foundation

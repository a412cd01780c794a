import DockerBastion.Foundation.Bytes
import Mathlib.Data.List.Infix

/-!
# The LIKE operator

`LIKE` as SQLite evaluates it without an ESCAPE clause: both operands are read
as NUL-terminated UTF-8, `%` stands for any sequence of characters, `_` for any
one character, and every other character for itself up to the case of ASCII
letters.  The main result says when a literal text followed by `%` matches.
-/

namespace DockerBastion.Foundation

/-! ## Reading characters -/

def utf8Lead (b : Nat) : Nat :=
  if b < 0xe0 then b - 0xc0
  else if b < 0xf0 then b - 0xe0
  else if b < 0xf8 then b - 0xf0
  else if b < 0xfc then b - 0xf8
  else if b < 0xfe then b - 0xfc
  else 0

/-- A multi-byte character never reads as ASCII, a surrogate or a noncharacter. -/
def utf8Final (c : Nat) : Nat :=
  if c < 0x80 ∨ (0xd800 ≤ c ∧ c < 0xe000) ∨ c = 0xfffe ∨ c = 0xffff then 0xfffd
  else c

def charsFrom : Option Nat → Bytes → List Nat
  | pending, [] => (pending.map utf8Final).toList
  | pending, b :: rest =>
      match pending, decide (0x80 ≤ b.toNat ∧ b.toNat < 0xc0) with
      | some c, true => charsFrom (some ((c * 64 + b.toNat % 64) % 2 ^ 32)) rest
      | _, _ =>
          (pending.map utf8Final).toList ++
            if 0xc0 ≤ b.toNat then charsFrom (some (utf8Lead b.toNat)) rest
            else b.toNat :: charsFrom none rest

def cString (s : Bytes) : Bytes := s.takeWhile (· != 0)

def chars (s : Bytes) : List Nat := charsFrom none (cString s)

/-! ## Matching -/

def lowerAscii (c : Nat) : Nat := if 65 ≤ c ∧ c ≤ 90 then c + 32 else c

def percent : UInt8 := 37

def underscore : UInt8 := 95

def matchChars : List Nat → List Nat → Bool
  | [], s => s.isEmpty
  | c :: pattern, s =>
      if c = percent.toNat then s.tails.any (matchChars pattern)
      else
        match s with
        | [] => false
        | d :: s =>
            (c == underscore.toNat || lowerAscii c == lowerAscii d) &&
              matchChars pattern s

/-- `s LIKE pattern`. -/
def like (pattern s : Bytes) : Bool := matchChars (chars pattern) (chars s)

/-! ## Literal patterns -/

/-- A byte that stands for itself in a pattern: ASCII, not NUL, no wildcard. -/
def isLiteral (b : UInt8) : Bool :=
  0 < b.toNat && b.toNat < 0x80 && b != percent && b != underscore

def folded (s : Bytes) : List Nat := s.map fun b => lowerAscii b.toNat

private theorem utf8Final_ge (c : Nat) : 0x80 ≤ utf8Final c := by
  unfold utf8Final
  split <;> omega

private theorem charsFrom_some_head (c : Nat) (s : Bytes) :
    ∃ d rest, charsFrom (some c) s = d :: rest ∧ 0x80 ≤ d := by
  induction s generalizing c with
  | nil => exact ⟨utf8Final c, [], rfl, utf8Final_ge c⟩
  | cons b s ih =>
      unfold charsFrom
      cases decide (0x80 ≤ b.toNat ∧ b.toNat < 0xc0) with
      | true => exact ih _
      | false => exact ⟨utf8Final c, _, rfl, utf8Final_ge c⟩

theorem toNat_pos {b : UInt8} (h : b ≠ 0) : 0 < b.toNat := by
  rcases Nat.eq_zero_or_pos b.toNat with h0 | hpos
  · exact absurd (UInt8.toNat_inj.mp (by simpa using h0)) h
  · exact hpos

theorem cString_cons {b : UInt8} (hpos : 0 < b.toNat) (s : Bytes) :
    cString (b :: s) = b :: cString s := by
  have hne : (b != 0) = true := by
    simp only [bne_iff_ne, ne_eq]
    rintro rfl
    simp at hpos
  simp [cString, hne]

theorem chars_cons_single {b : UInt8} (hpos : 0 < b.toNat) (hsmall : b.toNat < 0xc0)
    (s : Bytes) : chars (b :: s) = b.toNat :: chars s := by
  have hlt : ¬ 0xc0 ≤ b.toNat := by omega
  simp [chars, cString_cons hpos, charsFrom, hlt]

private theorem chars_cons_multi {b : UInt8} (hlarge : 0xc0 ≤ b.toNat) (s : Bytes) :
    ∃ d rest, chars (b :: s) = d :: rest ∧ 0x80 ≤ d := by
  have heq : chars (b :: s) = charsFrom (some (utf8Lead b.toNat)) (cString s) := by
    simp [chars, cString_cons (by omega : 0 < b.toNat), charsFrom, hlarge]
  rw [heq]
  exact charsFrom_some_head _ _

theorem chars_nul (s : Bytes) : chars (0 :: s) = [] := by
  simp [chars, cString, charsFrom]

private theorem isLiteral_bounds {b : UInt8} (h : isLiteral b = true) :
    0 < b.toNat ∧ b.toNat < 0x80 ∧ b.toNat ≠ percent.toNat ∧
      b.toNat ≠ underscore.toNat := by
  simp only [isLiteral, Bool.and_eq_true, decide_eq_true_eq, bne_iff_ne,
    ne_eq] at h
  obtain ⟨⟨⟨hpos, hlt⟩, hpercent⟩, hunderscore⟩ := h
  exact ⟨hpos, hlt, fun heq => hpercent (UInt8.toNat_inj.mp heq),
    fun heq => hunderscore (UInt8.toNat_inj.mp heq)⟩

private theorem lowerAscii_eq_of_ge {c : Nat} (h : 0x80 ≤ c) : lowerAscii c = c := by
  unfold lowerAscii
  split <;> omega

private theorem lowerAscii_bounds {c : Nat} (hpos : 0 < c) (hlt : c < 0x80) :
    0 < lowerAscii c ∧ lowerAscii c < 0x80 := by
  unfold lowerAscii
  split <;> omega

private theorem matchChars_percent (s : List Nat) :
    matchChars [percent.toNat] s = true := by
  simp only [matchChars, if_true, List.any_eq_true, List.mem_tails]
  exact ⟨[], List.nil_suffix, rfl⟩

private theorem matchChars_literal {b : UInt8} (h : isLiteral b = true)
    (pattern : List Nat) (d : Nat) (s : List Nat) :
    matchChars (b.toNat :: pattern) (d :: s) =
      (lowerAscii b.toNat == lowerAscii d && matchChars pattern s) := by
  obtain ⟨-, -, hpercent, hunderscore⟩ := isLiteral_bounds h
  simp only [matchChars, hpercent, if_false, beq_eq_false_iff_ne.mpr hunderscore,
    Bool.false_or]

private theorem matchChars_literal_nil {b : UInt8} (h : isLiteral b = true)
    (pattern : List Nat) : matchChars (b.toNat :: pattern) [] = false := by
  obtain ⟨-, -, hpercent, -⟩ := isLiteral_bounds h
  simp [matchChars, hpercent]

private theorem chars_literal_percent {text : Bytes}
    (h : ∀ b ∈ text, isLiteral b = true) :
    chars (text ++ [percent]) = text.map UInt8.toNat ++ [percent.toNat] := by
  induction text with
  | nil => rfl
  | cons b text ih =>
      obtain ⟨hpos, hlt, -, -⟩ := isLiteral_bounds (h b (by simp))
      rw [List.cons_append, chars_cons_single hpos (by omega),
        ih fun b' hb' => h b' (by simp [hb'])]
      rfl

private theorem matchChars_text_percent {text : Bytes}
    (h : ∀ b ∈ text, isLiteral b = true) (s : Bytes) :
    matchChars (text.map UInt8.toNat ++ [percent.toNat]) (chars s) = true ↔
      folded (s.take text.length) = folded text := by
  induction text generalizing s with
  | nil => simp [matchChars_percent, folded]
  | cons b text ih =>
      have hb := h b (by simp)
      have htext : ∀ b' ∈ text, isLiteral b' = true := fun b' hb' =>
        h b' (by simp [hb'])
      obtain ⟨hpos, hlt, -, -⟩ := isLiteral_bounds hb
      obtain ⟨hlpos, hllt⟩ := lowerAscii_bounds hpos hlt
      simp only [List.map_cons, List.cons_append]
      cases s with
      | nil =>
          rw [show chars [] = [] from rfl, matchChars_literal_nil hb]
          simp [folded]
      | cons d s =>
          have hfold : folded ((d :: s).take (b :: text).length) =
              folded (b :: text) ↔
              lowerAscii d.toNat = lowerAscii b.toNat ∧
                folded (s.take text.length) = folded text := by
            simp [folded]
          rw [hfold]
          by_cases hzero : d = 0
          · subst hzero
            rw [chars_nul, matchChars_literal_nil hb]
            simp only [Bool.false_eq_true, false_iff, not_and]
            intro heq
            rw [show lowerAscii (UInt8.toNat 0) = 0 from rfl] at heq
            omega
          have hdpos : 0 < d.toNat := toNat_pos hzero
          by_cases hmulti : 0xc0 ≤ d.toNat
          · obtain ⟨c, rest, hchars, hc⟩ := chars_cons_multi hmulti s
            rw [hchars, matchChars_literal hb, lowerAscii_eq_of_ge hc,
              lowerAscii_eq_of_ge (by omega : 0x80 ≤ d.toNat)]
            simp only [Bool.and_eq_true, beq_iff_eq]
            omega
          · rw [chars_cons_single hdpos (by omega), matchChars_literal hb]
            simp only [Bool.and_eq_true, beq_iff_eq, ih htext]
            rw [eq_comm]

/--
A literal text followed by `%` matches exactly the strings that start with the
text, ASCII letters compared without their case.
-/
theorem like_literal_percent {text : Bytes} (h : ∀ b ∈ text, isLiteral b = true)
    (s : Bytes) :
    like (text ++ [percent]) s = true ↔
      folded (s.take text.length) = folded text := by
  rw [like, chars_literal_percent h]
  exact matchChars_text_percent h s

theorem like_literal_percent_self {text : Bytes}
    (h : ∀ b ∈ text, isLiteral b = true) (rest : Bytes) :
    like (text ++ [percent]) (text ++ rest) = true := by
  rw [like_literal_percent h]
  simp

example : like (ascii "d_v%") (ascii "DEV1") = true := by decide

end DockerBastion.Foundation

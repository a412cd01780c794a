import DockerBastion.Foundation.Bytes
import Mathlib.Tactic.Ring

/-!
# Text in UTF-8, numbers in hexadecimal

Ranging over a string yields a rune for every character and one for every byte that
belongs to no character.  Nothing is lost: the runes give back the bytes, and the
encoding of a text gives back its characters.  Where the bytes that belong to no
character are replaced, a string stays as it is only if it is a text.
-/

namespace DockerBastion.Foundation

def utf8 (text : List Char) : Bytes := text.flatMap String.utf8EncodeChar

inductive Rune where
  | char (c : Char)
  | invalid (b : UInt8)
  deriving DecidableEq, Repr

def Rune.bytes : Rune → Bytes
  | .char c => String.utf8EncodeChar c
  | .invalid b => [b]

def Rune.char? : Rune → Option Char
  | .char c => some c
  | .invalid _ => none

/-- The character whose encoding stands at the front. -/
def decodeChar (s : Bytes) : Option Char := s.toByteArray.utf8DecodeChar? 0

/-- `skip` counts the bytes that belong to the character read last. -/
def runesFrom : Nat → Bytes → List Rune
  | _, [] => []
  | skip + 1, _ :: s => runesFrom skip s
  | 0, b :: s =>
      match decodeChar (b :: s) with
      | some c => .char c :: runesFrom (c.utf8Size - 1) s
      | none => .invalid b :: runesFrom 0 s

def runes (s : Bytes) : List Rune := runesFrom 0 s

/-- The text that is encoded, `none` where the bytes are not UTF-8. -/
def decodeUtf8 (s : Bytes) : Option (List Char) := (runes s).mapM Rune.char?

/-- The string with U+FFFD for every byte that belongs to no character. -/
def replaceInvalid (s : Bytes) : Bytes :=
  utf8 ((runes s).map fun r => r.char?.getD '\ufffd')

theorem utf8_cons (c : Char) (text : List Char) :
    utf8 (c :: text) = String.utf8EncodeChar c ++ utf8 text := rfl

@[simp] theorem utf8_append (a b : List Char) : utf8 (a ++ b) = utf8 a ++ utf8 b :=
  List.flatMap_append

/-! ## The front of a string -/

theorem decodeChar_append (c : Char) (s : Bytes) :
    decodeChar (String.utf8EncodeChar c ++ s) = some c := by
  rw [decodeChar, List.toByteArray_append]
  exact ByteArray.utf8DecodeChar?_utf8EncodeChar_append

theorem exists_of_decodeChar {s : Bytes} {c : Char} (h : decodeChar s = some c) :
    ∃ rest, s = String.utf8EncodeChar c ++ rest := by
  obtain ⟨rest, hrest⟩ := ByteArray.exists_of_utf8DecodeChar?_eq_some h
  refine ⟨rest.data.toList, ?_⟩
  have hdata := congrArg (fun b => b.data.toList) hrest
  simpa using hdata

theorem runesFrom_append (skipped s : Bytes) :
    runesFrom skipped.length (skipped ++ s) = runes s := by
  induction skipped with
  | nil => rfl
  | cons b skipped ih => exact ih

theorem runes_append (c : Char) (s : Bytes) :
    runes (String.utf8EncodeChar c ++ s) = .char c :: runes s := by
  have hdecode := decodeChar_append c s
  cases hbytes : String.utf8EncodeChar c with
  | nil => exact absurd hbytes String.utf8EncodeChar_ne_nil
  | cons b bytes =>
      have hlength : c.utf8Size - 1 = bytes.length := by
        rw [← String.length_utf8EncodeChar, hbytes]
        rfl
      rw [hbytes, List.cons_append] at hdecode
      rw [List.cons_append, runes, runesFrom, hdecode]
      simp only [hlength, runesFrom_append]

theorem runes_of_invalid {b : UInt8} {s : Bytes} (h : decodeChar (b :: s) = none) :
    runes (b :: s) = .invalid b :: runes s := by
  simp only [runes, runesFrom, h]

/-! ## Whole strings -/

theorem runes_utf8 (text : List Char) : runes (utf8 text) = text.map .char := by
  induction text with
  | nil => rfl
  | cons c text ih => rw [utf8_cons, runes_append, ih, List.map_cons]

theorem bytes_runes (s : Bytes) : (runes s).flatMap Rune.bytes = s := by
  induction hlength : s.length using Nat.strong_induction_on generalizing s with
  | _ n ih =>
      cases s with
      | nil => rfl
      | cons b s =>
          cases hdecode : decodeChar (b :: s) with
          | none =>
              rw [runes_of_invalid hdecode, List.flatMap_cons,
                ih s.length (by simp [← hlength]) s rfl]
              rfl
          | some c =>
              obtain ⟨rest, hrest⟩ := exists_of_decodeChar hdecode
              have hpos : 0 < (String.utf8EncodeChar c).length := by
                rw [String.length_utf8EncodeChar]
                exact c.utf8Size_pos
              have hshorter : rest.length < n := by
                rw [← hlength, hrest, List.length_append]
                omega
              rw [hrest, runes_append, List.flatMap_cons, ih rest.length hshorter rest rfl]
              rfl

theorem decodeUtf8_utf8 (text : List Char) : decodeUtf8 (utf8 text) = some text := by
  rw [decodeUtf8, runes_utf8]
  induction text with
  | nil => rfl
  | cons c text ih => simp [Rune.char?, ih]

theorem utf8_injective : Function.Injective utf8 := by
  intro a b h
  have hdecode := decodeUtf8_utf8 a
  rw [h, decodeUtf8_utf8] at hdecode
  exact (Option.some.inj hdecode).symm

/-! ## Bytes that belong to no character -/

theorem runes_eq_of_decodeUtf8 {s : Bytes} {text : List Char} (h : decodeUtf8 s = some text) :
    runes s = text.map .char := by
  rw [decodeUtf8] at h
  generalize runes s = rs at h
  induction rs generalizing text with
  | nil =>
      cases h
      rfl
  | cons r rs ih =>
      rw [List.mapM_cons] at h
      obtain ⟨c, hc, h⟩ := Option.bind_eq_some_iff.mp h
      obtain ⟨rest, hrest, h⟩ := Option.bind_eq_some_iff.mp h
      cases h
      cases r with
      | char d =>
          cases hc
          rw [ih hrest, List.map_cons]
      | invalid b => cases hc

theorem replaceInvalid_eq_iff {s : Bytes} :
    replaceInvalid s = s ↔ (decodeUtf8 s).isSome = true := by
  constructor
  · intro h
    rw [← h, replaceInvalid, decodeUtf8_utf8]
    rfl
  · intro h
    obtain ⟨text, htext⟩ := Option.isSome_iff_exists.mp h
    have hrunes := runes_eq_of_decodeUtf8 htext
    have hbytes := bytes_runes s
    rw [hrunes, List.flatMap_map] at hbytes
    rw [replaceInvalid, hrunes, List.map_map]
    exact (congrArg utf8 (List.map_id text)).trans hbytes

/-- Only the bytes of U+FFFD are new. -/
theorem mem_of_mem_replaceInvalid {s : Bytes} {b : UInt8} (h : b ∈ replaceInvalid s) :
    b ∈ s ∨ b ∈ String.utf8EncodeChar '\ufffd' := by
  obtain ⟨c, hc, hb⟩ := List.mem_flatMap.mp h
  obtain ⟨r, hr, rfl⟩ := List.mem_map.mp hc
  cases r with
  | char c =>
      left
      rw [← bytes_runes s]
      exact List.mem_flatMap.mpr ⟨.char c, hr, hb⟩
  | invalid _ => exact .inr hb

theorem utf8EncodeChar_of_lt {c : Char} (h : c.toNat < 0x80) :
    String.utf8EncodeChar c = [UInt8.ofNat c.toNat] := by
  have hsize : c.utf8Size = 1 := by
    rw [Char.utf8Size_eq_one_iff, UInt32.le_iff_toNat_le]
    exact Nat.le_of_lt_succ h
  rw [String.utf8EncodeChar_eq_singleton hsize]
  rfl

theorem utf8_of_lt {text : List Char} (h : ∀ c ∈ text, c.toNat < 0x80) :
    utf8 text = text.map fun c => UInt8.ofNat c.toNat := by
  induction text with
  | nil => rfl
  | cons c text ih =>
      have hrest : ∀ d ∈ text, d.toNat < 0x80 := fun d hd => h d (List.mem_cons_of_mem c hd)
      rw [utf8_cons, utf8EncodeChar_of_lt (h c List.mem_cons_self), ih hrest]
      rfl

/-! ## Hexadecimal numbers -/

/-- The last `k` digits of `n`, in lower case. -/
def hexDigits : Nat → Nat → List Char
  | 0, _ => []
  | k + 1, n => (n / 16 ^ k % 16).digitChar :: hexDigits k n

def hexValue (c : Char) : Option Nat :=
  if '0' ≤ c ∧ c ≤ '9' then some (c.toNat - 48)
  else if 'a' ≤ c ∧ c ≤ 'f' then some (c.toNat - 87)
  else if 'A' ≤ c ∧ c ≤ 'F' then some (c.toNat - 55)
  else none

/-- Reads `k` digits behind those whose value is `n`. -/
def readHex : Nat → Nat → List Char → Option (Nat × List Char)
  | 0, n, text => some (n, text)
  | _ + 1, _, [] => none
  | k + 1, n, c :: text => (hexValue c).bind fun d => readHex k (16 * n + d) text

theorem hexValue_digitChar {d : Nat} (h : d < 16) : hexValue d.digitChar = some d := by
  have hall : ∀ d < 16, hexValue d.digitChar = some d := by decide
  exact hall d h

theorem mem_hexDigits {k n : Nat} {c : Char} (h : c ∈ hexDigits k n) :
    ∃ d < 16, c = d.digitChar := by
  induction k with
  | zero => cases h
  | succ k ih =>
      rcases List.mem_cons.mp h with rfl | h
      · exact ⟨n / 16 ^ k % 16, Nat.mod_lt _ (by decide), rfl⟩
      · exact ih h

theorem readHex_hexDigits (k m n : Nat) (text : List Char) :
    readHex k m (hexDigits k n ++ text) = some (16 ^ k * m + n % 16 ^ k, text) := by
  induction k generalizing m with
  | zero => simp [readHex, hexDigits, Nat.mod_one]
  | succ k ih =>
      have hdigit : n / 16 ^ k % 16 < 16 := Nat.mod_lt _ (by decide)
      rw [hexDigits, List.cons_append, readHex, hexValue_digitChar hdigit, Option.bind_some,
        ih, Nat.mod_pow_succ]
      congr 2
      rw [pow_succ]
      ring

end DockerBastion.Foundation

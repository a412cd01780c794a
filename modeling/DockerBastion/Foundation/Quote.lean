import DockerBastion.Foundation.Text

/-!
# Go string literals

`strconv.Quote` writes a string as a literal, here as in Go 1.4.  Which characters are
printable is a table of Unicode and a parameter.  A literal says which string it was
made from, also with other text behind it.
-/

namespace DockerBastion.Foundation

def quotationMark : Char := '\x22'

def letterEscapes : List (Char × Char) :=
  [('\x07', 'a'), ('\x08', 'b'), ('\x0c', 'f'), ('\n', 'n'), ('\r', 'r'), ('\t', 't'),
   ('\x0b', 'v')]

theorem mem_letterEscapes {c letter : Char} (h : letterEscapes.lookup c = some letter) :
    (c, letter) ∈ letterEscapes := by
  obtain ⟨before, after, heq, -⟩ := List.lookup_eq_some_iff.mp h
  simp [heq]

section Quote

variable (isPrint : Char → Bool)

def quoteChar (c : Char) : List Char :=
  if c = quotationMark ∨ c = '\\' then ['\\', c]
  else if isPrint c then [c]
  else
    match letterEscapes.lookup c with
    | some letter => ['\\', letter]
    | none =>
        if c.toNat < 0x20 then '\\' :: 'x' :: hexDigits 2 c.toNat
        else if c.toNat < 0x10000 then '\\' :: 'u' :: hexDigits 4 c.toNat
        else '\\' :: 'U' :: hexDigits 8 c.toNat

def quoteRune : Rune → List Char
  | .char c => quoteChar isPrint c
  | .invalid b => '\\' :: 'x' :: hexDigits 2 b.toNat

def quoteText (s : Bytes) : List Char :=
  quotationMark :: (runes s).flatMap (quoteRune isPrint) ++ [quotationMark]

/-- `strconv.Quote`. -/
def quote (s : Bytes) : Bytes := utf8 (quoteText isPrint s)

end Quote

/-! ## Reading a literal -/

def unquoteEscape (kind : Char) (text : List Char) : Option (Bytes × List Char) :=
  if kind = 'x' then
    (readHex 2 0 text).map fun (n, rest) => ([UInt8.ofNat n], rest)
  else if kind = 'u' then
    (readHex 4 0 text).map fun (n, rest) => (String.utf8EncodeChar (.ofNat n), rest)
  else if kind = 'U' then
    (readHex 8 0 text).map fun (n, rest) => (String.utf8EncodeChar (.ofNat n), rest)
  else if kind = quotationMark ∨ kind = '\\' then some (String.utf8EncodeChar kind, text)
  else
    ((letterEscapes.map Prod.swap).lookup kind).map fun c => (String.utf8EncodeChar c, text)

/-- The bytes that the first element of a literal stands for; `none` at its end. -/
def unquoteRune : List Char → Option (Bytes × List Char)
  | [] => none
  | c :: text =>
      if c = quotationMark then none
      else if c = '\\' then
        match text with
        | [] => none
        | kind :: text => unquoteEscape kind text
      else some (String.utf8EncodeChar c, text)

theorem unquoteRune_escape (kind : Char) (text : List Char) :
    unquoteRune ('\\' :: kind :: text) = unquoteEscape kind text := by
  have hmark : '\\' ≠ quotationMark := by decide
  simp [unquoteRune, hmark]

/-! ## What Quote writes is read back -/

theorem unquoteRune_byte (n : Nat) (text : List Char) :
    unquoteRune ('\\' :: 'x' :: (hexDigits 2 n ++ text)) =
      some ([UInt8.ofNat n], text) := by
  have hmod : UInt8.ofNat (n % 256) = UInt8.ofNat n := by
    apply UInt8.toNat_inj.mp
    simp
  simp [unquoteRune_escape, unquoteEscape, readHex_hexDigits, hmod]

theorem unquoteRune_short {c : Char} (h : c.toNat < 0x10000) (text : List Char) :
    unquoteRune ('\\' :: 'u' :: (hexDigits 4 c.toNat ++ text)) =
      some (String.utf8EncodeChar c, text) := by
  have hmod : c.toNat % 65536 = c.toNat := Nat.mod_eq_of_lt h
  simp [unquoteRune_escape, unquoteEscape, readHex_hexDigits, hmod]

theorem unquoteRune_long (c : Char) (text : List Char) :
    unquoteRune ('\\' :: 'U' :: (hexDigits 8 c.toNat ++ text)) =
      some (String.utf8EncodeChar c, text) := by
  have hmod : c.toNat % 4294967296 = c.toNat := Nat.mod_eq_of_lt c.val.toNat_lt
  simp [unquoteRune_escape, unquoteEscape, readHex_hexDigits, hmod]

theorem unquoteRune_letter {c letter : Char} (h : letterEscapes.lookup c = some letter)
    (text : List Char) :
    unquoteRune ('\\' :: letter :: text) = some (String.utf8EncodeChar c, text) := by
  have hmem := mem_letterEscapes h
  simp only [letterEscapes, List.mem_cons, List.not_mem_nil, or_false, Prod.mk.injEq] at hmem
  rcases hmem with ⟨rfl, rfl⟩ | ⟨rfl, rfl⟩ | ⟨rfl, rfl⟩ | ⟨rfl, rfl⟩ | ⟨rfl, rfl⟩ |
    ⟨rfl, rfl⟩ | ⟨rfl, rfl⟩ <;> rfl

section Quote

variable {isPrint : Char → Bool}

theorem unquoteRune_quoteChar (c : Char) (text : List Char) :
    unquoteRune (quoteChar isPrint c ++ text) = some (String.utf8EncodeChar c, text) := by
  unfold quoteChar
  split
  · rename_i hescaped
    rcases hescaped with rfl | rfl <;> rfl
  rename_i hplain
  obtain ⟨hmark, hbackslash⟩ := not_or.mp hplain
  split
  · simp [unquoteRune, hmark, hbackslash]
  split
  · rename_i letter hletter
    exact unquoteRune_letter hletter text
  split
  · rename_i hcontrol
    rw [utf8EncodeChar_of_lt (by omega)]
    exact unquoteRune_byte c.toNat text
  split
  · rename_i hshort
    exact unquoteRune_short hshort text
  · exact unquoteRune_long c text

theorem unquoteRune_quoteRune (r : Rune) (text : List Char) :
    unquoteRune (quoteRune isPrint r ++ text) = some (r.bytes, text) := by
  cases r with
  | char c => exact unquoteRune_quoteChar c text
  | invalid b =>
      have hbyte := unquoteRune_byte b.toNat text
      rwa [UInt8.ofNat_toNat] at hbyte

theorem unquoteRune_end (text : List Char) : unquoteRune (quotationMark :: text) = none := by
  simp [unquoteRune]

private theorem bytes_inj_of_quoted {as bs : List Rune} {s t : List Char}
    (h : as.flatMap (quoteRune isPrint) ++ quotationMark :: s =
      bs.flatMap (quoteRune isPrint) ++ quotationMark :: t) :
    as.flatMap Rune.bytes = bs.flatMap Rune.bytes ∧ s = t := by
  induction as generalizing bs with
  | nil =>
      cases bs with
      | nil => exact ⟨rfl, (List.cons.inj h).2⟩
      | cons b bs =>
          have hread := congrArg unquoteRune h
          rw [List.flatMap_nil, List.nil_append, unquoteRune_end, List.flatMap_cons,
            List.append_assoc, unquoteRune_quoteRune] at hread
          cases hread
  | cons a as ih =>
      have hread := congrArg unquoteRune h
      rw [List.flatMap_cons, List.append_assoc, unquoteRune_quoteRune] at hread
      cases bs with
      | nil =>
          rw [List.flatMap_nil, List.nil_append, unquoteRune_end] at hread
          cases hread
      | cons b bs =>
          rw [List.flatMap_cons, List.append_assoc, unquoteRune_quoteRune] at hread
          obtain ⟨hbytes, hrest⟩ := Prod.mk.inj (Option.some.inj hread)
          obtain ⟨htail, hend⟩ := ih hrest
          rw [List.flatMap_cons, List.flatMap_cons, hbytes, htail]
          exact ⟨rfl, hend⟩

/-- A literal ends where it ends, whatever is behind it, and stands for one string. -/
theorem quoteText_append_inj {a b : Bytes} {s t : List Char}
    (h : quoteText isPrint a ++ s = quoteText isPrint b ++ t) : a = b ∧ s = t := by
  simp only [quoteText, List.cons_append, List.append_assoc, List.nil_append] at h
  obtain ⟨hbytes, hrest⟩ := bytes_inj_of_quoted (List.cons.inj h).2
  rw [bytes_runes, bytes_runes] at hbytes
  exact ⟨hbytes, hrest⟩

theorem quoteText_utf8 (text : List Char) :
    quoteText isPrint (utf8 text) =
      quotationMark :: text.flatMap (quoteChar isPrint) ++ [quotationMark] := by
  rw [quoteText, runes_utf8, List.flatMap_map]
  rfl

end Quote

end DockerBastion.Foundation

import DockerBastion.Foundation.Json
import DockerBastion.Foundation.Quote

/-!
# Go string literals in JSON

Go and JSON write a string alike except for the escapes that only Go has.  A literal is
a JSON string exactly if it needs none of those, and then it is read as the same text.
-/

namespace DockerBastion.Foundation

namespace Json

/-- The control characters with the same letter in both. -/
def sharedControls : List Char := ['\x08', '\t', '\n', '\x0c', '\r']

/--
The escape of the character, if it has one, is one of JSON: no control character but
those with a letter that JSON knows, and no character beyond 0xffff that is not printed.
-/
def isShared (isPrint : Char → Bool) (c : Char) : Bool :=
  if c.toNat < 0x20 then sharedControls.contains c
  else decide (c.toNat < 0x10000) || isPrint c

variable {isPrint : Char → Bool} {tokens : List Token} {value : Units}

private theorem letter_of_sharedControls {c : Char} (h : c ∈ sharedControls) :
    (letterEscapes.lookup c).isSome = true := by
  have hall : sharedControls.all (fun c => (letterEscapes.lookup c).isSome) = true := by decide
  exact List.all_eq_true.mp hall c h

private theorem foldlM_unknown {kind : Char} (hkind : kind ≠ 'u')
    (hlookup : escapes.lookup kind = none) (rest : List Char) :
    ('\\' :: kind :: rest).foldlM lexStep ⟨tokens, .string value⟩ = none := by
  rw [List.foldlM_cons, lexStep_backslash, Option.bind_eq_bind, Option.bind_some,
    List.foldlM_cons, lexStep_escape hkind, hlookup]
  rfl

private theorem foldlM_letter {c letter : Char} (h : letterEscapes.lookup c = some letter) :
    ['\\', letter].foldlM lexStep ⟨tokens, .string value⟩ =
      if isShared isPrint c then some ⟨tokens, .string (value ++ utf16Char c)⟩ else none := by
  have hmem := mem_letterEscapes h
  simp only [letterEscapes, List.mem_cons, List.not_mem_nil, or_false, Prod.mk.injEq] at hmem
  rcases hmem with ⟨rfl, rfl⟩ | ⟨rfl, rfl⟩ | ⟨rfl, rfl⟩ | ⟨rfl, rfl⟩ | ⟨rfl, rfl⟩ |
    ⟨rfl, rfl⟩ | ⟨rfl, rfl⟩ <;> rfl

private theorem foldlM_short {c : Char} (h : c.toNat < 0x10000) :
    ('\\' :: 'u' :: hexDigits 4 c.toNat).foldlM lexStep ⟨tokens, .string value⟩ =
      some ⟨tokens, .string (value ++ utf16Char c)⟩ := by
  have hmod : c.toNat % 65536 = c.toNat := Nat.mod_eq_of_lt h
  have hstart : lexStep ⟨tokens, .escape value⟩ 'u' = some ⟨tokens, .unicode value 4 0⟩ := rfl
  rw [List.foldlM_cons, lexStep_backslash, Option.bind_eq_bind, Option.bind_some,
    List.foldlM_cons, hstart, Option.bind_eq_bind, Option.bind_some, foldlM_hexDigits]
  simp [utf16Char, h, hmod]

section Control

variable (hcontrol : ∀ c : Char, c.toNat < 0x20 → isPrint c = false)

include hcontrol

theorem foldlM_quoteChar (c : Char) :
    (quoteChar isPrint c).foldlM lexStep ⟨tokens, .string value⟩ =
      if isShared isPrint c then some ⟨tokens, .string (value ++ utf16Char c)⟩ else none := by
  unfold quoteChar
  split
  · rename_i hescaped
    rcases hescaped with rfl | rfl <;> rfl
  rename_i hplain
  obtain ⟨hmark, hbackslash⟩ := not_or.mp hplain
  split
  · rename_i hprint
    have hlarge : 0x20 ≤ c.toNat := by
      by_contra hsmall
      rw [hcontrol c (by omega)] at hprint
      cases hprint
    have hnot : ¬ c.toNat < 0x20 := by omega
    rw [List.foldlM_cons, lexStep_raw hmark hbackslash hlarge]
    simp [isShared, hnot, hprint]
  rename_i hprint
  split
  · rename_i letter hletter
    exact foldlM_letter hletter
  rename_i hletter
  split
  · rename_i hsmall
    have hshared : c ∉ sharedControls := by
      intro hmem
      have hsome := letter_of_sharedControls hmem
      rw [hletter] at hsome
      cases hsome
    have hforeign : isShared isPrint c = false := by simp [isShared, hsmall, hshared]
    rw [foldlM_unknown (by decide) rfl, hforeign]
    rfl
  rename_i hlarge
  split
  · rename_i hshort
    rw [foldlM_short hshort]
    simp [isShared, hlarge, hshort]
  · rename_i hlong
    rw [foldlM_unknown (by decide) rfl]
    simp [isShared, hlarge, hlong, hprint]

theorem foldlM_flatMap_quoteChar (text : List Char) (value : Units) :
    (text.flatMap (quoteChar isPrint)).foldlM lexStep ⟨tokens, .string value⟩ =
      if text.all (isShared isPrint) then some ⟨tokens, .string (value ++ utf16 text)⟩
      else none := by
  induction text generalizing value with
  | nil => simp [utf16]
  | cons c text ih =>
      rw [List.flatMap_cons, List.foldlM_append, foldlM_quoteChar hcontrol]
      cases hshared : isShared isPrint c with
      | true => simp [hshared, ih, utf16]
      | false => simp [hshared]

theorem foldlM_quoteText (text : List Char) :
    (quoteText isPrint (utf8 text)).foldlM lexStep ⟨tokens, .between⟩ =
      if text.all (isShared isPrint) then some ⟨tokens ++ [.string (utf16 text)], .between⟩
      else none := by
  have hstart : lexStep ⟨tokens, .between⟩ quotationMark = some ⟨tokens, .string []⟩ := rfl
  rw [quoteText_utf8, List.cons_append, List.foldlM_cons, hstart, Option.bind_eq_bind,
    Option.bind_some, List.foldlM_append, foldlM_flatMap_quoteChar hcontrol]
  split
  · rfl
  · rfl

/-- An object of one member, both of its strings written as Go literals. -/
theorem parse_quoted (name text : List Char) :
    parse (['\x7b'] ++ quoteText isPrint (utf8 name) ++ [':'] ++
        quoteText isPrint (utf8 text) ++ ['\x7d']) =
      if name.all (isShared isPrint) && text.all (isShared isPrint) then
        some (.object [(utf16 name, .string (utf16 text))])
      else none := by
  have hopen : (['\x7b'] : List Char).foldlM lexStep ⟨[], .between⟩ =
      some ⟨[.openBrace], .between⟩ := rfl
  have hcolon : ∀ tokens, ([':'] : List Char).foldlM lexStep ⟨tokens, .between⟩ =
      some ⟨tokens ++ [.colon], .between⟩ := fun _ => rfl
  have hclose : ∀ tokens, (['\x7d'] : List Char).foldlM lexStep ⟨tokens, .between⟩ =
      some ⟨tokens ++ [.closeBrace], .between⟩ := fun _ => rfl
  unfold parse lex
  simp only [List.foldlM_append, hopen, Option.bind_eq_bind, Option.bind_some,
    foldlM_quoteText hcontrol]
  cases hname : name.all (isShared isPrint) with
  | false => rfl
  | true =>
      simp only [if_true, Option.bind_some, hcolon, foldlM_quoteText hcontrol, Bool.true_and]
      cases htext : text.all (isShared isPrint) with
      | false => rfl
      | true =>
          simp only [if_true, Option.bind_some, hclose]
          rfl

/-! ## Literals inside of literals -/

theorem isShared_of_isPrint {c : Char} (h : isPrint c = true) : isShared isPrint c = true := by
  have hnot : ¬ c.toNat < 0x20 := by
    intro hsmall
    rw [hcontrol c hsmall] at h
    cases h
  simp [isShared, hnot, h]

end Control

def isPlain (c : Char) : Bool := decide (0x20 ≤ c.toNat) && decide (c.toNat < 0x80)

theorem isShared_of_isPlain {c : Char} (h : isPlain c = true) : isShared isPrint c = true := by
  simp only [isPlain, Bool.and_eq_true, decide_eq_true_eq] at h
  have hnot : ¬ c.toNat < 0x20 := by omega
  have hsmall : c.toNat < 0x10000 := by omega
  simp [isShared, hnot, hsmall]

theorem ascii_eq_utf8 {s : String} (h : s.toList.all isPlain = true) :
    ascii s = utf8 s.toList := by
  have hsmall : ∀ c ∈ s.toList, c.toNat < 0x80 := by
    intro c hc
    have hplain := List.all_eq_true.mp h c hc
    simp only [isPlain, Bool.and_eq_true, decide_eq_true_eq] at hplain
    exact hplain.2
  exact (utf8_of_lt hsmall).symm

private theorem isPlain_letter {c letter : Char}
    (h : letterEscapes.lookup c = some letter) : isPlain letter = true := by
  have hall : letterEscapes.all (fun p => isPlain p.2) = true := by decide
  exact List.all_eq_true.mp hall (c, letter) (mem_letterEscapes h)

private theorem isPlain_hexDigits {k n : Nat} {c : Char} (h : c ∈ hexDigits k n) :
    isPlain c = true := by
  obtain ⟨d, hd, rfl⟩ := mem_hexDigits h
  have hall : ∀ d < 16, isPlain d.digitChar = true := by decide
  exact hall d hd

private theorem isPlain_hexEscape {kind c : Char} {k n : Nat} (hkind : isPlain kind = true)
    (h : c ∈ '\\' :: kind :: hexDigits k n) : isPlain c = true := by
  rcases List.mem_cons.mp h with rfl | h
  · rfl
  rcases List.mem_cons.mp h with rfl | h
  · exact hkind
  · exact isPlain_hexDigits h

theorem isPlain_or_isPrint_quoteChar {c d : Char} (h : d ∈ quoteChar isPrint c) :
    isPlain d = true ∨ isPrint d = true := by
  unfold quoteChar at h
  split at h
  · rename_i hescaped
    rcases List.mem_pair.mp h with rfl | rfl
    · exact .inl rfl
    · rcases hescaped with rfl | rfl <;> exact .inl rfl
  split at h
  · rename_i hprint
    rw [List.mem_singleton.mp h]
    exact .inr hprint
  split at h
  · rename_i letter hletter
    rcases List.mem_pair.mp h with rfl | rfl
    · exact .inl rfl
    · exact .inl (isPlain_letter hletter)
  split at h
  · exact .inl (isPlain_hexEscape rfl h)
  split at h
  · exact .inl (isPlain_hexEscape rfl h)
  · exact .inl (isPlain_hexEscape rfl h)

/-- Every character of a literal is one that JSON shares. -/
theorem isShared_quoteText (hcontrol : ∀ c : Char, c.toNat < 0x20 → isPrint c = false)
    {s : Bytes} {c : Char} (h : c ∈ quoteText isPrint s) : isShared isPrint c = true := by
  have hcases : isPlain c = true ∨ isPrint c = true := by
    simp only [quoteText, List.cons_append, List.mem_cons, List.mem_append, List.mem_flatMap,
      List.not_mem_nil, or_false] at h
    rcases h with rfl | ⟨r, -, hr⟩ | rfl
    · exact .inl rfl
    · cases r with
      | char d => exact isPlain_or_isPrint_quoteChar hr
      | invalid b => exact .inl (isPlain_hexEscape rfl hr)
    · exact .inl rfl
  rcases hcases with hplain | hprint
  · exact isShared_of_isPlain hplain
  · exact isShared_of_isPrint hcontrol hprint

end Json

end DockerBastion.Foundation

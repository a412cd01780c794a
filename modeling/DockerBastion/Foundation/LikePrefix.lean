import DockerBastion.Foundation.Like
import Mathlib.Data.List.Forall2

/-!
# LIKE as a test for a prefix

A text followed by `%` is meant as the test for a prefix.  It is that test only for
texts without letters, wildcards, NUL and bytes outside ASCII; every other text also
matches some string that does not start with it.
-/

namespace DockerBastion.Foundation

/-! ## Texts that only stand for themselves -/

/-- A literal byte that is not an ASCII letter. -/
def isExact (b : UInt8) : Bool :=
  isLiteral b && (b.toNat < 65 || 90 < b.toNat) && (b.toNat < 97 || 122 < b.toNat)

theorem isExact_iff {b : UInt8} :
    isExact b = true ↔ isLiteral b = true ∧ (b.toNat < 65 ∨ 90 < b.toNat) ∧
      (b.toNat < 97 ∨ 122 < b.toNat) := by
  simp [isExact, and_assoc]

private theorem lowerAscii_inj_of_isExact {b : UInt8} (h : isExact b = true) {d : Nat}
    (heq : lowerAscii d = lowerAscii b.toNat) : d = b.toNat := by
  obtain ⟨-, hupper, hlower⟩ := isExact_iff.mp h
  unfold lowerAscii at heq
  split at heq <;> split at heq <;> omega

private theorem eq_of_folded_eq {text : Bytes} (h : ∀ b ∈ text, isExact b = true)
    {s : Bytes} (heq : folded s = folded text) : s = text := by
  induction text generalizing s with
  | nil => exact List.map_eq_nil_iff.mp heq
  | cons b text ih =>
      cases s with
      | nil => cases heq
      | cons d s =>
          obtain ⟨hhead, htail⟩ := List.cons.inj heq
          have hd : d = b :=
            UInt8.toNat_inj.mp (lowerAscii_inj_of_isExact (h b (by simp)) hhead)
          rw [hd, ih (fun c hc => h c (by simp [hc])) htail]

private theorem isLiteral_of_isExact {b : UInt8} (h : isExact b = true) :
    isLiteral b = true := (isExact_iff.mp h).1

theorem like_exact_percent {text : Bytes} (h : ∀ b ∈ text, isExact b = true) (s : Bytes) :
    like (text ++ [percent]) s = true ↔ s.take text.length = text := by
  rw [like_literal_percent fun b hb => isLiteral_of_isExact (h b hb)]
  exact ⟨eq_of_folded_eq h, fun heq => congrArg folded heq⟩

/-! ## Texts that stand for others as well -/

def Stands (c d : Nat) : Prop :=
  c = percent.toNat ∨ c = underscore.toNat ∨ lowerAscii c = lowerAscii d

private theorem forall₂_stands_self (s : List Nat) : List.Forall₂ Stands s s :=
  List.forall₂_same.2 fun _ _ => .inr (.inr rfl)

private theorem matchChars_of_stands {pattern s rest : List Nat}
    (h : List.Forall₂ Stands pattern s) (hrest : matchChars rest [] = true) :
    matchChars (pattern ++ rest) s = true := by
  induction h with
  | nil => exact hrest
  | @cons c d pattern s hstands _ ih =>
      rw [List.cons_append, matchChars]
      by_cases hpercent : c = percent.toNat
      · rw [if_pos hpercent, List.any_eq_true]
        exact ⟨s, (List.mem_tails s (d :: s)).2 (List.suffix_cons d s), ih⟩
      · rw [if_neg hpercent]
        have hhead : c = underscore.toNat ∨ lowerAscii c = lowerAscii d :=
          hstands.resolve_left hpercent
        simpa [ih] using hhead

private theorem charsFrom_append_percent (pending : Option Nat) (s : Bytes) :
    charsFrom pending (s ++ [percent]) = charsFrom pending s ++ [percent.toNat] := by
  induction s generalizing pending with
  | nil => cases pending <;> rfl
  | cons b s ih =>
      simp only [List.cons_append, charsFrom]
      cases pending with
      | none =>
          simp only [ih]
          split <;> simp
      | some c =>
          cases decide (0x80 ≤ b.toNat ∧ b.toNat < 0xc0) with
          | true => exact ih _
          | false =>
              simp only [ih]
              split <;> simp

private theorem chars_append_percent (s : Bytes) :
    ∃ rest, matchChars rest [] = true ∧ chars (s ++ [percent]) = chars s ++ rest := by
  by_cases hnul : (0 : UInt8) ∈ s
  · obtain ⟨head, tail, rfl, hhead⟩ := exists_first_sep hnul
    refine ⟨[], rfl, ?_⟩
    have hall : ∀ b ∈ head, (b != 0) = true := by
      intro b hb
      simp only [bne_iff_ne, ne_eq]
      rintro rfl
      exact hhead hb
    simp [chars, cString, List.takeWhile_append_of_pos hall]
  · have hall : ∀ b ∈ s, (b != 0) = true := by
      intro b hb
      simp only [bne_iff_ne, ne_eq]
      rintro rfl
      exact hnul hb
    refine ⟨[percent.toNat], by decide, ?_⟩
    have hself : cString s = s := List.takeWhile_eq_self_iff.mpr hall
    have hlong : cString (s ++ [percent]) = s ++ [percent] := by
      refine List.takeWhile_eq_self_iff.mpr ?_
      intro b hb
      rcases List.mem_append.mp hb with hb | hb
      · exact hall b hb
      · obtain rfl := List.mem_singleton.mp hb
        rfl
    rw [chars, chars, hself, hlong, charsFrom_append_percent]

private theorem like_of_stands {text s : Bytes}
    (h : List.Forall₂ Stands (chars text) (chars s)) :
    like (text ++ [percent]) s = true := by
  obtain ⟨rest, hrest, hchars⟩ := chars_append_percent text
  rw [like, hchars]
  exact matchChars_of_stands h hrest

private theorem chars_append_literal {front : Bytes} (h : ∀ b ∈ front, isLiteral b = true)
    (s : Bytes) : chars (front ++ s) = front.map UInt8.toNat ++ chars s := by
  induction front with
  | nil => rfl
  | cons b front ih =>
      obtain ⟨hpos, hlt, -, -⟩ :
          0 < b.toNat ∧ b.toNat < 0x80 ∧ b ≠ percent ∧ b ≠ underscore := by
        simpa [isLiteral, and_assoc] using h b (by simp)
      rw [List.cons_append, chars_cons_single hpos (by omega),
        ih fun c hc => h c (by simp [hc])]
      rfl

private theorem exists_other_byte {b : UInt8} (hpos : 0 < b.toNat) (hlt : b.toNat < 0x80)
    (h : isExact b = false) :
    ∃ d : UInt8, d ≠ b ∧ 0 < d.toNat ∧ d.toNat < 0x80 ∧ Stands b.toNat d.toNat := by
  by_cases hwildcard : b = percent ∨ b = underscore
  · refine ⟨48, ?_, by decide, by decide, ?_⟩
    · rintro rfl
      revert hwildcard
      decide
    · rcases hwildcard with rfl | rfl
      · exact .inl rfl
      · exact .inr (.inl rfl)
  obtain ⟨hpercent, hunderscore⟩ := not_or.mp hwildcard
  have hletter : (65 ≤ b.toNat ∧ b.toNat ≤ 90) ∨ (97 ≤ b.toNat ∧ b.toNat ≤ 122) := by
    by_contra hnot
    have hexact : isExact b = true := by
      rw [isExact_iff]
      refine ⟨by simp [isLiteral, hpos, hlt, hpercent, hunderscore], ?_, ?_⟩ <;> omega
    rw [h] at hexact
    cases hexact
  -- the same letter in the other case
  obtain ⟨n, hne, hnpos, hnlt, hcase⟩ : ∃ n, n ≠ b.toNat ∧ 0 < n ∧ n < 0x80 ∧
      lowerAscii b.toNat = lowerAscii n := by
    unfold lowerAscii
    rcases hletter with hupper | hlower
    · refine ⟨b.toNat + 32, by omega, by omega, by omega, ?_⟩
      split <;> split <;> omega
    · refine ⟨b.toNat - 32, by omega, by omega, by omega, ?_⟩
      split <;> split <;> omega
  have hn : (UInt8.ofNat n).toNat = n := by
    rw [UInt8.toNat_ofNat', Nat.mod_eq_of_lt (by omega)]
  refine ⟨UInt8.ofNat n, ?_, by omega, by omega, .inr (.inr (hn.symm ▸ hcase))⟩
  rintro rfl
  exact hne hn.symm

/-- The same characters, but no continuation byte stands in front. -/
private def respelled : Bytes → Bytes
  | [] => []
  | b :: s =>
      if 0x80 ≤ b.toNat ∧ b.toNat < 0xc0 then 0xc2 :: b :: respelled s
      else b :: s

private theorem cString_respelled (s : Bytes) :
    cString (respelled s) = respelled (cString s) := by
  induction s with
  | nil => rfl
  | cons b s ih =>
      by_cases hcont : 0x80 ≤ b.toNat ∧ b.toNat < 0xc0
      · rw [respelled, if_pos hcont, cString_cons (by decide), cString_cons (by omega),
          cString_cons (by omega), respelled, if_pos hcont, ih]
      · rw [respelled, if_neg hcont]
        by_cases hnul : b = 0
        · subst hnul
          rfl
        · rw [cString_cons (toNat_pos hnul), respelled, if_neg hcont]

private theorem charsFrom_some_respelled (c : Nat) (s : Bytes) :
    charsFrom (some c) (respelled s) = utf8Final c :: charsFrom none (respelled s) := by
  cases s with
  | nil => rfl
  | cons b s =>
      by_cases hcont : 0x80 ≤ b.toNat ∧ b.toNat < 0xc0
      · rw [respelled, if_pos hcont]
        rfl
      · rw [respelled, if_neg hcont]
        simp [charsFrom, hcont]

private theorem charsFrom_respelled (s : Bytes) :
    charsFrom none (respelled s) = charsFrom none s := by
  induction s with
  | nil => rfl
  | cons b s ih =>
      by_cases hcont : 0x80 ≤ b.toNat ∧ b.toNat < 0xc0
      · have hvalue : (2 * 64 + b.toNat % 64) % 2 ^ 32 = b.toNat := by omega
        have hfinal : utf8Final b.toNat = b.toNat := by
          unfold utf8Final
          split <;> omega
        have hlow : ¬ 0xc0 ≤ b.toNat := by omega
        have hlead : charsFrom none (0xc2 :: b :: respelled s) =
            charsFrom (some b.toNat) (respelled s) := by
          conv => rhs; rw [← hvalue]
          simp [charsFrom, hcont, utf8Lead]
        rw [respelled, if_pos hcont, hlead, charsFrom_some_respelled, hfinal, ih]
        simp [charsFrom, hlow]
      · rw [respelled, if_neg hcont]

private theorem exists_respelling {b : UInt8} (h : 0x80 ≤ b.toNat) (back : Bytes) :
    ∃ s : Bytes, s.head? ≠ some b ∧ chars s = chars (b :: back) := by
  by_cases hcont : b.toNat < 0xc0
  · refine ⟨respelled (b :: back), ?_, ?_⟩
    · rw [respelled, if_pos ⟨h, hcont⟩]
      rintro heq
      cases heq
      exact absurd hcont (by decide)
    · rw [chars, cString_respelled, charsFrom_respelled]
      rfl
  · -- the value of the lead byte, in a continuation byte after a lead byte of value zero
    have hlead : utf8Lead b.toNat < 64 := by
      have := b.toNat_lt
      unfold utf8Lead
      split_ifs <;> omega
    obtain ⟨lead, hne, hzero, hlarge⟩ : ∃ lead : UInt8, lead ≠ b ∧
        utf8Lead lead.toNat = 0 ∧ 0xc0 ≤ lead.toNat := by
      by_cases hb : b = 0xc0
      · exact ⟨0xe0, by subst hb; decide, by decide, by decide⟩
      · exact ⟨0xc0, fun heq => hb heq.symm, by decide, by decide⟩
    have hvalue : (UInt8.ofNat (0x80 + utf8Lead b.toNat)).toNat = 0x80 + utf8Lead b.toNat := by
      rw [UInt8.toNat_ofNat', Nat.mod_eq_of_lt (by omega)]
    refine ⟨lead :: UInt8.ofNat (0x80 + utf8Lead b.toNat) :: back, ?_, ?_⟩
    · simpa using hne
    · have hfirst : ∀ (c : UInt8) (s : Bytes), 0xc0 ≤ c.toNat →
          charsFrom none (c :: s) = charsFrom (some (utf8Lead c.toNat)) s := by
        intro c s hc
        simp [charsFrom, hc]
      have hsecond : (0 * 64 + (0x80 + utf8Lead b.toNat) % 64) % 2 ^ 32 =
          utf8Lead b.toNat := by
        omega
      rw [chars, chars, cString_cons (by omega), cString_cons (by omega),
        cString_cons (by omega), hfirst lead _ hlarge, hfirst b _ (by omega), hzero,
        charsFrom, hvalue, hsecond]
      rw [hvalue]
      exact decide_eq_true (by omega)

private theorem exists_stands {b : UInt8} (h : isExact b = false) (back : Bytes) :
    ∃ s : Bytes, s.head? ≠ some b ∧ List.Forall₂ Stands (chars (b :: back)) (chars s) := by
  by_cases hnul : b = 0
  · subst hnul
    refine ⟨[], by simp, ?_⟩
    rw [chars_nul]
    exact .nil
  have hpos := toNat_pos hnul
  by_cases hlt : b.toNat < 0x80
  · obtain ⟨d, hne, hdpos, hdlt, hstands⟩ := exists_other_byte hpos hlt h
    refine ⟨d :: back, by simpa using hne, ?_⟩
    rw [chars_cons_single hpos (by omega), chars_cons_single hdpos (by omega)]
    exact .cons hstands (forall₂_stands_self _)
  · obtain ⟨s, hhead, hchars⟩ := exists_respelling (by omega : 0x80 ≤ b.toNat) back
    exact ⟨s, hhead, hchars ▸ forall₂_stands_self _⟩

private theorem exists_first_inexact {text : Bytes} (h : ¬ ∀ b ∈ text, isExact b = true) :
    ∃ front b back, text = front ++ b :: back ∧ (∀ c ∈ front, isExact c = true) ∧
      isExact b = false := by
  induction text with
  | nil => exact absurd (by simp) h
  | cons b text ih =>
      cases hb : isExact b with
      | false => exact ⟨[], b, text, rfl, by simp, hb⟩
      | true =>
          have htext : ¬ ∀ c ∈ text, isExact c = true := by
            intro hall
            refine h fun c hc => ?_
            rcases List.mem_cons.mp hc with rfl | hc
            · exact hb
            · exact hall c hc
          obtain ⟨front, d, back, rfl, hfront, hd⟩ := ih htext
          refine ⟨b :: front, d, back, rfl, ?_, hd⟩
          intro c hc
          rcases List.mem_cons.mp hc with rfl | hc
          · exact hb
          · exact hfront c hc

/-! ## The exact texts -/

/--
A text followed by `%` matches exactly the strings that start with the text if and
only if the text consists of ASCII bytes other than NUL, letters and the wildcards.
-/
theorem like_percent_exact_iff (text : Bytes) :
    (∀ s, like (text ++ [percent]) s = true ↔ text <+: s) ↔
      ∀ b ∈ text, isExact b = true := by
  constructor
  · intro hexact
    by_contra hnot
    obtain ⟨front, b, back, rfl, hfront, hb⟩ := exists_first_inexact hnot
    obtain ⟨s, hhead, hstands⟩ := exists_stands hb back
    have hliteral : ∀ c ∈ front, isLiteral c = true := fun c hc =>
      isLiteral_of_isExact (hfront c hc)
    have hlike : like (front ++ b :: back ++ [percent]) (front ++ s) = true := by
      refine like_of_stands ?_
      rw [chars_append_literal hliteral, chars_append_literal hliteral]
      exact List.rel_append (forall₂_stands_self _) hstands
    obtain ⟨rest, hrest⟩ := (List.prefix_append_right_inj front).mp ((hexact _).mp hlike)
    rw [← hrest] at hhead
    exact hhead rfl
  · intro hexact s
    rw [like_exact_percent hexact, List.prefix_iff_eq_take, eq_comm]

end DockerBastion.Foundation

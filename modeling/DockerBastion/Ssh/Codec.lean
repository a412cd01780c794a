import DockerBastion.Ssh.Wire

/-!
# What `Unmarshal` accepts

The packets that `Unmarshal` accepts are those of the grammar, and a packet that
`Marshal` made is read back as it was.  The one panic it has is that of
`parseString`, reached behind fields that are well formed.
-/

namespace DockerBastion.Ssh

open Foundation Sshd

def Kind.isFramed : Kind → Bool
  | .string | .bytes | .nameList | .bigInt => true
  | _ => false

/-- A string field stands behind well-formed fields, and `parseString` panics on it. -/
def OverflowsFields : List Kind → Bytes → Prop
  | [], _ => False
  | k :: ks, b =>
      (k.isFramed = true ∧ Overflows b) ∨
        ∃ v first others, b = first ++ others ∧ Encodes k v first ∧ OverflowsFields ks others

/-- Names hold no commas, and one empty name is written as no name is. -/
def NamesFit (names : List Bytes) : Prop := (∀ name ∈ names, comma ∉ name) ∧ names ≠ [[]]

def FieldFits : (k : Kind) → k.Value → Prop
  | .nameList, names => NamesFit names
  | _, _ => True

def Fits : (ks : List Kind) → Record ks → Prop
  | [], _ => True
  | k :: ks, (v, r) => FieldFits k v ∧ Fits ks r

theorem bind_eq_ok {α β : Type} {x : Outcome α} {f : α → Outcome β} {b : β} :
    x >>= f = .ok b ↔ ∃ a, x = .ok a ∧ f a = .ok b := by
  cases x with
  | ok a =>
      constructor
      · intro h
        exact ⟨a, rfl, h⟩
      · rintro ⟨_, ha, h⟩
        cases ha
        exact h
  | error fault =>
      constructor
      · intro h
        cases h
      · rintro ⟨_, ha, -⟩
        cases ha

theorem bind_eq_error {α β : Type} {x : Outcome α} {f : α → Outcome β} {fault : Fault} :
    x >>= f = .error fault ↔ x = .error fault ∨ ∃ a, x = .ok a ∧ f a = .error fault := by
  cases x with
  | ok a =>
      constructor
      · intro h
        exact .inr ⟨a, rfl, h⟩
      · rintro (h | ⟨_, ha, h⟩)
        · cases h
        · cases ha
          exact h
  | error fault' =>
      constructor
      · intro h
        cases h
        exact .inl rfl
      · rintro (h | ⟨_, ha, -⟩)
        · cases h
          rfl
        · cases ha

theorem orPanic_eq_ok_iff {α : Type} {x : Except Panic α} {a : α} :
    orPanic x = .ok a ↔ x = .ok a := by
  cases x <;> simp [orPanic]

theorem orPanic_eq_error_iff {α : Type} {x : Except Panic α} {fault : Fault} :
    orPanic x = .error fault ↔ ∃ p, fault = .panic p ∧ x = .error p := by
  cases x <;> simp [orPanic, eq_comm]

/-! ## One field -/

section Framed

variable {α : Type} {failure : SshError} {f : Bytes → α} {b rest : Bytes} {v : α}

theorem framed_eq_ok_iff (hb : b.length < 2 ^ 32) :
    framed failure f b = .ok (v, rest) ↔
      ∃ first, (∃ out, EncodesString out first ∧ v = f out) ∧ b = first ++ rest := by
  constructor
  · intro h
    obtain ⟨parsed, hparsed, h⟩ := bind_eq_ok.mp h
    rw [orPanic_eq_ok_iff] at hparsed
    match parsed, hparsed, h with
    | some (out, rest'), hparsed, h =>
        cases h
        obtain ⟨first, hfirst, hsplit⟩ := (parseString_eq_some_iff hb).mp hparsed
        exact ⟨first, ⟨out, hfirst, rfl⟩, hsplit⟩
  · rintro ⟨first, ⟨out, hfirst, rfl⟩, hsplit⟩
    have hparsed := (parseString_eq_some_iff hb).mpr ⟨first, hfirst, hsplit⟩
    exact bind_eq_ok.mpr ⟨_, orPanic_eq_ok_iff.mpr hparsed, rfl⟩

theorem framed_id_eq_ok_iff {out : Bytes} (hb : b.length < 2 ^ 32) :
    framed failure (fun out => out) b = .ok (out, rest) ↔
      ∃ first, EncodesString out first ∧ b = first ++ rest := by
  simpa using framed_eq_ok_iff (f := fun out => out) hb

theorem framed_panics_iff (hb : b.length < 2 ^ 32) {p : Panic} :
    framed failure f b = .error (.panic p) ↔ p = .sliceOutOfRange ∧ Overflows b := by
  rw [← parseString_eq_error_iff hb]
  constructor
  · intro h
    rcases bind_eq_error.mp h with h | ⟨parsed, -, h⟩
    · obtain ⟨p', hp, h⟩ := orPanic_eq_error_iff.mp h
      cases hp
      exact h
    · match parsed, h with
      | none, h => cases h
      | some (out, rest), h => cases h
  · intro h
    exact bind_eq_error.mpr (.inl (orPanic_eq_error_iff.mpr ⟨p, rfl, h⟩))

end Framed

theorem readField_eq_ok_iff {i : Nat} {k : Kind} {b rest : Bytes} {v : k.Value}
    (hb : b.length < 2 ^ 32) :
    readField i k b = .ok (v, rest) ↔
      ∃ first, Encodes k v first ∧ b = first ++ rest ∧ (k = .rest → rest = []) := by
  cases k with
  | bool =>
      cases b with
      | nil =>
          refine iff_of_false (by simp [readField]) ?_
          rintro ⟨first, ⟨x, rfl, -⟩, hsplit, -⟩
          cases hsplit
      | cons x b =>
          constructor
          · intro h
            cases h
            exact ⟨[x], ⟨x, rfl, rfl⟩, rfl, by simp⟩
          · rintro ⟨first, ⟨y, rfl, rfl⟩, hsplit, -⟩
            cases hsplit
            rfl
  | array n =>
      simp only [readField]
      constructor
      · intro h
        split at h
        · cases h
          exact ⟨_, rfl, (List.take_append_drop n b).symm, by simp⟩
        · cases h
      · rintro ⟨first, rfl, rfl, -⟩
        have htake : (v.val ++ rest).take n = v.val := List.take_left' v.property
        have hdrop : (v.val ++ rest).drop n = rest := List.drop_left' v.property
        have hlength : ((v.val ++ rest).take n).length = n := by
          rw [htake]
          exact v.property
        rw [dif_pos hlength, hdrop]
        exact congrArg (fun value => Except.ok (value, rest)) (Subtype.ext htake)
  | uint32 =>
      constructor
      · intro h
        obtain ⟨parsed, hparsed, h⟩ := bind_eq_ok.mp h
        rw [orPanic_eq_ok_iff] at hparsed
        match parsed, hparsed, h with
        | some (n, rest'), hparsed, h =>
            cases h
            exact ⟨_, rfl, parseUint32_eq_some_iff.mp hparsed, by simp⟩
      · rintro ⟨first, rfl, hsplit, -⟩
        have hparsed := parseUint32_eq_some_iff.mpr hsplit
        exact bind_eq_ok.mpr ⟨_, orPanic_eq_ok_iff.mpr hparsed, rfl⟩
  | rest =>
      constructor
      · intro h
        cases h
        exact ⟨b, rfl, by simp, fun _ => rfl⟩
      · rintro ⟨first, rfl, rfl, hrest⟩
        rw [hrest rfl, List.append_nil]
        rfl
  | string => exact (framed_id_eq_ok_iff hb).trans (by simp [Encodes])
  | bytes => exact (framed_id_eq_ok_iff hb).trans (by simp [Encodes])
  | nameList => exact (framed_eq_ok_iff hb).trans (exists_congr fun _ => by simp [Encodes])
  | bigInt => exact (framed_eq_ok_iff hb).trans (exists_congr fun _ => by simp [Encodes])

theorem parseUint32_ne_error {b : Bytes} {p : Panic} : parseUint32 b ≠ .error p := by
  intro h
  rcases Nat.lt_or_ge b.length 4 with hshort | hlong
  · rw [parseUint32, if_pos hshort] at h
    cases h
  · rw [parseUint32_of_length hlong] at h
    cases h

theorem readField_uint32_ne_panic {i : Nat} {b : Bytes} {p : Panic} :
    readField i .uint32 b ≠ .error (.panic p) := by
  intro h
  rcases bind_eq_error.mp h with h | ⟨parsed, -, h⟩
  · obtain ⟨p', -, h⟩ := orPanic_eq_error_iff.mp h
    exact parseUint32_ne_error h
  · cases parsed with
    | none => cases h
    | some parsed => cases h

theorem readField_panics_iff {i : Nat} {k : Kind} {b : Bytes} {p : Panic}
    (hb : b.length < 2 ^ 32) :
    readField i k b = .error (.panic p) ↔
      p = .sliceOutOfRange ∧ k.isFramed = true ∧ Overflows b := by
  cases k with
  | bool => cases b <;> simp [readField, Kind.isFramed]
  | array n =>
      simp only [readField]
      split <;> simp [Kind.isFramed]
  | uint32 =>
      exact iff_of_false (readField_uint32_ne_panic (i := i)) (by simp [Kind.isFramed])
  | rest => simp [readField, Kind.isFramed]
  | string => exact (framed_panics_iff hb).trans (by simp [Kind.isFramed])
  | bytes => exact (framed_panics_iff hb).trans (by simp [Kind.isFramed])
  | nameList => exact (framed_panics_iff hb).trans (by simp [Kind.isFramed])
  | bigInt => exact (framed_panics_iff hb).trans (by simp [Kind.isFramed])

/-! ## All fields -/

theorem length_others_le {first others : Bytes} (h : (first ++ others).length < 2 ^ 32) :
    others.length < 2 ^ 32 := by
  rw [List.length_append] at h
  omega

theorem readFields_eq_ok_iff {i : Nat} {ks : List Kind} {b : Bytes} {r : Record ks}
    (hks : restLast ks = true) (hb : b.length < 2 ^ 32) :
    readFields i ks b = .ok (r, []) ↔ EncodesFields ks r b := by
  induction ks generalizing i b with
  | nil => simp [readFields, EncodesFields]
  | cons k ks ih =>
      obtain ⟨v, r⟩ := r
      simp only [restLast, Bool.and_eq_true, Bool.or_eq_true, decide_eq_true_eq,
        List.isEmpty_iff] at hks
      obtain ⟨hlast, hks⟩ := hks
      constructor
      · intro h
        obtain ⟨⟨v', others⟩, hv, h⟩ := bind_eq_ok.mp h
        obtain ⟨⟨r', rest⟩, hr, h⟩ := bind_eq_ok.mp h
        cases h
        obtain ⟨first, hfirst, rfl, -⟩ := (readField_eq_ok_iff hb).mp hv
        exact ⟨first, others, rfl, hfirst, (ih hks (length_others_le hb)).mp hr⟩
      · rintro ⟨first, others, rfl, hfirst, hothers⟩
        have hrest : k = .rest → others = [] := by
          rintro rfl
          rcases hlast with hne | rfl
          · exact absurd rfl hne
          · exact hothers
        have hv : readField i k (first ++ others) = .ok (v, others) :=
          (readField_eq_ok_iff hb).mpr ⟨first, hfirst, rfl, hrest⟩
        have hr : readFields (i + 1) ks others = .ok (r, []) :=
          (ih hks (length_others_le hb)).mpr hothers
        exact bind_eq_ok.mpr ⟨_, hv, bind_eq_ok.mpr ⟨_, hr, rfl⟩⟩

theorem readFields_panics_iff {i : Nat} {ks : List Kind} {b : Bytes} {p : Panic}
    (hks : restLast ks = true) (hb : b.length < 2 ^ 32) :
    readFields i ks b = .error (.panic p) ↔ p = .sliceOutOfRange ∧ OverflowsFields ks b := by
  induction ks generalizing i b with
  | nil => simp [readFields, OverflowsFields]
  | cons k ks ih =>
      simp only [restLast, Bool.and_eq_true, Bool.or_eq_true, decide_eq_true_eq,
        List.isEmpty_iff] at hks
      obtain ⟨hlast, hks⟩ := hks
      constructor
      · intro h
        rw [readFields] at h
        rcases bind_eq_error.mp h with hv | ⟨⟨v, others⟩, hv, hothers⟩
        · obtain ⟨hp, hover⟩ := (readField_panics_iff hb).mp hv
          exact ⟨hp, .inl hover⟩
        · obtain ⟨first, hfirst, rfl, -⟩ := (readField_eq_ok_iff hb).mp hv
          rcases bind_eq_error.mp hothers with hr | ⟨⟨r, rest⟩, -, hreturn⟩
          · obtain ⟨hp, hover⟩ := (ih hks (length_others_le hb)).mp hr
            exact ⟨hp, .inr ⟨v, first, others, rfl, hfirst, hover⟩⟩
          · cases hreturn
      · rintro ⟨rfl, hover | ⟨v, first, others, rfl, hfirst, hover⟩⟩
        · exact bind_eq_error.mpr (.inl ((readField_panics_iff hb).mpr ⟨rfl, hover⟩))
        · have hrest : k = .rest → others = [] := by
            rintro rfl
            rcases hlast with hne | rfl
            · exact absurd rfl hne
            · exact absurd hover (by simp [OverflowsFields])
          have hv : readField i k (first ++ others) = .ok (v, others) :=
            (readField_eq_ok_iff hb).mpr ⟨first, hfirst, rfl, hrest⟩
          have hr : readFields (i + 1) ks others = .error (.panic .sliceOutOfRange) :=
            (ih hks (length_others_le hb)).mpr ⟨rfl, hover⟩
          exact bind_eq_error.mpr (.inr ⟨_, hv, bind_eq_error.mpr (.inl hr)⟩)

/-! ## Packets -/

/-- The accepted packets are the tag and the encodings of the fields, without more bytes. -/
theorem unmarshal_eq_ok_iff (s : Schema) {packet : Bytes} {r : Record s.kinds}
    (h : packet.length < 2 ^ 32) :
    unmarshal s packet = .ok r ↔
      ∃ data, packet = s.tag :: data ∧ EncodesFields s.kinds r data := by
  cases packet with
  | nil => simp [unmarshal]
  | cons tag data =>
      have hdata : data.length < 2 ^ 32 := by
        rw [List.length_cons] at h
        omega
      simp only [unmarshal, List.cons.injEq]
      by_cases htag : tag = s.tag
      · subst htag
        have hread := readFields_eq_ok_iff (i := 0) (r := r) s.restLast hdata
        constructor
        · intro hok
          simp only [ne_eq, not_true_eq_false, if_false] at hok
          obtain ⟨⟨r', rest⟩, hr, hok⟩ := bind_eq_ok.mp hok
          cases rest with
          | nil =>
              cases hok
              exact ⟨data, ⟨rfl, rfl⟩, hread.mp hr⟩
          | cons x rest => cases hok
        · rintro ⟨_, ⟨-, rfl⟩, hfields⟩
          simp only [ne_eq, not_true_eq_false, if_false]
          exact bind_eq_ok.mpr ⟨_, hread.mpr hfields, rfl⟩
      · refine iff_of_false ?_ ?_
        · simp only [ne_eq, htag, not_false_eq_true, if_true]
          intro hok
          cases hok
        · rintro ⟨_, ⟨heq, -⟩, -⟩
          exact htag heq

/--
`Unmarshal` panics exactly on packets with the right tag in which a string field behind
well-formed fields has a length of at least `2 ^ 32 - 4`.
-/
theorem unmarshal_panics_iff (s : Schema) {packet : Bytes} {p : Panic}
    (h : packet.length < 2 ^ 32) :
    unmarshal s packet = .error (.panic p) ↔
      p = .sliceOutOfRange ∧ ∃ data, packet = s.tag :: data ∧ OverflowsFields s.kinds data := by
  cases packet with
  | nil => simp [unmarshal]
  | cons tag data =>
      have hdata : data.length < 2 ^ 32 := by
        rw [List.length_cons] at h
        omega
      simp only [unmarshal, List.cons.injEq]
      by_cases htag : tag = s.tag
      · subst htag
        have hread := readFields_panics_iff (i := 0) (p := p) s.restLast hdata
        simp only [ne_eq, not_true_eq_false, if_false]
        constructor
        · intro hpanic
          rcases bind_eq_error.mp hpanic with hr | ⟨⟨r, rest⟩, -, hpanic⟩
          · obtain ⟨hp, hover⟩ := hread.mp hr
            exact ⟨hp, data, ⟨trivial, rfl⟩, hover⟩
          · cases rest with
            | nil => cases hpanic
            | cons x rest => cases hpanic
        · rintro ⟨hp, _, ⟨-, rfl⟩, hover⟩
          exact bind_eq_error.mpr (.inl (hread.mpr ⟨hp, hover⟩))
      · refine iff_of_false ?_ ?_
        · simp only [ne_eq, htag, not_false_eq_true, if_true]
          intro hpanic
          cases hpanic
        · rintro ⟨-, _, ⟨heq, -⟩, -⟩
          exact htag heq

/-! ## Written and read back -/

theorem nameList_intercalate {names : List Bytes} (h : NamesFit names) :
    nameList ([comma].intercalate names) = names := by
  obtain ⟨hcommas, hone⟩ := h
  cases names with
  | nil => rfl
  | cons name names =>
      have hsplit : ([comma].intercalate (name :: names)).splitOn comma = name :: names :=
        List.splitOn_intercalate comma hcommas (by simp)
      have hne : [comma].intercalate (name :: names) ≠ [] := by
        intro hempty
        rw [hempty, List.splitOn_nil] at hsplit
        exact hone hsplit.symm
      rw [nameList, if_neg hne, hsplit]

theorem encodesString_appendString {s : Bytes} (h : (appendString s).length < 2 ^ 32) :
    EncodesString s (appendString s) := by
  rw [length_appendString] at h
  exact ⟨by omega, rfl⟩

theorem encodes_writeField {k : Kind} {v : k.Value} (hfits : FieldFits k v)
    (h : (writeField k v).length < 2 ^ 32) : Encodes k v (writeField k v) := by
  cases k with
  | bool =>
      refine ⟨_, rfl, ?_⟩
      cases v <;> rfl
  | array n => rfl
  | uint32 => rfl
  | string => exact encodesString_appendString h
  | bytes => exact encodesString_appendString h
  | rest => rfl
  | nameList =>
      exact ⟨_, encodesString_appendString h, (nameList_intercalate hfits).symm⟩
  | bigInt =>
      exact ⟨_, encodesString_appendString h, (ofTwosComplement_twosComplement v).symm⟩

theorem encodesFields_writeFields {ks : List Kind} {r : Record ks} (hfits : Fits ks r)
    (h : (writeFields ks r).length < 2 ^ 32) : EncodesFields ks r (writeFields ks r) := by
  induction ks with
  | nil => rfl
  | cons k ks ih =>
      obtain ⟨v, r⟩ := r
      rw [writeFields, List.length_append] at h
      exact ⟨_, _, rfl, encodes_writeField hfits.1 (by omega), ih hfits.2 (by omega)⟩

/-- What `Marshal` writes is read back, as long as lengths fit into 32 bits. -/
theorem unmarshal_marshal (s : Schema) (r : Record s.kinds) (hfits : Fits s.kinds r)
    (h : (marshal s r).length < 2 ^ 32) : unmarshal s (marshal s r) = .ok r := by
  refine (unmarshal_eq_ok_iff s h).mpr ⟨_, rfl, encodesFields_writeFields hfits ?_⟩
  rw [marshal, List.length_cons] at h
  omega

/--
What `Unmarshal` makes of a packet: it accepts what the grammar of the message accepts,
it panics where a string behind well-formed fields declares a length of at least
`2 ^ 32 - 4`, and it reads back what `Marshal` has written.
-/
theorem unmarshal_exact (s : Schema) {packet : Bytes} (h : packet.length < 2 ^ 32) :
    (∀ r, unmarshal s packet = .ok r ↔
        ∃ data, packet = s.tag :: data ∧ EncodesFields s.kinds r data) ∧
      (∀ p, unmarshal s packet = .error (.panic p) ↔
        p = .sliceOutOfRange ∧
          ∃ data, packet = s.tag :: data ∧ OverflowsFields s.kinds data) ∧
      ∀ r, Fits s.kinds r → packet = marshal s r → unmarshal s packet = .ok r := by
  refine ⟨fun r => unmarshal_eq_ok_iff s h, fun p => unmarshal_panics_iff s h, ?_⟩
  rintro r hfits rfl
  exact unmarshal_marshal s r hfits h

theorem unmarshal_exact_failureMsg :
    unmarshal userAuthFailureMsg (marshal userAuthFailureMsg ([ascii "password"], false, ())) =
      .ok ([ascii "password"], false, ()) := by
  have hnames : NamesFit [ascii "password"] := by
    constructor
    · decide
    · decide
  exact (unmarshal_exact userAuthFailureMsg (by decide)).2.2 _ ⟨hnames, trivial, trivial⟩ rfl

end DockerBastion.Ssh

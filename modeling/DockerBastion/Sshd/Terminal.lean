import DockerBastion.Sshd.Channel

/-!
# Terminal sizes

A client sends the size of its terminal in a `pty-req`, behind the name of the
terminal, and in a `window-change`.  The request loop takes one of the four bytes
of the length of the name and adds 4 to it in that byte.  What the loop hands to
the pty is compared here with what the client wrote.
-/

namespace DockerBastion.Sshd

open Foundation

/-! ## What the client writes -/

def uint16 (n : Nat) : Bytes := [UInt8.ofNat (n / 2 ^ 8), UInt8.ofNat n]

def uint32 (n : Nat) : Bytes := uint16 (n / 2 ^ 16) ++ uint16 n

structure PtyReq where
  term : Bytes
  columns : Nat
  rows : Nat
  width : Nat
  height : Nat
  modes : Bytes
  term_lt : term.length < 2 ^ 32
  columns_lt : columns < 2 ^ 32
  rows_lt : rows < 2 ^ 32
  width_lt : width < 2 ^ 32
  height_lt : height < 2 ^ 32
  modes_lt : modes.length < 2 ^ 32

structure WindowChange where
  columns : Nat
  rows : Nat
  width : Nat
  height : Nat
  columns_lt : columns < 2 ^ 32
  rows_lt : rows < 2 ^ 32
  width_lt : width < 2 ^ 32
  height_lt : height < 2 ^ 32

def PtyReq.afterTerm (p : PtyReq) : Bytes :=
  uint32 p.columns ++ (uint32 p.rows ++ (uint32 p.width ++ (uint32 p.height ++
    (uint32 p.modes.length ++ p.modes))))

def PtyReq.payload (p : PtyReq) : Bytes :=
  uint32 p.term.length ++ (p.term ++ p.afterTerm)

def WindowChange.payload (c : WindowChange) : Bytes :=
  uint32 c.columns ++ (uint32 c.rows ++ (uint32 c.width ++ uint32 c.height))

/-- Handling the request hands a terminal of this size to the pty first. -/
def SetsSize (req : Request) (columns rows : Nat) : Prop :=
  ∃ ws effects, handleRequest req = .ok (.setWinsize ws :: effects) ∧
    ws.width.toNat = columns ∧ ws.height.toNat = rows

/-! ## Reading integers -/

private theorem toNat_or_shiftLeft (low high : UInt32) {i : Nat} (hi : i < 32)
    (hlow : low.toNat < 2 ^ i) (hhigh : high.toNat * 2 ^ i < 2 ^ 32) :
    (low ||| high <<< UInt32.ofNat i).toNat = low.toNat + high.toNat * 2 ^ i := by
  rw [UInt32.toNat_or, UInt32.toNat_shiftLeft, UInt32.toNat_ofNat',
    Nat.mod_eq_of_lt (by omega : i < 2 ^ 32), Nat.mod_eq_of_lt hi, Nat.shiftLeft_eq,
    Nat.mod_eq_of_lt hhigh, Nat.or_comm, ← Nat.shiftLeft_eq,
    ← Nat.shiftLeft_add_eq_or_of_lt hlow, Nat.shiftLeft_eq, Nat.add_comm]

theorem bigEndianUint32_eq (b0 b1 b2 b3 : UInt8) (rest : Bytes) :
    ∃ w, bigEndianUint32 (b0 :: b1 :: b2 :: b3 :: rest) = .ok w ∧
      w.toNat = b0.toNat * 2 ^ 24 + b1.toNat * 2 ^ 16 + b2.toNat * 2 ^ 8 + b3.toNat := by
  refine ⟨_, rfl, ?_⟩
  have h0 := b0.toNat_lt
  have h1 := b1.toNat_lt
  have h2 := b2.toNat_lt
  have h3 := b3.toNat_lt
  -- the bytes are put together from the lowest to the highest
  have hlow := toNat_or_shiftLeft b3.toUInt32 b2.toUInt32 (i := 8) (by omega)
    (by simpa using h3) (by simp; omega)
  simp only [UInt8.toNat_toUInt32] at hlow
  have hmid := toNat_or_shiftLeft (b3.toUInt32 ||| b2.toUInt32 <<< UInt32.ofNat 8)
    b1.toUInt32 (i := 16) (by omega) (by omega) (by simp; omega)
  rw [hlow, UInt8.toNat_toUInt32] at hmid
  have hhigh := toNat_or_shiftLeft
    (b3.toUInt32 ||| b2.toUInt32 <<< UInt32.ofNat 8 ||| b1.toUInt32 <<< UInt32.ofNat 16)
    b0.toUInt32 (i := 24) (by omega) (by omega) (by simp; omega)
  rw [hmid, UInt8.toNat_toUInt32] at hhigh
  exact hhigh.trans (by omega)

private theorem uint16_eq_iff {n : Nat} (hn : n < 2 ^ 16) (b0 b1 : UInt8) :
    [b0, b1] = uint16 n ↔ b0.toNat * 2 ^ 8 + b1.toNat = n := by
  have h0 := b0.toNat_lt
  have h1 := b1.toNat_lt
  rw [uint16, List.cons.injEq, List.cons.injEq, ← UInt8.toNat_inj, ← UInt8.toNat_inj,
    UInt8.toNat_ofNat', UInt8.toNat_ofNat']
  constructor
  · rintro ⟨hb0, hb1, -⟩
    omega
  · rintro rfl
    exact ⟨by omega, by omega, rfl⟩

private theorem parseDims_eq {b : Bytes} (h : 8 ≤ b.length) :
    ∃ w h, parseDims b = .ok (w, h) ∧ ∀ columns rows, columns < 2 ^ 16 → rows < 2 ^ 16 →
      ((w.toUInt16.toNat = columns ∧ h.toUInt16.toNat = rows) ↔
        ((b.drop 2).take 2 = uint16 columns ∧ (b.drop 6).take 2 = uint16 rows)) := by
  match b, h with
  | b0 :: b1 :: b2 :: b3 :: b4 :: b5 :: b6 :: b7 :: rest, _ =>
      obtain ⟨w, hw, hwval⟩ := bigEndianUint32_eq b0 b1 b2 b3 (b4 :: b5 :: b6 :: b7 :: rest)
      obtain ⟨h, hh, hhval⟩ := bigEndianUint32_eq b4 b5 b6 b7 rest
      refine ⟨w, h, ?_, ?_⟩
      · simp [parseDims, hw, hh, sliceFrom, bind, Except.bind, pure, Except.pure]
      · intro columns rows hcolumns hrows
        have := b2.toNat_lt
        have := b3.toNat_lt
        have := b6.toNat_lt
        have := b7.toNat_lt
        simp only [List.drop_succ_cons, List.drop_zero, List.take_succ_cons,
          List.take_zero, uint16_eq_iff hcolumns, uint16_eq_iff hrows,
          UInt32.toNat_toUInt16, hwval, hhval]
        constructor <;> rintro ⟨hcols, hrows⟩ <;> exact ⟨by omega, by omega⟩

private theorem setsSize_of_dims {req : Request} {columns rows : Nat} {b : Bytes}
    {effects : List Effect}
    (hreq : handleRequest req = (do
      let (w, h) ← parseDims b
      return .setWinsize (winsize w h) :: effects))
    (hb : 8 ≤ b.length) (hcolumns : columns < 2 ^ 16) (hrows : rows < 2 ^ 16) :
    SetsSize req columns rows ↔
      ((b.drop 2).take 2 = uint16 columns ∧ (b.drop 6).take 2 = uint16 rows) := by
  obtain ⟨w, h, hdims, hsize⟩ := parseDims_eq hb
  rw [← hsize columns rows hcolumns hrows, SetsSize, hreq, hdims]
  constructor
  · rintro ⟨ws, effects', heq, hwidth, hheight⟩
    cases heq
    exact ⟨hwidth, hheight⟩
  · rintro ⟨hwidth, hheight⟩
    exact ⟨_, _, rfl, hwidth, hheight⟩

/-! ## Where the size is looked for -/

/-- The byte behind the name of the terminal, as computed in one byte. -/
def PtyReq.offset (p : PtyReq) : Nat := (p.term.length + 4) % 256

/-- At the offset stand, by chance or not, the lower halves of the two numbers. -/
def PtyReq.Meets (p : PtyReq) : Prop :=
  (p.payload.drop (p.offset + 2)).take 2 = uint16 p.columns ∧
    (p.payload.drop (p.offset + 6)).take 2 = uint16 p.rows

theorem PtyReq.payload_length (p : PtyReq) :
    p.payload.length = p.term.length + p.modes.length + 24 := by
  simp [PtyReq.payload, PtyReq.afterTerm, uint32, uint16]
  omega

theorem PtyReq.offset_le (p : PtyReq) : p.offset + 8 ≤ p.payload.length := by
  have := p.payload_length
  unfold PtyReq.offset
  omega

private theorem drop_payload (p : PtyReq) :
    p.payload.drop (p.term.length + 4) = p.afterTerm := by
  rw [PtyReq.payload, ← List.append_assoc]
  exact List.drop_left' (by simp [uint32, uint16])

theorem PtyReq.meets_of_short {p : PtyReq} (h : p.term.length < 252) : p.Meets := by
  have hoffset : p.offset = p.term.length + 4 := Nat.mod_eq_of_lt (by omega)
  unfold PtyReq.Meets
  rw [← List.drop_drop, ← List.drop_drop, hoffset, drop_payload]
  exact ⟨rfl, rfl⟩

theorem PtyReq.toNat_offset (p : PtyReq) :
    (UInt8.ofNat p.term.length + 4).toNat = p.offset := by
  rw [UInt8.toNat_add, UInt8.toNat_ofNat', PtyReq.offset]
  simp

theorem handleRequest_ptyReq (p : PtyReq) (want : Bool) :
    handleRequest ⟨ascii "pty-req", want, p.payload⟩ = (do
      let (w, h) ← parseDims (p.payload.drop p.offset)
      return .setWinsize (winsize w h) ::
        Request.reply ⟨ascii "pty-req", want, p.payload⟩ true) := by
  have hne : ascii "pty-req" ≠ ascii "shell" := by decide
  have hindex : index p.payload 3 = .ok (UInt8.ofNat p.term.length) := rfl
  have hslice : p.offset ≤ p.payload.length := by
    have := p.offset_le
    omega
  simp only [handleRequest, hne, if_false, if_true, hindex, sliceFrom, p.toNat_offset, hslice,
    bind, Except.bind]

theorem setsSize_ptyReq_iff (p : PtyReq) (want : Bool) (hcolumns : p.columns < 2 ^ 16)
    (hrows : p.rows < 2 ^ 16) :
    SetsSize ⟨ascii "pty-req", want, p.payload⟩ p.columns p.rows ↔ p.Meets := by
  have hlong : 8 ≤ (p.payload.drop p.offset).length := by
    have := p.offset_le
    rw [List.length_drop]
    omega
  rw [setsSize_of_dims (handleRequest_ptyReq p want) hlong hcolumns hrows,
    List.drop_drop, List.drop_drop]
  rfl

theorem setsSize_windowChange (c : WindowChange) (want : Bool)
    (hcolumns : c.columns < 2 ^ 16) (hrows : c.rows < 2 ^ 16) :
    SetsSize ⟨ascii "window-change", want, c.payload⟩ c.columns c.rows := by
  have hshell : ascii "window-change" ≠ ascii "shell" := by decide
  have hpty : ascii "window-change" ≠ ascii "pty-req" := by decide
  have hreq : handleRequest ⟨ascii "window-change", want, c.payload⟩ = (do
      let (w, h) ← parseDims c.payload
      return .setWinsize (winsize w h) :: []) := by
    simp only [handleRequest, hshell, hpty, if_false, if_true]
  have hlong : 8 ≤ c.payload.length := by
    simp [WindowChange.payload, uint32, uint16]
  exact (setsSize_of_dims hreq hlong hcolumns hrows).mpr ⟨rfl, rfl⟩

/--
A `window-change` always sets the size that the client sent.  A `pty-req` does if the
name of the terminal has fewer than 252 bytes; from there on only if the bytes at the
wrapped offset happen to be the same.
-/
theorem setsSize_iff (p : PtyReq) (c : WindowChange) (want : Bool) :
    (p.columns < 2 ^ 16 → p.rows < 2 ^ 16 →
      (SetsSize ⟨ascii "pty-req", want, p.payload⟩ p.columns p.rows ↔
        p.term.length < 252 ∨ p.Meets)) ∧
    (c.columns < 2 ^ 16 → c.rows < 2 ^ 16 →
      SetsSize ⟨ascii "window-change", want, c.payload⟩ c.columns c.rows) := by
  refine ⟨fun hcolumns hrows => ?_, setsSize_windowChange c want⟩
  rw [setsSize_ptyReq_iff p want hcolumns hrows]
  exact ⟨.inr, fun h => h.elim PtyReq.meets_of_short id⟩

def xterm : PtyReq where
  term := ascii "xterm"
  columns := 80
  rows := 24
  width := 0
  height := 0
  modes := []
  term_lt := by decide
  columns_lt := by decide
  rows_lt := by decide
  width_lt := by decide
  height_lt := by decide
  modes_lt := by decide

def widened : WindowChange := ⟨132, 43, 0, 0, by decide, by decide, by decide, by decide⟩

theorem xterm_set :
    (SetsSize ⟨ascii "pty-req", true, xterm.payload⟩ xterm.columns xterm.rows ↔
      xterm.term.length < 252 ∨ xterm.Meets) ∧
    SetsSize ⟨ascii "window-change", true, widened.payload⟩ widened.columns widened.rows :=
  ⟨(setsSize_iff xterm widened true).1 (by decide) (by decide),
    (setsSize_iff xterm widened true).2 (by decide) (by decide)⟩

def longTerm : PtyReq where
  term := List.replicate 252 97
  columns := 80
  rows := 24
  width := 0
  height := 0
  modes := []
  term_lt := by
    rw [List.length_replicate]
    decide
  columns_lt := by decide
  rows_lt := by decide
  width_lt := by decide
  height_lt := by decide
  modes_lt := by decide

theorem longTerm_not_set :
    ¬ SetsSize ⟨ascii "pty-req", true, longTerm.payload⟩ longTerm.columns longTerm.rows := by
  rw [setsSize_ptyReq_iff _ _ (by decide) (by decide)]
  rintro ⟨hcolumns, -⟩
  have hlength : longTerm.term.length = 252 := List.length_replicate
  have hoffset : longTerm.offset = 0 := by rw [PtyReq.offset, hlength]
  -- at offset zero stands the length of the name
  have hread : (longTerm.payload.drop 2).take 2 = uint16 longTerm.term.length := rfl
  rw [hoffset, hread, hlength] at hcolumns
  revert hcolumns
  decide

end DockerBastion.Sshd

import DockerBastion.Ssh.RekeyInvariant

/-!
# Writers that never return

Nothing in the code wakes the writers when the reader ends while a `kexInit` of the
server is unanswered, and the first writer that is told of a failed key exchange keeps
the mutex.  A writer can return in some continuation of a run exactly if neither has
happened.
-/

namespace DockerBastion.Ssh

open Foundation Sshd Function

/-- The packet of a goroutine that is in `writePacket`. -/
def PacketWriter.packet? : PacketWriter → Option Bytes
  | .idle => none
  | .calling p => p
  | .initWriting p => p
  | .waiting p => some p
  | .writing p => some p

namespace Rekey

/-- No writer will ever come to its end. -/
def Dead (E : Exchange) (s : Rekey) : Prop :=
  s.crashed = true ∨ s.lock = .kept ∨
    (s.sentInit = true ∧
      (s.reader = .ended ∨ ∃ p e, s.reader = .entering p ∧ agree E p = .error (.panic e)))

/-- The goroutine `i` returns in some continuation of the run. -/
def CanReturn (E : Exchange) (s : Rekey) (i : Nat) : Prop :=
  ∃ events, (run (Rekey.step E) s events).writers i = .idle

section Dead

variable {E : Exchange} {s : Rekey} {i : Nat}

theorem step_of_running (hcrashed : s.crashed = false) (e : RekeyEvent) :
    s.step E e = s.advance E e := by
  rw [Rekey.step, if_neg (by simp [hcrashed])]

theorem call_packet {j : Nat} {p : Option Bytes} (h : (s.writers i).packet?.isSome) :
    ((s.call j p).writers i).packet?.isSome := by
  unfold Rekey.call
  split
  · rename_i hidle
    split
    · exact h
    · have hij : i ≠ j := by
        rintro rfl
        simp [hidle, PacketWriter.packet?] at h
      simpa [Rekey.setWriter, update_of_ne hij] using h
  · exact h

theorem call_same {j : Nat} {p : Option Bytes} :
    (s.call j p).lock = s.lock ∧ (s.call j p).sentInit = s.sentInit ∧
      (s.call j p).reader = s.reader := by
  unfold Rekey.call
  split
  · split <;> exact ⟨rfl, rfl, rfl⟩
  · exact ⟨rfl, rfl, rfl⟩

/-- A goroutine that holds the mutex is the only one that can go on from `wrote`. -/
theorem wrote_of_not_holds {err : Option SshError} (h : ¬ (s.writers i).Holds) :
    s.wrote E i err = s := by
  unfold Rekey.wrote
  split
  · rename_i hwriter
    simp [hwriter, PacketWriter.Holds] at h
  · rename_i hwriter
    simp [hwriter, PacketWriter.Holds] at h
  · rename_i hwriter
    simp [hwriter, PacketWriter.Holds] at h
  · rename_i hwriter
    simp [hwriter, PacketWriter.Holds] at h
  · rfl

theorem Sound.kept_step (h : s.Sound) (hcrashed : s.crashed = false) (hkept : s.lock = .kept)
    (e : RekeyEvent) (hpacket : (s.writers i).packet?.isSome) :
    Dead E (s.step E e) ∧ ((s.step E e).writers i).packet?.isSome := by
  have hended : s.reader = .ended := (h.error_ended (h.lock_kept hkept)).1
  have hnone : ∀ j, ¬ (s.writers j).Holds := by
    intro j hj
    have hlock := (h.lock_writer j).mp hj
    simp [hkept] at hlock
  cases e with
  | call j p =>
      rw [step_of_running hcrashed]
      exact ⟨.inr (.inl (call_same.1.trans hkept)), call_packet hpacket⟩
  | turn j =>
      have hsame : s.step E (.turn j) = s := by
        rw [step_of_running hcrashed]
        simp [Rekey.advance, Rekey.turn, hkept]
      rw [hsame]
      exact ⟨.inr (.inl hkept), hpacket⟩
  | wrote j err =>
      have hsame : s.step E (.wrote j err) = s := by
        simp [Rekey.step, Rekey.advance, hcrashed, wrote_of_not_holds (hnone j)]
      rw [hsame]
      exact ⟨.inr (.inl hkept), hpacket⟩
  | readerTurn =>
      have hsame : s.step E .readerTurn = s := by
        simp [Rekey.step, Rekey.advance, Rekey.readerTurn, hcrashed, hended]
      rw [hsame]
      exact ⟨.inr (.inl hkept), hpacket⟩
  | readerWrote err =>
      have hsame : s.step E (.readerWrote err) = s := by
        simp [Rekey.step, Rekey.advance, Rekey.readerWrote, hcrashed, hended]
      rw [hsame]
      exact ⟨.inr (.inl hkept), hpacket⟩
  | received result =>
      have hsame : s.step E (.received result) = s := by
        simp [Rekey.step, Rekey.advance, Rekey.received, hcrashed, hended]
      rw [hsame]
      exact ⟨.inr (.inl hkept), hpacket⟩
  | consume =>
      have hstep : s.step E .consume = { s with incoming := s.incoming.tail } := by
        simp [Rekey.step, Rekey.advance, hcrashed]
      rw [hstep]
      exact ⟨.inr (.inl hkept), hpacket⟩
  | close =>
      have hstep : s.step E .close = { s with closed := true } := by
        simp [Rekey.step, Rekey.advance, hcrashed]
      rw [hstep]
      exact ⟨.inr (.inl hkept), hpacket⟩

/-- While a `kexInit` is unanswered a turn only puts a writer to sleep. -/
theorem turn_waits (hfree : s.lock = .free) (hinit : s.sentInit = true) (j : Nat)
    (hpacket : (s.writers i).packet?.isSome) :
    (s.turn E j).sentInit = true ∧ (s.turn E j).reader = s.reader ∧
      ((s.turn E j).writers i).packet?.isSome := by
  have hset : ∀ w : PacketWriter, (i = j → w.packet?.isSome) →
      (s.setWriter j w .free).sentInit = true ∧ (s.setWriter j w .free).reader = s.reader ∧
        ((s.setWriter j w .free).writers i).packet?.isSome := by
    intro w hw
    refine ⟨hinit, rfl, ?_⟩
    by_cases hij : i = j
    · subst hij
      simpa [Rekey.setWriter] using hw rfl
    · simpa [Rekey.setWriter, update_of_ne hij] using hpacket
  unfold Rekey.turn
  rw [if_neg (not_not.mpr hfree)]
  split
  · rename_i hcalling
    rw [if_pos hinit]
    refine hset .idle ?_
    rintro rfl
    simp [hcalling, PacketWriter.packet?] at hpacket
  · rename_i p hcalling
    rw [if_neg (by simp [hinit]), Rekey.proceed, if_pos hinit]
    exact hset (.waiting p) fun _ => rfl
  · rename_i p hwaiting
    rw [Rekey.proceed, if_pos hinit]
    exact hset (.waiting p) fun _ => rfl
  · exact ⟨hinit, rfl, hpacket⟩

theorem Sound.unanswered_step (h : s.Sound) (hcrashed : s.crashed = false)
    (hinit : s.sentInit = true)
    (hreader : s.reader = .ended ∨ ∃ p e, s.reader = .entering p ∧ agree E p = .error (.panic e))
    (e : RekeyEvent) (hpacket : (s.writers i).packet?.isSome) :
    Dead E (s.step E e) ∧ ((s.step E e).writers i).packet?.isSome := by
  have hfree : s.lock = .free := by
    by_contra hlock
    rw [h.holder_init hlock] at hinit
    cases hinit
  have hnone : ∀ j, ¬ (s.writers j).Holds := by
    intro j hj
    have hlock := (h.lock_writer j).mp hj
    simp [hfree] at hlock
  have hdead : Dead E s := .inr (.inr ⟨hinit, hreader⟩)
  cases e with
  | call j p =>
      rw [step_of_running hcrashed]
      obtain ⟨-, hinit', hreader'⟩ : (s.call j p).lock = s.lock ∧
          (s.call j p).sentInit = s.sentInit ∧ (s.call j p).reader = s.reader := call_same
      refine ⟨.inr (.inr ⟨hinit'.trans hinit, ?_⟩), call_packet hpacket⟩
      exact hreader'.symm ▸ hreader
  | turn j =>
      have hstep : s.step E (.turn j) = s.turn E j := step_of_running hcrashed _
      obtain ⟨hinit', hreader', hpacket'⟩ := turn_waits (E := E) hfree hinit j hpacket
      rw [hstep]
      exact ⟨.inr (.inr ⟨hinit', hreader' ▸ hreader⟩), hpacket'⟩
  | wrote j err =>
      have hsame : s.step E (.wrote j err) = s := by
        simp [Rekey.step, Rekey.advance, hcrashed, wrote_of_not_holds (hnone j)]
      rw [hsame]
      exact ⟨hdead, hpacket⟩
  | readerTurn =>
      rcases hreader with hended | ⟨p, e, hentering, hagree⟩
      · have hsame : s.step E .readerTurn = s := by
          simp [Rekey.step, Rekey.advance, Rekey.readerTurn, hcrashed, hended]
        rw [hsame]
        exact ⟨hdead, hpacket⟩
      · have hstep : s.step E .readerTurn = { s with crashed := true } := by
          rw [step_of_running hcrashed]
          simp [Rekey.advance, Rekey.readerTurn, hentering, hfree, hinit, hagree,
            Rekey.continueWith]
        rw [hstep]
        exact ⟨.inl rfl, hpacket⟩
  | readerWrote err =>
      have hsame : s.step E (.readerWrote err) = s := by
        rcases hreader with hended | ⟨p, e, hentering, -⟩
        · simp [Rekey.step, Rekey.advance, Rekey.readerWrote, hcrashed, hended]
        · simp [Rekey.step, Rekey.advance, Rekey.readerWrote, hcrashed, hentering]
      rw [hsame]
      exact ⟨hdead, hpacket⟩
  | received result =>
      have hsame : s.step E (.received result) = s := by
        rcases hreader with hended | ⟨p, e, hentering, -⟩
        · simp [Rekey.step, Rekey.advance, Rekey.received, hcrashed, hended]
        · simp [Rekey.step, Rekey.advance, Rekey.received, hcrashed, hentering]
      rw [hsame]
      exact ⟨hdead, hpacket⟩
  | consume =>
      have hstep : s.step E .consume = { s with incoming := s.incoming.tail } := by
        simp [Rekey.step, Rekey.advance, hcrashed]
      rw [hstep]
      exact ⟨.inr (.inr ⟨hinit, hreader⟩), hpacket⟩
  | close =>
      have hstep : s.step E .close = { s with closed := true } := by
        simp [Rekey.step, Rekey.advance, hcrashed]
      rw [hstep]
      exact ⟨.inr (.inr ⟨hinit, hreader⟩), hpacket⟩

theorem Sound.dead_step (h : s.Sound) (hdead : Dead E s) (e : RekeyEvent)
    (hpacket : (s.writers i).packet?.isSome) :
    Dead E (s.step E e) ∧ ((s.step E e).writers i).packet?.isSome := by
  cases hcrashed : s.crashed with
  | true =>
      have hsame : s.step E e = s := by simp [Rekey.step, hcrashed]
      rw [hsame]
      exact ⟨hdead, hpacket⟩
  | false =>
      rcases hdead with hcrash | hkept | ⟨hinit, hreader⟩
      · rw [hcrashed] at hcrash
        cases hcrash
      · exact h.kept_step hcrashed hkept e hpacket
      · exact h.unanswered_step hcrashed hinit hreader e hpacket

theorem not_canReturn (h : s.Sound) (hdead : Dead E s) (hpacket : (s.writers i).packet?.isSome) :
    ¬ CanReturn E s i := by
  rintro ⟨events, hidle⟩
  have hstep : ∀ (s : Rekey) (e : RekeyEvent),
      (s.Sound ∧ Dead E s ∧ (s.writers i).packet?.isSome) →
        (s.step E e).Sound ∧ Dead E (s.step E e) ∧ ((s.step E e).writers i).packet?.isSome :=
    fun s e hs => ⟨hs.1.step e, hs.1.dead_step hs.2.1 e hs.2.2⟩
  have hrun := (run_invariant hstep ⟨h, hdead, hpacket⟩ events).2.2
  rw [hidle] at hrun
  exact absurd hrun (by simp [PacketWriter.packet?])

end Dead

section Alive

variable {E : Exchange} {s : Rekey} {i : Nat}

theorem canReturn_of_step (e : RekeyEvent) (h : CanReturn E (s.step E e) i) : CanReturn E s i := by
  obtain ⟨events, hidle⟩ := h
  exact ⟨e :: events, hidle⟩

theorem canReturn_of_idle (h : s.writers i = .idle) : CanReturn E s i := ⟨[], h⟩

/-- The write of a goroutine fails, if nothing better happens to it. -/
theorem canReturn_writing {p : Bytes} (hcrashed : s.crashed = false)
    (hwriting : s.writers i = .writing p) : CanReturn E s i := by
  refine canReturn_of_step (.wrote i (some .eof)) (canReturn_of_idle ?_)
  rw [step_of_running hcrashed]
  simp [Rekey.advance, Rekey.wrote, hwriting, Rekey.setWriter]

theorem canReturn_proceed (hcrashed : s.crashed = false) (hinit : s.sentInit = false) (p : Bytes) :
    CanReturn E (s.proceed i (some p)) i := by
  unfold Rekey.proceed
  dsimp only
  rw [if_neg (by simp [hinit])]
  split
  · exact canReturn_of_idle (by simp [Rekey.setWriter])
  split
  · exact canReturn_of_idle (by simp [Rekey.setWriter])
  · refine canReturn_writing (p := p) ?_ (by simp [Rekey.setWriter])
    exact hcrashed

theorem canReturn_holding (hcrashed : s.crashed = false) (hinit : s.sentInit = false)
    (hholds : (s.writers i).Holds) (hpacket : (s.writers i).packet?.isSome) : CanReturn E s i := by
  cases hwriter : s.writers i with
  | writing p => exact canReturn_writing hcrashed hwriter
  | initWriting p =>
      cases p with
      | none => simp [hwriter, PacketWriter.packet?] at hpacket
      | some p =>
          refine canReturn_of_step (.wrote i (some .eof)) ?_
          rw [step_of_running hcrashed]
          simp only [Rekey.advance, Rekey.wrote, hwriter]
          exact canReturn_proceed hcrashed hinit p
  | _ => simp [hwriter, PacketWriter.Holds] at hholds

/-- The mutex is free and no `kexInit` is on its way. -/
theorem canReturn_free (hcrashed : s.crashed = false) (hfree : s.lock = .free)
    (hinit : s.sentInit = false) (hnot : ¬ (s.writers i).Holds)
    (hpacket : (s.writers i).packet?.isSome) : CanReturn E s i := by
  refine canReturn_of_step (.turn i) ?_
  rw [step_of_running hcrashed]
  simp only [Rekey.advance, Rekey.turn, hfree, ne_eq, not_true_eq_false, if_false]
  cases hwriter : s.writers i with
  | idle => simp [hwriter, PacketWriter.packet?] at hpacket
  | initWriting p => simp [hwriter, PacketWriter.Holds] at hnot
  | writing p => simp [hwriter, PacketWriter.Holds] at hnot
  | waiting p => exact canReturn_proceed hcrashed hinit p
  | calling p =>
      cases p with
      | none => simp [hwriter, PacketWriter.packet?] at hpacket
      | some p =>
          dsimp only
          split
          · refine canReturn_holding ?_ ?_ ?_ ?_
            · exact hcrashed
            · exact hinit
            · simp [Rekey.setWriter, PacketWriter.Holds]
            · simp [Rekey.setWriter, PacketWriter.packet?]
          · exact canReturn_proceed hcrashed hinit p

/-- Another goroutine has the mutex, and will give it back. -/
theorem canReturn_behind {j : Nat} (hcrashed : s.crashed = false) (hinit : s.sentInit = false)
    (hj : (s.writers j).Holds) (hsends : (s.writers j).Sends → s.writeError = none) (hij : i ≠ j)
    (hnot : ¬ (s.writers i).Holds) (hpacket : (s.writers i).packet?.isSome) : CanReturn E s i := by
  have hreleased : ∀ t : Rekey, t.crashed = false → t.sentInit = false →
      t.writers i = s.writers i → CanReturn E (t.setWriter j .idle .free) i := by
    intro t ht hti hsame
    refine canReturn_free ht rfl hti ?_ ?_
    · simpa [Rekey.setWriter, update_of_ne hij, hsame] using hnot
    · simpa [Rekey.setWriter, update_of_ne hij, hsame] using hpacket
  have hwrites : ∀ (t : Rekey) (q : Bytes), t.crashed = false → t.sentInit = false →
      t.writers i = s.writers i → t.writers j = .writing q → CanReturn E t i := by
    intro t q ht hti hsame hwriting
    refine canReturn_of_step (.wrote j (some .eof)) ?_
    rw [step_of_running ht]
    simp only [Rekey.advance, Rekey.wrote, hwriting]
    exact hreleased t ht hti hsame
  cases hwriter : s.writers j with
  | writing q => exact hwrites s q hcrashed hinit rfl hwriter
  | initWriting q =>
      refine canReturn_of_step (.wrote j (some .eof)) ?_
      rw [step_of_running hcrashed]
      simp only [Rekey.advance, Rekey.wrote, hwriter]
      cases q with
      | none => exact hreleased s hcrashed hinit rfl
      | some q =>
          have herr : s.writeError = none := hsends (by simp [hwriter, PacketWriter.Sends])
          unfold Rekey.proceed
          dsimp only
          rw [if_neg (by simp [hinit]), if_neg (by simp [herr])]
          split
          · exact hreleased _ hcrashed hinit rfl
          · refine hwrites _ q hcrashed hinit ?_ ?_
            · simp [Rekey.setWriter, update_of_ne hij]
            · simp [Rekey.setWriter]
  | _ => simp [hwriter, PacketWriter.Holds] at hj

/-- The reader is about to let the writers go on. -/
theorem canReturn_leaving {err : Option SshError} (hcrashed : s.crashed = false)
    (hfree : s.lock = .free) (hreader : s.reader = .leaving err) (hnot : ¬ (s.writers i).Holds)
    (hpacket : (s.writers i).packet?.isSome) : CanReturn E s i := by
  refine canReturn_of_step .readerTurn ?_
  rw [step_of_running hcrashed]
  simp only [Rekey.advance, Rekey.readerTurn, hreader, hfree, ne_eq, not_true_eq_false, if_false]
  cases err with
  | none => exact canReturn_free hcrashed hfree rfl hnot hpacket
  | some err => exact canReturn_free hcrashed hfree rfl hnot hpacket

/-- A key exchange can always fail. -/
theorem canReturn_exchanging (h : s.Sound) (hcrashed : s.crashed = false) (hfree : s.lock = .free)
    (hreader : s.reader.Exchanging) (hnot : ¬ (s.writers i).Holds)
    (hpacket : (s.writers i).packet?.isSome) : CanReturn E s i := by
  have hreceives : (s.reader = .awaiting ∨ ∃ kex, s.reader = .skipping kex ∨
      s.reader = .serving kex) → CanReturn E s i := by
    intro hwaits
    refine canReturn_of_step (.received (.error (.error .eof))) ?_
    have hstep : s.step E (.received (.error (.error .eof))) =
        { s with reader := .leaving (some .eof) } := by
      rw [step_of_running hcrashed]
      rcases hwaits with hr | ⟨kex, hr | hr⟩
      · simp [Rekey.advance, Rekey.received, hr, Rekey.connRead, Rekey.continueWith]
      · simp [Rekey.advance, Rekey.received, hr, Rekey.connRead, Rekey.continueWith]
      · simp [Rekey.advance, Rekey.received, hr, Rekey.connRead, Rekey.continueWith]
    rw [hstep]
    exact canReturn_leaving hcrashed hfree rfl hnot hpacket
  have hchanging : ∀ t : Rekey, t.crashed = false → t.lock = .free → t.reader = .changing →
      t.writers = s.writers → CanReturn E t i := by
    intro t ht htfree htr hsame
    refine canReturn_of_step (.readerWrote (some .eof)) ?_
    rw [step_of_running ht]
    simp only [Rekey.advance, Rekey.readerWrote, htr]
    exact canReturn_leaving ht htfree rfl (hsame ▸ hnot) (hsame ▸ hpacket)
  have hpreparing : ∀ t : Rekey, t.Sound → t.crashed = false → t.lock = .free →
      t.reader = .preparing → t.writers = s.writers → CanReturn E t i := by
    intro t hsound ht htfree htr hsame
    refine canReturn_of_step .readerTurn ?_
    have hkeys := hsound.keys
    rw [htr] at hkeys
    rw [step_of_running ht]
    simp only [Rekey.advance, Rekey.readerTurn, htr, hkeys.1, hkeys.2, Bool.false_eq_true,
      or_self, if_false]
    exact hchanging _ ht htfree rfl hsame
  cases hr : s.reader with
  | skipping kex => exact hreceives (.inr ⟨kex, .inl hr⟩)
  | serving kex => exact hreceives (.inr ⟨kex, .inr hr⟩)
  | awaiting => exact hreceives (.inl hr)
  | changing => exact hchanging s hcrashed hfree hr rfl
  | replying kex reply =>
      have hsound := h.step (E := E) (.readerWrote (some .eof))
      refine canReturn_of_step (.readerWrote (some .eof)) ?_
      rw [step_of_running hcrashed] at hsound ⊢
      simp only [Rekey.advance, Rekey.readerWrote, hr] at hsound ⊢
      split at hsound
      · rename_i hgroup
        rw [if_pos hgroup]
        exact hpreparing _ hsound hcrashed hfree rfl rfl
      · rename_i hgroup
        rw [if_neg hgroup]
        exact canReturn_leaving hcrashed hfree rfl hnot hpacket
  | preparing => exact hpreparing s h hcrashed hfree hr rfl
  | leaving err => exact canReturn_leaving hcrashed hfree hr hnot hpacket
  | _ => simp [hr, ReadLoop.Exchanging] at hreader

theorem canReturn_entering {p : Bytes} (h : s.Sound) (hcrashed : s.crashed = false)
    (hfree : s.lock = .free) (hinit : s.sentInit = true) (hreader : s.reader = .entering p)
    (hagree : ∀ e, agree E p ≠ .error (.panic e)) (hnot : ¬ (s.writers i).Holds)
    (hpacket : (s.writers i).packet?.isSome) : CanReturn E s i := by
  have hstep : s.step E .readerTurn = s.continueWith (agree E p) := by
    rw [step_of_running hcrashed]
    simp [Rekey.advance, Rekey.readerTurn, hreader, hfree, hinit]
  have hsound : (s.continueWith (agree E p)).Sound := hstep ▸ h.step .readerTurn
  refine canReturn_of_step .readerTurn ?_
  rw [hstep]
  rcases agree_cases E p with ⟨r, kex, hok, hr⟩ | ⟨fault, herror⟩
  · rw [hok] at hsound ⊢
    have hexchanging : r.Exchanging := by
      rcases hr with rfl | rfl <;> trivial
    exact canReturn_exchanging hsound hcrashed hfree hexchanging hnot hpacket
  · cases fault with
    | panic e => exact absurd herror (hagree e)
    | error err =>
        rw [herror]
        exact canReturn_leaving hcrashed hfree rfl hnot hpacket

/-- The client may ask for a key exchange in which nothing can be agreed on. -/
theorem canReturn_reading (h : s.Sound) (hcrashed : s.crashed = false) (hfree : s.lock = .free)
    (hinit : s.sentInit = true) (hreader : s.reader = .reading) (hnot : ¬ (s.writers i).Holds)
    (hpacket : (s.writers i).packet?.isSome) : CanReturn E s i := by
  have hstep : s.step E (.received (.ok [msgKexInit])) =
      { s with
        readSinceKex := s.readSinceKex + UInt64.ofNat 1, reader := .entering [msgKexInit] } := by
    rw [step_of_running hcrashed]
    simp [Rekey.advance, Rekey.received, hreader, Rekey.connRead, msgKexInit, msgNewKeys]
  have hsound := h.step (E := E) (.received (.ok [msgKexInit]))
  refine canReturn_of_step (.received (.ok [msgKexInit])) ?_
  rw [hstep] at hsound ⊢
  refine canReturn_entering hsound hcrashed hfree hinit rfl ?_ hnot hpacket
  intro e hpanic
  have hparse : agree E [msgKexInit] = .error (.error .shortRead) := rfl
  rw [hparse] at hpanic
  cases hpanic

theorem canReturn_top (h : s.Sound) (hcrashed : s.crashed = false) (hfree : s.lock = .free)
    (hinit : s.sentInit = true) (hreader : s.reader = .top ∨ s.reader = .requesting)
    (hnot : ¬ (s.writers i).Holds) (hpacket : (s.writers i).packet?.isSome) :
    CanReturn E s i := by
  have hreading : ∀ t : Rekey, t.Sound → t.crashed = false → t.lock = .free → t.sentInit = true →
      t.writers = s.writers → t.reader = .requesting → CanReturn E t i := by
    intro t ht htc htfree hti hsame htr
    have hstep : t.step E .readerTurn = { t with reader := .reading } := by
      rw [step_of_running htc]
      simp [Rekey.advance, Rekey.readerTurn, htr, htfree, hti]
    have hsound := ht.step (E := E) .readerTurn
    refine canReturn_of_step .readerTurn ?_
    rw [hstep] at hsound ⊢
    exact canReturn_reading hsound htc htfree hti rfl (hsame ▸ hnot) (hsame ▸ hpacket)
  rcases hreader with hreader | hreader
  · have hsound := h.step (E := E) .readerTurn
    refine canReturn_of_step .readerTurn ?_
    rw [step_of_running hcrashed] at hsound ⊢
    simp only [Rekey.advance, Rekey.readerTurn, hreader] at hsound ⊢
    split at hsound
    · rename_i hcount
      rw [if_pos hcount]
      exact hreading _ hsound hcrashed hfree hinit rfl rfl
    · rename_i hcount
      rw [if_neg hcount]
      exact canReturn_reading hsound hcrashed hfree hinit rfl hnot hpacket
  · exact hreading s h hcrashed hfree hinit rfl hreader

/-- The channel of incoming packets is emptied until there is room. -/
theorem canReturn_delivering {p : Bytes} (h : s.Sound) (hcrashed : s.crashed = false)
    (hfree : s.lock = .free) (hinit : s.sentInit = true) (hreader : s.reader = .delivering p)
    (hnot : ¬ (s.writers i).Holds) (hpacket : (s.writers i).packet?.isSome) :
    CanReturn E s i := by
  induction hincoming : s.incoming generalizing s with
  | nil =>
      have hstep : s.step E .readerTurn = { s with incoming := [p], reader := .top } := by
        rw [step_of_running hcrashed]
        simp [Rekey.advance, Rekey.readerTurn, hreader, hincoming]
      have hsound := h.step (E := E) .readerTurn
      refine canReturn_of_step .readerTurn ?_
      rw [hstep] at hsound ⊢
      exact canReturn_top hsound hcrashed hfree hinit (.inl rfl) hnot hpacket
  | cons q others ih =>
      have hstep : s.step E .consume = { s with incoming := others } := by
        rw [step_of_running hcrashed]
        simp [Rekey.advance, hincoming]
      have hsound := h.step (E := E) .consume
      refine canReturn_of_step .consume ?_
      rw [hstep] at hsound ⊢
      exact ih hsound hcrashed hfree hinit hreader hnot hpacket rfl

theorem canReturn_of_not_dead (h : s.Sound) (hdead : ¬ Dead E s)
    (hpacket : (s.writers i).packet?.isSome) : CanReturn E s i := by
  have hcrashed : s.crashed = false := by
    by_contra hcrash
    exact hdead (.inl (by simpa using hcrash))
  by_cases hholds : (s.writers i).Holds
  · have hlock := (h.lock_writer i).mp hholds
    exact canReturn_holding hcrashed (h.holder_init (by simp [hlock])) hholds hpacket
  cases hlock : s.lock with
  | kept => exact absurd (.inr (.inl hlock)) hdead
  | writer j =>
      have hj := (h.lock_writer j).mpr hlock
      have hij : i ≠ j := fun hij => hholds (hij ▸ hj)
      exact canReturn_behind hcrashed (h.holder_init (by simp [hlock])) hj (h.sends_error j) hij
        hholds hpacket
  | reader =>
      have hinit := h.holder_init (by simp [hlock])
      have hreader := h.lock_reader.mpr hlock
      refine canReturn_of_step (.readerWrote (some .eof)) ?_
      rw [step_of_running hcrashed]
      cases hr : s.reader with
      | requestWriting =>
          simp only [Rekey.advance, Rekey.readerWrote, hr]
          exact canReturn_free hcrashed rfl hinit hholds hpacket
      | enterWriting otherInit =>
          simp only [Rekey.advance, Rekey.readerWrote, hr]
          exact canReturn_free hcrashed rfl hinit hholds hpacket
      | _ => simp [hr, ReadLoop.Holds] at hreader
  | free =>
      cases hinit : s.sentInit with
      | false => exact canReturn_free hcrashed hlock hinit hholds hpacket
      | true =>
          have hheld : ¬ s.reader.Holds := fun hr => by
            have hown := h.lock_reader.mp hr
            simp [hlock] at hown
          by_cases hexchanging : s.reader.Exchanging
          · exact canReturn_exchanging h hcrashed hlock hexchanging hholds hpacket
          cases hr : s.reader with
          | ended => exact absurd (.inr (.inr ⟨hinit, .inl hr⟩)) hdead
          | top => exact canReturn_top h hcrashed hlock hinit (.inl hr) hholds hpacket
          | requesting => exact canReturn_top h hcrashed hlock hinit (.inr hr) hholds hpacket
          | reading => exact canReturn_reading h hcrashed hlock hinit hr hholds hpacket
          | delivering p => exact canReturn_delivering h hcrashed hlock hinit hr hholds hpacket
          | leaving err => exact canReturn_leaving hcrashed hlock hr hholds hpacket
          | entering p =>
              refine canReturn_entering h hcrashed hlock hinit hr ?_ hholds hpacket
              exact fun e hpanic => hdead (.inr (.inr ⟨hinit, .inr ⟨p, e, hr, hpanic⟩⟩))
          | _ => simp [hr, ReadLoop.Holds, ReadLoop.Exchanging] at hheld hexchanging

/-- The client hangs up before it answers the `kexInit` of the server. -/
def hungUp : List RekeyEvent :=
  [.call 0 none, .turn 0, .wrote 0 none, .readerTurn, .call 1 (some [94]), .turn 1,
    .received (.error (.error .eof))]

end Alive

end Rekey

end DockerBastion.Ssh

import DockerBastion.Foundation.Run
import DockerBastion.Ssh.Rekey

/-!
# The invariant of rekeying

It says who holds the mutex, which keys the connection has been given and not yet taken,
and how far the key exchange is in what has been written, each from what the reader
does.  A step of the reader or of a writer keeps it; the lemmas are one for each kind of
step.
-/

namespace DockerBastion.Ssh

open Foundation Sshd Function

/-! ## The order of what is written -/

/-- The stages of a key exchange, seen from the writing side. -/
inductive Phase where
  | between
  | exchange
  | replied
  | prepared
  deriving DecidableEq, Repr

def Phase.next : Phase → Written → Option Phase
  | .between, .packet p =>
      if p.head? = some msgNewKeys then none
      else if p.head? = some msgKexInit then some .exchange
      else some .between
  | .exchange, .packet p => if p.head? = some msgKexDHReply then some .replied else none
  -- a `dhGroup` goes on when its reply could not be written
  | .exchange, .prepared => some .prepared
  | .replied, .prepared => some .prepared
  | .prepared, .packet p => if p.head? = some msgNewKeys then some .between else none
  | _, _ => none

/-- There is no phase where something has been written out of its order. -/
def phaseOf (log : List Written) : Option Phase := log.foldlM Phase.next .between

theorem phaseOf_append {log : List Written} {w : Written} {ph ph' : Phase}
    (h : phaseOf log = some ph) (hnext : ph.next w = some ph') :
    phaseOf (log ++ [w]) = some ph' := by
  rw [phaseOf, List.foldlM_append]
  rw [phaseOf] at h
  rw [h]
  simp [hnext]

/-! ## The invariant -/

/-- The reader holds the mutex. -/
def ReadLoop.Holds : ReadLoop → Prop
  | .requestWriting => True
  | .enterWriting _ => True
  | _ => False

def PacketWriter.Holds : PacketWriter → Prop
  | .initWriting _ => True
  | .writing _ => True
  | _ => False

/-- It writes a packet of its own. -/
def PacketWriter.Sends : PacketWriter → Prop
  | .initWriting (some _) => True
  | .writing _ => True
  | _ => False

/-- Both sides have sent a `kexInit`. -/
def ReadLoop.Exchanging : ReadLoop → Prop
  | .skipping _ => True
  | .serving _ => True
  | .replying _ _ => True
  | .preparing => True
  | .changing => True
  | .awaiting => True
  | .leaving none => True
  | _ => False

/-- The phase of the log, from what the reader does and what has been sent. -/
def ReadLoop.InPhase (r : ReadLoop) (sentInit failed : Bool) (ph : Phase) : Prop :=
  match r with
  | .skipping _ => ph = .exchange
  | .serving _ => ph = .exchange
  | .replying _ reply => ph = .exchange ∧ reply.head? = some msgKexDHReply
  | .preparing => ph = .exchange ∨ ph = .replied
  | .changing => ph = .prepared
  | .awaiting => ph = .between
  | .leaving none => ph = .between
  | .leaving (some _) => sentInit = false → ph = .between
  | .ended => failed = false → ph = if sentInit then .exchange else .between
  | _ => ph = if sentInit then .exchange else .between

/-- The keys that the connection has been given and not yet taken. -/
def ReadLoop.KeysFit (r : ReadLoop) (pendingRead pendingWrite : Bool) : Prop :=
  match r with
  | .changing => pendingRead = true ∧ pendingWrite = true
  | .awaiting => pendingRead = true ∧ pendingWrite = false
  | .leaving (some _) => True
  | .ended => True
  | _ => pendingRead = false ∧ pendingWrite = false

structure Rekey.Sound (s : Rekey) : Prop where
  lock_reader : s.reader.Holds ↔ s.lock = .reader
  lock_writer : ∀ i, (s.writers i).Holds ↔ s.lock = .writer i
  lock_kept : s.lock = .kept → s.writeError.isSome
  holder_init : s.lock ≠ .free → s.sentInit = false
  sends_error : ∀ i, (s.writers i).Sends → s.writeError = none
  writing_tag : ∀ i p, s.writers i = .writing p →
    p.head? ≠ some msgKexInit ∧ p.head? ≠ some msgNewKeys
  exchanging : s.reader.Exchanging → s.sentInit = true
  error_ended : s.writeError.isSome →
    s.reader = .ended ∧ s.sentInit = false ∧ s.closed = true ∧ s.writtenSinceKex = 0
  keys : s.reader.KeysFit s.pendingRead s.pendingWrite
  phase : ∃ ph, phaseOf s.log = some ph ∧
    s.reader.InPhase s.sentInit s.writeError.isSome ph

namespace Rekey

section Invariant

variable {E : Exchange} {s s' : Rekey} {i : Nat} {w : PacketWriter} {lock : Lock} {r : ReadLoop}

/-- What the invariant does not look at is blanked out. -/
def core (s : Rekey) : Rekey :=
  { s with readSinceKex := 0, incoming := [], keysRead := 0, crashed := false }

theorem Sound.congr (h : s.Sound) (hsame : s'.core = s.core) : s'.Sound := by
  have hcore : s.core.Sound :=
    ⟨h.lock_reader, h.lock_writer, h.lock_kept, h.holder_init, h.sends_error, h.writing_tag,
      h.exchanging, h.error_ended, h.keys, h.phase⟩
  rw [← hsame] at hcore
  exact ⟨hcore.lock_reader, hcore.lock_writer, hcore.lock_kept, hcore.holder_init,
    hcore.sends_error, hcore.writing_tag, hcore.exchanging, hcore.error_ended, hcore.keys,
    hcore.phase⟩

theorem Sound.start : Rekey.start.Sound where
  lock_reader := by simp [Rekey.start, ReadLoop.Holds]
  lock_writer := by simp [Rekey.start, PacketWriter.Holds]
  lock_kept := by simp [Rekey.start]
  holder_init := by simp [Rekey.start]
  sends_error := by simp [Rekey.start]
  writing_tag := by simp [Rekey.start]
  exchanging := by simp [Rekey.start, ReadLoop.Exchanging]
  error_ended := by simp [Rekey.start]
  keys := ⟨rfl, rfl⟩
  phase := ⟨.between, rfl, rfl⟩

theorem Sound.setWriter (h : s.Sound) (hreader : lock = .reader ↔ s.lock = .reader)
    (hholds : w.Holds ↔ lock = .writer i)
    (hothers : ∀ j, j ≠ i → (lock = .writer j ↔ s.lock = .writer j))
    (hkept : lock = .kept → s.writeError.isSome) (hinit : lock ≠ .free → s.sentInit = false)
    (hsends : w.Sends → s.writeError = none)
    (htag : ∀ p, w = .writing p → p.head? ≠ some msgKexInit ∧ p.head? ≠ some msgNewKeys) :
    (s.setWriter i w lock).Sound where
  lock_reader := h.lock_reader.trans hreader.symm
  lock_writer := by
    intro j
    by_cases hj : j = i
    · subst hj
      simpa [Rekey.setWriter] using hholds
    · simp only [Rekey.setWriter, update_of_ne hj]
      exact (h.lock_writer j).trans (hothers j hj).symm
  lock_kept := hkept
  holder_init := hinit
  sends_error := by
    intro j
    by_cases hj : j = i
    · subst hj
      simpa [Rekey.setWriter] using hsends
    · simp only [Rekey.setWriter, update_of_ne hj]
      exact h.sends_error j
  writing_tag := by
    intro j p
    by_cases hj : j = i
    · subst hj
      simpa [Rekey.setWriter] using htag p
    · simp only [Rekey.setWriter, update_of_ne hj]
      exact h.writing_tag j p
  exchanging := h.exchanging
  error_ended := h.error_ended
  keys := h.keys
  phase := h.phase

/-- The goroutine `i`, which alone may hold the mutex, goes on without it. -/
theorem Sound.releases (h : s.Sound) (hlock : s.lock = .free ∨ s.lock = .writer i)
    (hholds : ¬ w.Holds) : (s.setWriter i w .free).Sound := by
  refine h.setWriter ?_ ?_ ?_ ?_ ?_ ?_ ?_
  · rcases hlock with hlock | hlock <;> simp [hlock]
  · exact iff_of_false hholds (by simp)
  · intro j hj
    rcases hlock with hlock | hlock
    · simp [hlock]
    · simp [hlock, Ne.symm hj]
  · simp
  · simp
  · intro hsends
    cases w <;> simp_all [PacketWriter.Holds, PacketWriter.Sends]
  · rintro p rfl
    exact absurd trivial hholds

theorem Sound.takes (h : s.Sound) (hlock : s.lock = .free ∨ s.lock = .writer i) (hholds : w.Holds)
    (hinit : s.sentInit = false) (hsends : w.Sends → s.writeError = none)
    (htag : ∀ p, w = .writing p → p.head? ≠ some msgKexInit ∧ p.head? ≠ some msgNewKeys) :
    (s.setWriter i w (.writer i)).Sound := by
  refine h.setWriter ?_ (iff_of_true hholds rfl) ?_ (by simp) (fun _ => hinit) hsends htag
  · rcases hlock with hlock | hlock <;> simp [hlock]
  · intro j hj
    rcases hlock with hlock | hlock
    · simp [hlock, Ne.symm hj]
    · simp [hlock]

theorem Sound.proceed {p : Option Bytes} (h : s.Sound)
    (hlock : s.lock = .free ∨ s.lock = .writer i) : (s.proceed i p).Sound := by
  unfold Rekey.proceed
  split
  · exact h.releases hlock (by simp [PacketWriter.Holds])
  rename_i p
  split
  · exact h.releases hlock (by simp [PacketWriter.Holds])
  rename_i hinit
  have hinit : s.sentInit = false := by simpa using hinit
  split
  · rename_i herr
    refine h.setWriter ?_ ?_ ?_ (fun _ => herr) (fun _ => hinit) ?_ ?_
    · rcases hlock with hlock | hlock <;> simp [hlock]
    · simp [PacketWriter.Holds]
    · intro j hj
      rcases hlock with hlock | hlock
      · simp [hlock]
      · simp [hlock, Ne.symm hj]
    · simp [PacketWriter.Sends]
    · simp
  rename_i herr
  have herr : s.writeError = none := by simpa using herr
  have hcounted : Rekey.Sound
      { s with writtenSinceKex := s.writtenSinceKex + UInt64.ofNat p.length } :=
    ⟨h.lock_reader, h.lock_writer, h.lock_kept, h.holder_init, h.sends_error, h.writing_tag,
      h.exchanging, by simp [herr], h.keys, h.phase⟩
  dsimp only
  split
  · exact hcounted.releases hlock (by simp [PacketWriter.Holds])
  · rename_i htag
    refine hcounted.takes hlock trivial hinit (fun _ => herr) ?_
    rintro _ ⟨⟩
    exact not_or.mp htag

theorem Sound.turn (h : s.Sound) (i : Nat) : (s.turn E i).Sound := by
  unfold Rekey.turn
  split
  · exact h
  rename_i hfree
  have hfree : s.lock = .free := not_not.mp hfree
  split
  · split
    · exact h.proceed (.inl hfree)
    · rename_i hinit
      exact h.takes (.inl hfree) trivial (by simpa using hinit) (by simp [PacketWriter.Sends])
        (by simp)
  · rename_i p hcalling
    split
    · rename_i hcount
      refine h.takes (.inl hfree) trivial (by simpa using hcount.2) (fun _ => ?_) (by simp)
      -- after an error the count stays at zero
      cases herr : s.writeError with
      | none => rfl
      | some err =>
          have hzero := (h.error_ended (by rw [herr]; rfl)).2.2.2
          rw [hzero] at hcount
          exact absurd hcount.1 (by simp)
    · exact h.proceed (.inl hfree)
  · exact h.proceed (.inl hfree)
  · exact h

theorem Sound.open_error (h : s.Sound) (hopen : s.closed = false) : s.writeError = none := by
  cases herr : s.writeError with
  | none => rfl
  | some err =>
      have hclosed := (h.error_ended (by rw [herr]; rfl)).2.2.1
      rw [hopen] at hclosed
      cases hclosed

/-- Where no `kexInit` is on its way, the log is between two key exchanges. -/
theorem Sound.between (h : s.Sound) (hinit : s.sentInit = false) (herr : s.writeError = none) :
    ¬ s.reader.Exchanging ∧ phaseOf s.log = some .between := by
  have hexchanging : ¬ s.reader.Exchanging := by
    intro hexchanging
    rw [h.exchanging hexchanging] at hinit
    cases hinit
  obtain ⟨ph, hlog, hphase⟩ := h.phase
  have hnow : ph = .between := by
    unfold ReadLoop.InPhase at hphase
    split at hphase <;> simp_all [ReadLoop.Exchanging]
  exact ⟨hexchanging, hnow ▸ hlog⟩

/-- A `kexInit` has been written while none was on its way, and the mutex is free again. -/
theorem Sound.initSent (h : s.Sound) (hfree : s.lock = .free) (hinit : s.sentInit = false)
    (hopen : s.closed = false) : (s.initSent E).Sound := by
  have herr := h.open_error hopen
  obtain ⟨hexchanging, hlog⟩ := h.between hinit herr
  refine ⟨h.lock_reader, h.lock_writer, h.lock_kept, ?_, h.sends_error, h.writing_tag,
    fun _ => rfl, ?_, h.keys, ?_⟩
  · intro hlock
    exact absurd hfree hlock
  · intro hsome
    simp [Rekey.initSent, herr] at hsome
  · have hnext : Phase.next .between (.packet E.initPacket) = some .exchange := by
      simp [Phase.next, E.head_initPacket, msgKexInit, msgNewKeys]
    refine ⟨.exchange, phaseOf_append hlog hnext, ?_⟩
    unfold ReadLoop.InPhase
    split <;> simp_all [ReadLoop.Exchanging, Rekey.initSent]

/-- A packet of a writer has been written, and the mutex is free again. -/
theorem Sound.logged {p : Bytes} (h : s.Sound) (hinit : s.sentInit = false)
    (hopen : s.closed = false)
    (htag : p.head? ≠ some msgKexInit ∧ p.head? ≠ some msgNewKeys) : (s.logged p).Sound := by
  have herr := h.open_error hopen
  obtain ⟨hexchanging, hlog⟩ := h.between hinit herr
  refine ⟨h.lock_reader, h.lock_writer, h.lock_kept, h.holder_init, h.sends_error, h.writing_tag,
    h.exchanging, h.error_ended, h.keys, ?_⟩
  have hnext : Phase.next .between (.packet p) = some .between := by
    simp [Phase.next, htag.1, htag.2]
  refine ⟨.between, phaseOf_append hlog hnext, ?_⟩
  unfold ReadLoop.InPhase
  split <;> simp_all [ReadLoop.Exchanging, Rekey.logged]

/-- Where the goroutine goes that has asked for a key change. -/
def PacketWriter.behindInit : Option Bytes → PacketWriter
  | none => .idle
  | some p => .waiting p

theorem proceed_initSent (p : Option Bytes) :
    (s.initSent E).proceed i p = (s.setWriter i (PacketWriter.behindInit p) .free).initSent E := by
  cases p with
  | none => rfl
  | some p => rfl

theorem Sound.wrote (h : s.Sound) (i : Nat) (err : Option SshError) :
    (s.wrote E i err).Sound := by
  unfold Rekey.wrote
  split
  · rename_i p hwriter
    have hlock : s.lock = .writer i := (h.lock_writer i).mp (by rw [hwriter]; trivial)
    have hinit : s.sentInit = false := h.holder_init (by simp [hlock])
    split
    · exact h
    · rename_i hopen
      have hopen : s.closed = false := by simpa using hopen
      rw [proceed_initSent]
      have hnot : ¬ (PacketWriter.behindInit p).Holds := by
        cases p <;> simp [PacketWriter.behindInit, PacketWriter.Holds]
      exact (h.releases (.inr hlock) hnot).initSent rfl hinit hopen
  · rename_i hwriter
    have hlock : s.lock = .writer i := (h.lock_writer i).mp (by rw [hwriter]; trivial)
    exact h.proceed (.inr hlock)
  · rename_i p hwriter
    have hlock : s.lock = .writer i := (h.lock_writer i).mp (by rw [hwriter]; trivial)
    have hinit : s.sentInit = false := h.holder_init (by simp [hlock])
    split
    · exact h
    · rename_i hopen
      have hopen : s.closed = false := by simpa using hopen
      have hreleased : (s.setWriter i .idle .free).Sound :=
        h.releases (.inr hlock) (by simp [PacketWriter.Holds])
      exact hreleased.logged hinit hopen (h.writing_tag i p hwriter)
  · rename_i hwriter
    have hlock : s.lock = .writer i := (h.lock_writer i).mp (by rw [hwriter]; trivial)
    exact h.releases (.inr hlock) (by simp [PacketWriter.Holds])
  · exact h

theorem Sound.no_error (h : s.Sound) (hreader : s.reader ≠ .ended) : s.writeError = none := by
  cases herr : s.writeError with
  | none => rfl
  | some err => exact absurd (h.error_ended (by rw [herr]; rfl)).1 hreader

/-- A step of the reader; it may write to the log and give or take keys. -/
theorem Sound.moves {log : List Written} {pendingRead pendingWrite : Bool} (h : s.Sound)
    (hreader : s.reader ≠ .ended) (hholds : r.Holds ↔ lock = .reader)
    (hlock : ∀ i, lock = .writer i ↔ s.lock = .writer i) (hkept : lock = .kept → s.lock = .kept)
    (hinit : lock ≠ .free → s.sentInit = false) (hexchanging : r.Exchanging → s.sentInit = true)
    (hkeys : r.KeysFit pendingRead pendingWrite)
    (hphase : ∃ ph, phaseOf log = some ph ∧ r.InPhase s.sentInit false ph) :
    Rekey.Sound { s with
      log := log, pendingRead := pendingRead, pendingWrite := pendingWrite, reader := r
      lock := lock } where
  lock_reader := hholds
  lock_writer i := (h.lock_writer i).trans (hlock i).symm
  lock_kept hlock := h.lock_kept (hkept hlock)
  holder_init := hinit
  sends_error := h.sends_error
  writing_tag := h.writing_tag
  exchanging := hexchanging
  error_ended hsome := by
    rw [h.no_error hreader] at hsome
    cases hsome
  keys := hkeys
  phase := by
    rw [h.no_error hreader]
    exact hphase

/-- The same, where the mutex and the log stay as they are. -/
theorem Sound.goesOn (h : s.Sound) (hreader : s.reader ≠ .ended) (hnot : ¬ s.reader.Holds)
    (hholds : ¬ r.Holds) (hexchanging : r.Exchanging → s.sentInit = true)
    (hkeys : s.reader.KeysFit s.pendingRead s.pendingWrite →
      r.KeysFit s.pendingRead s.pendingWrite)
    (hphase : ∀ ph, s.reader.InPhase s.sentInit false ph → r.InPhase s.sentInit false ph) :
    Rekey.Sound { s with reader := r } := by
  obtain ⟨ph, hlog, hin⟩ := h.phase
  rw [h.no_error hreader] at hin
  have hlock : s.lock ≠ .reader := fun hlock => hnot (h.lock_reader.mpr hlock)
  exact h.moves hreader (iff_of_false hholds hlock) (fun _ => Iff.rfl) id h.holder_init
    hexchanging (hkeys h.keys) ⟨ph, hlog, hphase ph hin⟩

/-- The reader has taken the mutex to send its `kexInit`. -/
theorem Sound.locks (h : s.Sound) (hreader : s.reader ≠ .ended) (hfree : s.lock = .free)
    (hholds : r.Holds) (hinit : s.sentInit = false) (hexchanging : ¬ r.Exchanging)
    (hkeys : s.reader.KeysFit s.pendingRead s.pendingWrite →
      r.KeysFit s.pendingRead s.pendingWrite)
    (hphase : ∀ ph, s.reader.InPhase s.sentInit false ph → r.InPhase s.sentInit false ph) :
    Rekey.Sound { s with reader := r, lock := .reader } := by
  obtain ⟨ph, hlog, hin⟩ := h.phase
  rw [h.no_error hreader] at hin
  exact h.moves hreader (iff_of_true hholds rfl) (by simp [hfree]) (by simp) (fun _ => hinit)
    (fun hr => absurd hr hexchanging) (hkeys h.keys) ⟨ph, hlog, hphase ph hin⟩

/-- The reader has let go of the mutex. -/
theorem Sound.unlocks (h : s.Sound) (hreader : s.reader.Holds) (hholds : ¬ r.Holds)
    (hexchanging : ¬ r.Exchanging)
    (hkeys : s.reader.KeysFit s.pendingRead s.pendingWrite →
      r.KeysFit s.pendingRead s.pendingWrite)
    (hphase : ∀ ph, s.reader.InPhase s.sentInit false ph → r.InPhase s.sentInit false ph) :
    Rekey.Sound { s with reader := r, lock := .free } := by
  have hlock := h.lock_reader.mp hreader
  have hended : s.reader ≠ .ended := fun hended => by simp [hended, ReadLoop.Holds] at hreader
  obtain ⟨ph, hlog, hin⟩ := h.phase
  rw [h.no_error hended] at hin
  exact h.moves hended (iff_of_false hholds (by simp)) (by simp [hlock]) (by simp) (by simp)
    (fun hr => absurd hr hexchanging) (hkeys h.keys) ⟨ph, hlog, hphase ph hin⟩

theorem ReadLoop.Exchanging.elim (hreader : r.Exchanging) : r ≠ .ended ∧ ¬ r.Holds := by
  cases r <;> simp_all [ReadLoop.Exchanging, ReadLoop.Holds]

/-- A step of a key exchange that does something with the writing side. -/
theorem Sound.records {w : Written} {pendingRead pendingWrite : Bool} (h : s.Sound)
    (hreader : s.reader.Exchanging) (hnext : r.Exchanging)
    (hkeys : r.KeysFit pendingRead pendingWrite)
    (hphase : ∀ ph, s.reader.InPhase s.sentInit false ph →
      ∃ ph', ph.next w = some ph' ∧ r.InPhase s.sentInit false ph') :
    Rekey.Sound { s with
      log := s.log ++ [w], pendingRead := pendingRead, pendingWrite := pendingWrite
      reader := r } := by
  obtain ⟨hended, hnot⟩ := ReadLoop.Exchanging.elim hreader
  obtain ⟨ph, hlog, hin⟩ := h.phase
  rw [h.no_error hended] at hin
  obtain ⟨ph', hph, hin⟩ := hphase ph hin
  have hlock : s.lock ≠ .reader := fun hlock => hnot (h.lock_reader.mpr hlock)
  exact h.moves hended (iff_of_false (ReadLoop.Exchanging.elim hnext).2 hlock) (fun _ => Iff.rfl) id
    h.holder_init (fun _ => h.exchanging hreader) hkeys ⟨ph', phaseOf_append hlog hph, hin⟩

theorem Sound.fails {err : SshError} (h : s.Sound) (hreader : s.reader.Exchanging) :
    Rekey.Sound { s with reader := .leaving (some err) } := by
  have hinit := h.exchanging hreader
  refine h.goesOn ?_ ?_ (by simp [ReadLoop.Holds]) ?_ (fun _ => trivial) ?_
  · intro hended
    rw [hended] at hreader
    exact hreader
  · intro hholds
    cases hr : s.reader <;> simp_all [ReadLoop.Holds, ReadLoop.Exchanging]
  · intro hexchanging
    exact absurd hexchanging id
  · intro ph _ hnone
    rw [hinit] at hnone
    cases hnone

theorem Sound.crashes (h : s.Sound) : Rekey.Sound { s with crashed := true } := h.congr rfl

theorem serve_cases (kex : Bytes) :
    serve kex = .ok (.serving kex) ∨ ∃ err, serve kex = .error (.error err) := by
  unfold serve
  split
  · exact .inl rfl
  · exact .inr ⟨_, rfl⟩

theorem agree_cases (E : Exchange) (p : Bytes) :
    (∃ r kex, agree E p = .ok r ∧ (r = .skipping kex ∨ r = .serving kex)) ∨
      ∃ fault, agree E p = .error fault := by
  cases hagree : agree E p with
  | error fault => exact .inr ⟨fault, rfl⟩
  | ok r =>
      refine .inl ⟨r, ?_⟩
      unfold agree at hagree
      cases hinit : unmarshal kexInitMsg p with
      | error fault =>
          rw [hinit] at hagree
          cases hagree
      | ok record =>
          rw [hinit] at hagree
          simp only [bind, Except.bind] at hagree
          split at hagree
          · cases hagree
          rename_i algs _
          split at hagree
          · cases hagree
            exact ⟨algs.kex, rfl, .inl rfl⟩
          · rcases serve_cases algs.kex with hserve | ⟨err, hserve⟩
            · rw [hserve] at hagree
              cases hagree
              exact ⟨algs.kex, rfl, .inr rfl⟩
            · rw [hserve] at hagree
              cases hagree

theorem Sound.agrees {otherInit : Bytes} (h : s.Sound) (hreader : s.reader = .entering otherInit)
    (hinit : s.sentInit = true) : (s.continueWith (agree E otherInit)).Sound := by
  have hended : s.reader ≠ .ended := by simp [hreader]
  have hnot : ¬ s.reader.Holds := by simp [hreader, ReadLoop.Holds]
  rcases agree_cases E otherInit with ⟨r, kex, hagree, hr⟩ | ⟨fault, hagree⟩
  · rw [hagree]
    rcases hr with rfl | rfl
    · refine h.goesOn hended hnot (by simp [ReadLoop.Holds]) (fun _ => hinit) ?_ ?_
      · simp [hreader, ReadLoop.KeysFit]
      · simp [hreader, ReadLoop.InPhase, hinit]
    · refine h.goesOn hended hnot (by simp [ReadLoop.Holds]) (fun _ => hinit) ?_ ?_
      · simp [hreader, ReadLoop.KeysFit]
      · simp [hreader, ReadLoop.InPhase, hinit]
  · rw [hagree]
    cases fault with
    | panic e => exact h.crashes
    | error err =>
        refine h.goesOn hended hnot (by simp [ReadLoop.Holds]) (by simp [ReadLoop.Exchanging]) ?_ ?_
        · simp [ReadLoop.KeysFit]
        · simp [ReadLoop.InPhase, hinit]

theorem Sound.leave {err : Option SshError} (h : s.Sound) (hreader : s.reader = .leaving err)
    (hfree : s.lock = .free) : (s.leave err).Sound := by
  have hnone := h.no_error (by simp [hreader])
  obtain ⟨ph, hlog, hphase⟩ := h.phase
  have hwriters : ∀ i, ¬ (s.writers i).Holds := by
    intro i hholds
    have hlock := (h.lock_writer i).mp hholds
    simp [hfree] at hlock
  unfold Rekey.leave
  cases err with
  | some err =>
      refine ⟨?_, ?_, ?_, ?_, ?_, h.writing_tag, ?_, ?_, ?_, ph, hlog, ?_⟩
      · simp [ReadLoop.Holds, hfree]
      · exact h.lock_writer
      · simp [hfree]
      · simp [hfree]
      · intro i hsends
        refine absurd ?_ (hwriters i)
        cases hw : s.writers i <;> simp_all [PacketWriter.Sends, PacketWriter.Holds]
      · simp [ReadLoop.Exchanging]
      · exact fun _ => ⟨rfl, rfl, rfl, rfl⟩
      · trivial
      · simp [ReadLoop.InPhase]
  | none =>
      have hkeys := h.keys
      rw [hreader] at hkeys hphase
      refine ⟨?_, h.lock_writer, h.lock_kept, ?_, h.sends_error, h.writing_tag, ?_, ?_, hkeys,
        ph, hlog, hphase⟩
      · simp [ReadLoop.Holds, hfree]
      · simp [hfree]
      · simp [ReadLoop.Exchanging]
      · simp [hnone]

theorem Sound.readerTurn (h : s.Sound) : (s.readerTurn E).Sound := by
  unfold Rekey.readerTurn
  split
  · rename_i hreader
    split
    all_goals
      refine h.goesOn (by simp [hreader]) (by simp [hreader, ReadLoop.Holds])
        (by simp [ReadLoop.Holds]) (by simp [ReadLoop.Exchanging]) ?_ ?_
      · simp [hreader, ReadLoop.KeysFit]
      · simp [hreader, ReadLoop.InPhase]
  · rename_i hreader
    split
    · exact h
    rename_i hfree
    have hfree : s.lock = .free := not_not.mp hfree
    split
    · refine h.goesOn (by simp [hreader]) (by simp [hreader, ReadLoop.Holds])
        (by simp [ReadLoop.Holds]) (by simp [ReadLoop.Exchanging]) ?_ ?_
      · simp [hreader, ReadLoop.KeysFit]
      · simp [hreader, ReadLoop.InPhase]
    · rename_i hinit
      refine h.locks (by simp [hreader]) hfree trivial (by simpa using hinit)
        (by simp [ReadLoop.Exchanging]) ?_ ?_
      · simp [hreader, ReadLoop.KeysFit]
      · simp [hreader, ReadLoop.InPhase]
  · rename_i otherInit hreader
    split
    · exact h
    rename_i hfree
    have hfree : s.lock = .free := not_not.mp hfree
    split
    · rename_i hinit
      exact h.agrees hreader hinit
    · rename_i hinit
      refine h.locks (by simp [hreader]) hfree trivial (by simpa using hinit)
        (by simp [ReadLoop.Exchanging]) ?_ ?_
      · simp [hreader, ReadLoop.KeysFit]
      · simp [hreader, ReadLoop.InPhase]
  · rename_i hreader
    split
    · exact h
    · refine h.records (by simp [hreader, ReadLoop.Exchanging]) trivial ⟨rfl, rfl⟩ ?_
      rw [hreader]
      rintro ph (rfl | rfl)
      all_goals exact ⟨.prepared, rfl, rfl⟩
  · rename_i err hreader
    split
    · exact h
    · rename_i hfree
      exact h.leave hreader (not_not.mp hfree)
  · rename_i p hreader
    split
    · refine Sound.congr (s := { s with reader := .top }) ?_ rfl
      refine h.goesOn (by simp [hreader]) (by simp [hreader, ReadLoop.Holds])
        (by simp [ReadLoop.Holds]) (by simp [ReadLoop.Exchanging]) ?_ ?_
      · simp [hreader, ReadLoop.KeysFit]
      · simp [hreader, ReadLoop.InPhase]
    · exact h
  · exact h

theorem Sound.readerWrote (h : s.Sound) (err : Option SshError) : (s.readerWrote E err).Sound := by
  have hopened : ¬ s.closed = true → s.closed = false := by simp
  unfold Rekey.readerWrote
  split
  · rename_i hreader
    split
    · exact h
    · rename_i hopen
      have hinit := h.holder_init (by simp [h.lock_reader.mp (by simp [hreader, ReadLoop.Holds])])
      have hunlocked : Rekey.Sound { s with reader := .reading, lock := .free } := by
        refine h.unlocks (by simp [hreader, ReadLoop.Holds]) (by simp [ReadLoop.Holds])
          (by simp [ReadLoop.Exchanging]) ?_ ?_
        · simp [hreader, ReadLoop.KeysFit]
        · simp [hreader, ReadLoop.InPhase]
      exact hunlocked.initSent rfl hinit (hopened hopen)
  · rename_i hreader
    refine h.unlocks (by simp [hreader, ReadLoop.Holds]) (by simp [ReadLoop.Holds])
      (by simp [ReadLoop.Exchanging]) (fun _ => trivial) ?_
    simp [hreader, ReadLoop.InPhase]
  · rename_i otherInit hreader
    split
    · exact h
    · rename_i hopen
      have hinit := h.holder_init (by simp [h.lock_reader.mp (by simp [hreader, ReadLoop.Holds])])
      have hunlocked : Rekey.Sound { s with reader := .entering otherInit, lock := .free } := by
        refine h.unlocks (by simp [hreader, ReadLoop.Holds]) (by simp [ReadLoop.Holds])
          (by simp [ReadLoop.Exchanging]) ?_ ?_
        · simp [hreader, ReadLoop.KeysFit]
        · simp [hreader, ReadLoop.InPhase]
      exact (hunlocked.initSent rfl hinit (hopened hopen)).agrees rfl rfl
  · rename_i otherInit err hreader
    have hinit := h.holder_init (by simp [h.lock_reader.mp (by simp [hreader, ReadLoop.Holds])])
    refine h.unlocks (by simp [hreader, ReadLoop.Holds]) (by simp [ReadLoop.Holds])
      (by simp [ReadLoop.Exchanging]) (fun _ => trivial) ?_
    simp [hreader, ReadLoop.InPhase, hinit]
  · rename_i kex reply hreader
    split
    · exact h
    · have hkeys := h.keys
      rw [hreader] at hkeys
      refine h.records (by simp [hreader, ReadLoop.Exchanging]) trivial hkeys ?_
      rw [hreader]
      rintro ph ⟨rfl, htag⟩
      exact ⟨.replied, by simp [Phase.next, htag], .inr rfl⟩
  · rename_i kex reply err hreader
    split
    · refine h.goesOn (by simp [hreader]) (by simp [hreader, ReadLoop.Holds])
        (by simp [ReadLoop.Holds]) (fun _ => h.exchanging (by simp [hreader, ReadLoop.Exchanging]))
        ?_ ?_
      · simp [hreader, ReadLoop.KeysFit]
      · rw [hreader]
        exact fun ph hin => .inl hin.1
    · exact h.fails (by simp [hreader, ReadLoop.Exchanging])
  · rename_i hreader
    split
    · exact h
    split
    · have hkeys := h.keys
      rw [hreader] at hkeys
      refine h.records (by simp [hreader, ReadLoop.Exchanging]) trivial ⟨hkeys.1, rfl⟩ ?_
      simp [hreader, ReadLoop.InPhase, Phase.next]
    · exact h.crashes
  · rename_i err hreader
    exact h.fails (by simp [hreader, ReadLoop.Exchanging])
  · exact h

/-- A packet is handed on as it is; keys are only taken where they are pending. -/
theorem connRead_cases (s : Rekey) (r : Outcome Bytes) :
    (∃ fault, s.connRead r = .error fault) ∨
      (∃ p, s.connRead r = .ok (p, s) ∧ p.head? ≠ some msgNewKeys) ∨
      (∃ p, s.pendingRead = true ∧ p.head? = some msgNewKeys ∧ s.connRead r =
        .ok (p, { s with pendingRead := false, keysRead := s.keysRead + 1 })) := by
  unfold Rekey.connRead
  split
  · exact .inl ⟨_, rfl⟩
  · exact .inl ⟨_, rfl⟩
  · rename_i tag body
    split
    · rename_i htag
      split
      · rename_i hpending
        exact .inr (.inr ⟨tag :: body, hpending, by simp [htag], rfl⟩)
      · exact .inl ⟨_, rfl⟩
    · rename_i htag
      exact .inr (.inl ⟨tag :: body, rfl, by simpa using htag⟩)

theorem connRead_of_not_pending (hpending : s.pendingRead = false) (result : Outcome Bytes) :
    (∃ fault, s.connRead result = .error fault) ∨
      ∃ p, s.connRead result = .ok (p, s) ∧ p.head? ≠ some msgNewKeys := by
  rcases connRead_cases s result with hfault | hplain | ⟨p, hkeys, -⟩
  · exact .inl hfault
  · exact .inr hplain
  · rw [hpending] at hkeys
    cases hkeys

theorem Sound.continueWith_error (h : s.Sound) (hreader : s.reader.Exchanging) (fault : Fault) :
    (s.continueWith (.error fault)).Sound := by
  cases fault with
  | panic e => exact h.crashes
  | error err => exact h.fails hreader

theorem Sound.received (h : s.Sound) (result : Outcome Bytes) : (s.received E result).Sound := by
  unfold Rekey.received
  split
  · rename_i hreader
    have hkeys := h.keys
    rw [hreader] at hkeys
    have hended : s.reader ≠ .ended := by simp [hreader]
    have hnot : ¬ s.reader.Holds := by simp [hreader, ReadLoop.Holds]
    have hmoves : ∀ r : ReadLoop, r = .ended ∨ (∃ p, r = .entering p) ∨ r = .top ∨
        (∃ p, r = .delivering p) → Rekey.Sound { s with reader := r } := by
      rintro r (rfl | ⟨p, rfl⟩ | rfl | ⟨p, rfl⟩)
      all_goals
        refine h.goesOn hended hnot (by simp [ReadLoop.Holds]) (by simp [ReadLoop.Exchanging]) ?_ ?_
        · simp [hreader, ReadLoop.KeysFit]
        · simp [hreader, ReadLoop.InPhase]
    rcases connRead_of_not_pending hkeys.1 result with ⟨fault, hread⟩ | ⟨p, hread, -⟩
    · rw [hread]
      cases fault with
      | panic e => exact h.crashes
      | error err => exact hmoves _ (.inl rfl)
    · rw [hread]
      dsimp only
      split
      · exact (hmoves _ (.inr (.inl ⟨p, rfl⟩))).congr rfl
      split
      · exact (hmoves _ (.inr (.inr (.inl rfl)))).congr rfl
      · exact (hmoves _ (.inr (.inr (.inr ⟨p, rfl⟩)))).congr rfl
  · rename_i kex hreader
    have hexchanging : s.reader.Exchanging := by simp [hreader, ReadLoop.Exchanging]
    have hkeys := h.keys
    rw [hreader] at hkeys
    rcases connRead_of_not_pending hkeys.1 result with ⟨fault, hread⟩ | ⟨p, hread, -⟩
    · rw [hread]
      exact h.continueWith_error hexchanging fault
    · rw [hread]
      dsimp only
      rcases serve_cases kex with hserve | ⟨err, hserve⟩
      · rw [hserve]
        refine h.goesOn (by simp [hreader]) (by simp [hreader, ReadLoop.Holds])
          (by simp [ReadLoop.Holds]) (fun _ => h.exchanging hexchanging) ?_ ?_
        · simp [hreader, ReadLoop.KeysFit]
        · simp [hreader, ReadLoop.InPhase]
      · rw [hserve]
        exact h.continueWith_error hexchanging _
  · rename_i kex hreader
    have hexchanging : s.reader.Exchanging := by simp [hreader, ReadLoop.Exchanging]
    have hkeys := h.keys
    rw [hreader] at hkeys
    rcases connRead_of_not_pending hkeys.1 result with ⟨fault, hread⟩ | ⟨p, hread, -⟩
    · rw [hread]
      exact h.continueWith_error hexchanging fault
    · rw [hread]
      dsimp only
      cases hserver : E.server kex p with
      | error fault => exact h.continueWith_error hexchanging fault
      | ok reply =>
          refine h.goesOn (by simp [hreader]) (by simp [hreader, ReadLoop.Holds])
            (by simp [ReadLoop.Holds]) (fun _ => h.exchanging hexchanging) ?_ ?_
          · simp [hreader, ReadLoop.KeysFit]
          · simp [hreader, ReadLoop.InPhase, E.head_server hserver]
  · rename_i hreader
    have hexchanging : s.reader.Exchanging := by simp [hreader, ReadLoop.Exchanging]
    have hinit := h.exchanging hexchanging
    rcases connRead_cases s result with ⟨fault, hread⟩ | ⟨p, hread, htag⟩ | ⟨p, -, htag, hread⟩
    · rw [hread]
      exact h.continueWith_error hexchanging fault
    · rw [hread]
      dsimp only
      rw [if_neg htag]
      exact h.fails hexchanging
    · rw [hread]
      dsimp only
      rw [if_pos htag]
      obtain ⟨ph, hlog, hphase⟩ := h.phase
      have hkeys := h.keys
      have hlock : s.lock ≠ .reader := fun hlock => by
        have hholds := h.lock_reader.mpr hlock
        simp [hreader, ReadLoop.Holds] at hholds
      rw [hreader] at hkeys hphase
      rw [h.no_error (by simp [hreader])] at hphase
      have hmoved : Rekey.Sound { s with pendingRead := false, reader := .leaving none } :=
        h.moves (by simp [hreader]) (iff_of_false id hlock) (fun _ => Iff.rfl) id h.holder_init
          (fun _ => hinit) ⟨rfl, hkeys.2⟩ ⟨ph, hlog, hphase⟩
      exact hmoved.congr rfl
  · exact h

theorem Sound.call (h : s.Sound) (i : Nat) (p : Option Bytes) : (s.call i p).Sound := by
  unfold Rekey.call
  split
  · rename_i hidle
    split
    · exact h
    · have hfree : s.lock ≠ .writer i := fun hlock => by
        have hholds := (h.lock_writer i).mpr hlock
        simp [hidle, PacketWriter.Holds] at hholds
      exact h.setWriter Iff.rfl (iff_of_false (by simp [PacketWriter.Holds]) hfree)
        (fun _ _ => Iff.rfl) h.lock_kept h.holder_init (by simp [PacketWriter.Sends]) (by simp)
  · exact h

theorem Sound.step (h : s.Sound) (e : RekeyEvent) : (s.step E e).Sound := by
  unfold Rekey.step
  split
  · exact h
  cases e with
  | call i p => exact h.call i p
  | turn i => exact h.turn i
  | wrote i err => exact h.wrote i err
  | readerTurn => exact h.readerTurn
  | readerWrote err => exact h.readerWrote err
  | received result => exact h.received result
  | consume => exact h.congr rfl
  | close =>
      refine ⟨h.lock_reader, h.lock_writer, h.lock_kept, h.holder_init, h.sends_error,
        h.writing_tag, h.exchanging, ?_, h.keys, h.phase⟩
      intro hsome
      obtain ⟨hended, hinit, -, hzero⟩ := h.error_ended hsome
      exact ⟨hended, hinit, rfl, hzero⟩

theorem Sound.run (h : s.Sound) (events : List RekeyEvent) :
    (Foundation.run (Rekey.step E) s events).Sound :=
  run_invariant (fun _ e hs => hs.step e) h events

end Invariant

end Rekey

end DockerBastion.Ssh

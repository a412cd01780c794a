import DockerBastion.Env
import DockerBastion.Foundation.Run

/-!
# The key that signs the sessions

`genSessionKey` reads the key from a file and draws a new one where that fails.  The
error of writing the file is discarded, so a write that stops leaves a part of the key
for the next start.  The main result says for which outcomes of the file operations
every start still has a whole key.
-/

namespace DockerBastion.Manager

open Foundation

def keyLength : Nat := 171

/-- What `rand.Read` fills in. -/
structure Key where
  bytes : Bytes
  length_eq : bytes.length = keyLength

inductive WriteOutcome where
  | succeeds
  | failsBefore
  | stops (written : Nat) (interrupted : Bool)
  deriving DecidableEq, Repr

def WriteOutcome.interrupted : WriteOutcome → Bool
  | .stops _ interrupted => interrupted
  | _ => false

/-- One start of the process: what its three operations do where they are reached. -/
structure KeyStart where
  read : Option GoError
  rand : Except GoError Key
  write : WriteOutcome

def errNoSuchFile : GoError :=
  .other (ascii "open /var/lib/docker-bastion/session.key: no such file or directory")

def readFile (file : Option Bytes) (fault : Option GoError) : Except GoError Bytes :=
  match fault, file with
  | some err, _ => .error err
  | none, none => .error errNoSuchFile
  | none, some bytes => .ok bytes

/-- The file that `ioutil.WriteFile` leaves; it truncates one that exists. -/
def writeFile (file : Option Bytes) (data : Bytes) : WriteOutcome → Option Bytes
  | .succeeds => some data
  | .failsBefore => file
  | .stops written _ => some (data.take written)

/-- The result, `none` if the process is interrupted, and the file that is left. -/
def genSessionKey (file : Option Bytes) (start : KeyStart) :
    Option (Except GoError Bytes) × Option Bytes :=
  match readFile file start.read with
  | .ok key => (some (.ok key), file)
  | .error _ =>
      match start.rand with
      | .error err => (some (.error err), file)
      | .ok key =>
          (if start.write.interrupted then none else some (.ok key.bytes),
            writeFile file key.bytes start.write)

/-! ## Starts in sequence -/

structure KeyState where
  file : Option Bytes
  /-- Every key that `rand.Read` has produced so far; the program does not keep them. -/
  drawn : List Key

def KeyState.initial : KeyState := ⟨none, []⟩

def readFails (s : KeyState) (start : KeyStart) : Bool :=
  match readFile s.file start.read with
  | .ok _ => false
  | .error _ => true

def drawnBy (s : KeyState) (start : KeyStart) : List Key :=
  match readFails s start, start.rand with
  | true, .ok key => [key]
  | _, _ => []

def KeyState.step (s : KeyState) (start : KeyStart) : KeyState :=
  ⟨(genSessionKey s.file start).2, s.drawn ++ drawnBy s start⟩

/-- The key that the start uses. -/
def keyOf (s : KeyState) (start : KeyStart) : Option Bytes :=
  match (genSessionKey s.file start).1 with
  | some (.ok key) => some key
  | _ => none

def writeFails (s : KeyState) (start : KeyStart) : Bool :=
  !(drawnBy s start).isEmpty && start.write != .succeeds

def FullKey (s : KeyState) (start : KeyStart) : Prop :=
  ∀ key, keyOf s start = some key →
    key.length = keyLength ∧ ∃ drawn ∈ (s.step start).drawn, drawn.bytes = key

def Quiet (s : KeyState) (start : KeyStart) : Prop :=
  readFails s start = false ∧ writeFails s start = false

/-- No file operation fails after `first` has its key and up to the read of `second`. -/
structure Undisturbed (s : KeyState) (first : KeyStart) (between : List KeyStart)
    (second : KeyStart) : Prop where
  written : writeFails s first = false
  quiet : EachStep KeyState.step Quiet (s.step first) between
  readable : readFails (run KeyState.step (s.step first) between) second = false

/-- Two starts that no failure comes between use the same key. -/
def SameKeys (starts : List KeyStart) : Prop :=
  ∀ before first between second after,
    starts = before ++ first :: (between ++ second :: after) →
      ∀ s, s = run KeyState.step .initial before → Undisturbed s first between second →
        ∀ key, keyOf s first = some key →
          keyOf (run KeyState.step (s.step first) between) second = some key

/-- What the file is there for: whole keys, and the same one after every start. -/
def KeysHold (starts : List KeyStart) : Prop :=
  EachStep KeyState.step FullKey .initial starts ∧ SameKeys starts

/-! ## What the file holds -/

inductive Contents where
  | missing
  | whole
  | cut
  deriving DecidableEq, Repr

def Contents.written (contents : Contents) : WriteOutcome → Contents
  | .succeeds => .whole
  | .failsBefore => contents
  | .stops written _ => if written < keyLength then .cut else .whole

def Contents.next (contents : Contents) (start : KeyStart) : Contents :=
  match contents, start.read, start.rand with
  | .whole, none, _ => .whole
  | .cut, none, _ => .cut
  | _, _, .error _ => contents
  | _, _, .ok _ => contents.written start.write

/-- No start reads the file that a write left cut short. -/
def CutUnread (contents : Contents) (start : KeyStart) : Prop :=
  contents = .cut → start.read ≠ none

def Holds (s : KeyState) : Contents → Prop
  | .missing => s.file = none
  | .whole => ∃ key ∈ s.drawn, s.file = some key.bytes
  | .cut => ∃ bytes, s.file = some bytes ∧ bytes.length < keyLength

instance (contents : Contents) (start : KeyStart) : Decidable (CutUnread contents start) :=
  inferInstanceAs (Decidable (_ → ¬ _))

variable {s : KeyState} {contents : Contents} {start : KeyStart}

theorem readFile_eq_ok_iff {file : Option Bytes} {fault : Option GoError} {key : Bytes} :
    readFile file fault = .ok key ↔ fault = none ∧ file = some key := by
  cases fault <;> cases file <;> simp [readFile]

/-! ## One start -/

/-- A start that reads the file leaves everything as it is. -/
theorem step_of_read {key : Bytes} (h : readFile s.file start.read = .ok key) :
    keyOf s start = some key ∧ s.step start = s := by
  constructor
  · simp [keyOf, genSessionKey, h]
  · simp [KeyState.step, genSessionKey, drawnBy, readFails, h]

theorem step_of_rand_error {err₁ err₂ : GoError}
    (h : readFile s.file start.read = .error err₁) (hrand : start.rand = .error err₂) :
    keyOf s start = none ∧ s.step start = s := by
  constructor
  · simp [keyOf, genSessionKey, h, hrand]
  · simp [KeyState.step, genSessionKey, drawnBy, readFails, h, hrand]

theorem step_of_drawn {err : GoError} {key : Key}
    (h : readFile s.file start.read = .error err) (hrand : start.rand = .ok key) :
    keyOf s start = (if start.write.interrupted then none else some key.bytes) ∧
      s.step start = ⟨writeFile s.file key.bytes start.write, s.drawn ++ [key]⟩ := by
  constructor
  · simp only [keyOf, genSessionKey, h, hrand]
    cases start.write.interrupted with
    | true => rfl
    | false => rfl
  · simp [KeyState.step, genSessionKey, drawnBy, readFails, h, hrand]

theorem next_of_read (h : start.read = none) (hcontents : contents ≠ .missing) :
    contents.next start = contents := by
  cases contents with
  | missing => exact absurd rfl hcontents
  | whole => simp only [Contents.next, h]
  | cut => simp only [Contents.next, h]

theorem next_of_error (hholds : Holds s contents) {err : GoError}
    (h : readFile s.file start.read = .error err) :
    contents.next start =
      match start.rand with
      | .error _ => contents
      | .ok _ => contents.written start.write := by
  have hread : contents ≠ .missing → start.read ≠ none := by
    intro hcontents hnone
    obtain ⟨bytes, hfile⟩ : ∃ bytes, s.file = some bytes := by
      cases contents with
      | missing => exact absurd rfl hcontents
      | whole =>
          obtain ⟨key, -, hfile⟩ := hholds
          exact ⟨key.bytes, hfile⟩
      | cut =>
          obtain ⟨bytes, hfile, -⟩ := hholds
          exact ⟨bytes, hfile⟩
    rw [readFile_eq_ok_iff.mpr ⟨hnone, hfile⟩] at h
    cases h
  cases contents with
  | missing => cases hrand : start.rand <;> simp only [Contents.next, hrand]
  | whole =>
      obtain ⟨err', herr⟩ := Option.ne_none_iff_exists'.mp (hread (by decide))
      cases hrand : start.rand <;> simp only [Contents.next, herr, hrand]
  | cut =>
      obtain ⟨err', herr⟩ := Option.ne_none_iff_exists'.mp (hread (by decide))
      cases hrand : start.rand <;> simp only [Contents.next, herr, hrand]

theorem holds_written (h : Holds s contents) (key : Key) (write : WriteOutcome) :
    Holds ⟨writeFile s.file key.bytes write, s.drawn ++ [key]⟩ (contents.written write) := by
  have hwhole : Holds ⟨some key.bytes, s.drawn ++ [key]⟩ .whole := ⟨key, by simp, rfl⟩
  cases write with
  | succeeds => exact hwhole
  | failsBefore =>
      cases contents with
      | missing => exact h
      | whole =>
          obtain ⟨old, hold, hfile⟩ := h
          exact ⟨old, List.mem_append_left _ hold, hfile⟩
      | cut => exact h
  | stops written interrupted =>
      simp only [writeFile, Contents.written]
      split
      · rename_i hshort
        refine ⟨key.bytes.take written, rfl, ?_⟩
        rw [List.length_take]
        omega
      · rename_i hlong
        have hall : key.bytes.take written = key.bytes := by
          apply List.take_of_length_le
          rw [key.length_eq]
          omega
        rw [hall]
        exact hwhole

theorem holds_step (h : Holds s contents) (start : KeyStart) :
    Holds (s.step start) (contents.next start) := by
  cases hfile : readFile s.file start.read with
  | ok key =>
      obtain ⟨hread, hsome⟩ := readFile_eq_ok_iff.mp hfile
      have hcontents : contents ≠ .missing := by
        rintro rfl
        rw [show s.file = none from h] at hsome
        cases hsome
      rw [(step_of_read hfile).2, next_of_read hread hcontents]
      exact h
  | error err =>
      rw [next_of_error h hfile]
      cases hrand : start.rand with
      | error err' =>
          rw [(step_of_rand_error hfile hrand).2]
          exact h
      | ok key =>
          rw [(step_of_drawn hfile hrand).2]
          exact holds_written h key start.write

/-- A start has a whole key unless it reads one that was cut short. -/
theorem fullKey_iff (h : Holds s contents) : FullKey s start ↔ CutUnread contents start := by
  cases hfile : readFile s.file start.read with
  | ok key =>
      obtain ⟨hread, hsome⟩ := readFile_eq_ok_iff.mp hfile
      obtain ⟨hkey, hstep⟩ := step_of_read hfile
      cases contents with
      | missing =>
          rw [show s.file = none from h] at hsome
          cases hsome
      | whole =>
          refine iff_of_true ?_ (fun hcut => by cases hcut)
          obtain ⟨drawn, hdrawn, hbytes⟩ := h
          rw [hsome] at hbytes
          cases hbytes
          intro key' hkey'
          rw [hkey] at hkey'
          cases hkey'
          refine ⟨drawn.length_eq, drawn, ?_, rfl⟩
          rw [hstep]
          exact hdrawn
      | cut =>
          refine iff_of_false ?_ (fun hunread => hunread rfl hread)
          intro hfull
          obtain ⟨bytes, hbytes, hshort⟩ := h
          rw [hsome] at hbytes
          cases hbytes
          have hlength := (hfull key hkey).1
          omega
  | error err =>
      refine iff_of_true ?_ ?_
      · intro key' hkey'
        cases hrand : start.rand with
        | error err' =>
            rw [(step_of_rand_error hfile hrand).1] at hkey'
            cases hkey'
        | ok key =>
            obtain ⟨hkey, hstep⟩ := step_of_drawn hfile hrand
            rw [hkey] at hkey'
            split at hkey'
            · cases hkey'
            · cases hkey'
              refine ⟨key.length_eq, key, ?_, rfl⟩
              rw [hstep]
              simp
      · rintro rfl hread
        obtain ⟨bytes, hbytes, -⟩ := h
        rw [readFile_eq_ok_iff.mpr ⟨hread, hbytes⟩] at hfile
        cases hfile

/-! ## The same key -/

theorem file_of_undisturbed {key : Bytes} (hkey : keyOf s start = some key)
    (hwrite : writeFails s start = false) : (s.step start).file = some key := by
  cases hfile : readFile s.file start.read with
  | ok key' =>
      obtain ⟨hkey', hstep⟩ := step_of_read hfile
      rw [hkey'] at hkey
      cases hkey
      rw [hstep]
      exact (readFile_eq_ok_iff.mp hfile).2
  | error err =>
      cases hrand : start.rand with
      | error err' =>
          rw [(step_of_rand_error hfile hrand).1] at hkey
          cases hkey
      | ok drawn =>
          obtain ⟨hkey', hstep⟩ := step_of_drawn hfile hrand
          have hsucceeds : start.write = .succeeds := by
            simpa [writeFails, drawnBy, readFails, hfile, hrand] using hwrite
          rw [hkey', hsucceeds] at hkey
          cases hkey
          rw [hstep, hsucceeds]
          rfl

theorem step_of_readable (h : readFails s start = false) : s.step start = s := by
  cases hfile : readFile s.file start.read with
  | ok key => exact (step_of_read hfile).2
  | error err => simp [readFails, hfile] at h

theorem run_of_quiet {starts : List KeyStart} (h : EachStep KeyState.step Quiet s starts) :
    run KeyState.step s starts = s := by
  induction starts with
  | nil => rfl
  | cons start starts ih =>
      have hsame : s.step start = s := step_of_readable h.1.1
      have hrest := h.2
      rw [hsame] at hrest
      rw [run_cons, hsame]
      exact ih hrest

theorem sameKeys (starts : List KeyStart) : SameKeys starts := by
  rintro before first between second after rfl s rfl ⟨hwritten, hquiet, hreadable⟩ key hkey
  have hfile := file_of_undisturbed hkey hwritten
  rw [run_of_quiet hquiet] at hreadable ⊢
  cases hread : readFile ((run KeyState.step .initial before).step first).file second.read with
  | ok key' =>
      rw [(step_of_read hread).1]
      rw [(readFile_eq_ok_iff.mp hread).2] at hfile
      exact hfile
  | error err => simp [readFails, hread] at hreadable

/-! ## When the keys hold -/

/--
Every start has a whole key, and the same one as the starts before it, exactly if no
start reads the file after a write that stopped short and before a write that reached
the file again.
-/
theorem keysHold_iff (starts : List KeyStart) :
    KeysHold starts ↔ EachStep Contents.next CutUnread .missing starts := by
  have hstep : ∀ s contents start, Holds s contents →
      Holds (s.step start) (contents.next start) := fun _ _ start h => holds_step h start
  have hiff : ∀ s contents start, Holds s contents →
      (FullKey s start ↔ CutUnread contents start) := fun _ _ _ h => fullKey_iff h
  have hinitial : Holds .initial .missing := rfl
  have hfull : EachStep KeyState.step FullKey .initial starts ↔
      EachStep Contents.next CutUnread .missing starts :=
    eachStep_iff_of_follows hstep hiff hinitial starts
  constructor
  · rintro ⟨h, -⟩
    exact hfull.mp h
  · intro h
    exact ⟨hfull.mpr h, sameKeys starts⟩

def someKey : Key := ⟨List.replicate keyLength 0, List.length_replicate⟩

/-- The disk is full at the first start. -/
def fullDiskRun : List KeyStart :=
  [⟨none, .ok someKey, .stops 0 false⟩, ⟨none, .ok someKey, .succeeds⟩]

theorem fullDiskRun_empty_key : ¬ KeysHold fullDiskRun := by
  rintro ⟨⟨-, hsecond, -⟩, -⟩
  have hlength := (hsecond [] rfl).1
  cases hlength

end DockerBastion.Manager

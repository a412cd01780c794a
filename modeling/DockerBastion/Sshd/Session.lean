import DockerBastion.Sshd.Channel

/-!
# A session

`handleChannel` starts `docker exec` on a pty and two copy loops, one from the pty
to the channel and one from the channel to the pty.  A loop whose copy has ended
runs `closeChannel`, which closes the channel and waits for the process; a
`sync.Once` makes the second loop wait for the first and do nothing.  An event is
one step of a loop, of the process or of the client; an event that would block
changes nothing.  The terminal is taken as raw: it passes on every byte as it is.
-/

namespace DockerBastion.Sshd

open Foundation

inductive Process where
  | running
  /-- In a read of its terminal. -/
  | reading
  | exited
  deriving DecidableEq, Repr

/-- Where a copy loop is: in `io.Copy`, before `once.Do`, in `closeChannel`, ended. -/
inductive Loop where
  | reading
  | writing (chunk : Bytes)
  | copied
  | closing
  | done
  deriving DecidableEq, Repr

inductive Once where
  | fresh
  | running
  | finished
  deriving DecidableEq, Repr

inductive Direction where
  | output
  | input
  deriving DecidableEq, Repr

/--
`terminal` is what has been written to the pty and not yet read by the process,
`screen` what the process has written and the output loop not yet read; `output` is
all that the process has written, `input` what the client has sent and the input loop
not yet read, `written` what has gone to the channel before it was closed.
`inputEnded` says that the client sends no more and `left` that it reads no more.
-/
structure ExecSession where
  process : Process
  terminal : Bytes
  screen : Bytes
  output : Bytes
  input : Bytes
  inputEnded : Bool
  left : Bool
  outLoop : Loop
  inLoop : Loop
  once : Once
  written : Bytes
  closes : Nat
  size : Option Winsize
  deriving DecidableEq

def ExecSession.start : ExecSession where
  process := .running
  terminal := []
  screen := []
  output := []
  input := []
  inputEnded := false
  left := false
  outLoop := .reading
  inLoop := .reading
  once := .fresh
  written := []
  closes := 0
  size := none

inductive SessionEvent where
  | processWrites (bytes : Bytes)
  | processReads (n : Nat)
  | processExits
  | clientSends (bytes : Bytes)
  | clientEnds
  | clientLeaves
  | request (req : Request)
  | reads (d : Direction) (n : Nat)
  | writes (d : Direction) (fails : Bool)
  | closes (d : Direction)
  | waited (d : Direction)
  deriving DecidableEq, Repr

namespace ExecSession

def loop (s : ExecSession) : Direction → Loop
  | .output => s.outLoop
  | .input => s.inLoop

def setLoop (s : ExecSession) (l : Loop) : Direction → ExecSession
  | .output => { s with outLoop := l }
  | .input => { s with inLoop := l }

/-! ## The process and the client -/

def processWrites (s : ExecSession) (bytes : Bytes) : ExecSession :=
  if s.process = .exited then s
  else { s with screen := s.screen ++ bytes, output := s.output ++ bytes }

/-- A read of `n + 1` bytes; it blocks while there is none. -/
def processReads (s : ExecSession) (n : Nat) : ExecSession :=
  if s.process = .exited then s
  else if s.terminal = [] then { s with process := .reading }
  else { s with process := .running, terminal := s.terminal.drop (n + 1) }

def clientSends (s : ExecSession) (bytes : Bytes) : ExecSession :=
  if s.inputEnded then s else { s with input := s.input ++ bytes }

def sizeAfter (size : Option Winsize) (effects : List Effect) : Option Winsize :=
  effects.foldl
    (fun size effect =>
      match effect with
      | .setWinsize ws => some ws
      | .reply _ => size)
    size

/-- The request loop; a panic is the end of the whole process and not shown here. -/
def request (s : ExecSession) (req : Request) : ExecSession :=
  if s.inputEnded then s
  else
    match handleRequest req with
    | .ok effects => { s with size := sizeAfter s.size effects }
    | .error _ => s

/-! ## The copy loops -/

/-- `fp.Read` gives what is on the screen and fails once the process has exited. -/
def readOutput (s : ExecSession) (n : Nat) : ExecSession :=
  if s.outLoop = .reading then
    if s.screen ≠ [] then
      { s with
        outLoop := .writing (s.screen.take (n + 1))
        screen := s.screen.drop (n + 1) }
    else if s.process = .exited then { s with outLoop := .copied }
    else s
  else s

/-- `channel.Read` gives what the client has sent, and then EOF. -/
def readInput (s : ExecSession) (n : Nat) : ExecSession :=
  if s.inLoop = .reading then
    if s.input ≠ [] then
      { s with
        inLoop := .writing (s.input.take (n + 1))
        input := s.input.drop (n + 1) }
    else if s.inputEnded then { s with inLoop := .copied }
    else s
  else s

/-- `channel.Write` fails once the channel is closed on either side. -/
def writeOutput (s : ExecSession) : ExecSession :=
  match s.outLoop with
  | .writing chunk =>
      if s.closes ≠ 0 ∨ s.left then { s with outLoop := .copied }
      else { s with outLoop := .reading, written := s.written ++ chunk }
  | _ => s

/-- `fp.Write` may fail when the process has exited. -/
def writeInput (s : ExecSession) (fails : Bool) : ExecSession :=
  match s.inLoop with
  | .writing chunk =>
      if fails = true ∧ s.process = .exited then { s with inLoop := .copied }
      else { s with inLoop := .reading, terminal := s.terminal ++ chunk }
  | _ => s

/-- `once.Do(closeChannel)` up to the wait for the process. -/
def close (s : ExecSession) (d : Direction) : ExecSession :=
  if s.loop d = .copied then
    match s.once with
    | .fresh => { s.setLoop .closing d with once := .running, closes := s.closes + 1 }
    | .running => s
    | .finished => s.setLoop .done d
  else s

def waited (s : ExecSession) (d : Direction) : ExecSession :=
  if s.loop d = .closing ∧ s.process = .exited then
    { s.setLoop .done d with once := .finished }
  else s

def step (s : ExecSession) : SessionEvent → ExecSession
  | .processWrites bytes => s.processWrites bytes
  | .processReads n => s.processReads n
  | .processExits => { s with process := .exited }
  | .clientSends bytes => s.clientSends bytes
  | .clientEnds => { s with inputEnded := true }
  | .clientLeaves => { s with inputEnded := true, left := true }
  | .request req => s.request req
  | .reads .output n => s.readOutput n
  | .reads .input n => s.readInput n
  | .writes .output _ => s.writeOutput
  | .writes .input fails => s.writeInput fails
  | .closes d => s.close d
  | .waited d => s.waited d

end ExecSession

/-- A step of one of the goroutines that `handleChannel` starts. -/
def SessionEvent.ofProgram : SessionEvent → Bool
  | .request _ | .reads _ _ | .writes _ _ | .closes _ | .waited _ => true
  | _ => false

end DockerBastion.Sshd

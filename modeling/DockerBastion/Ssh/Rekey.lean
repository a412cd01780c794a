import DockerBastion.Ssh.Negotiate
import Mathlib.Logic.Function.Basic

/-!
# Rekeying

One goroutine reads the packets of a connection and exchanges keys with the client
where it asks for it; any number of others write packets.  They share a mutex, the
`kexInit` that has been sent and not yet been answered, and the error that ended an
exchange.  What a goroutine does between two points at which it waits, for the mutex,
for the connection or for the other end of a channel, is one step.

While the connection writes a packet the goroutine that writes is in a state of its
own, so that the interleavings show who uses the connection together.
-/

namespace DockerBastion.Ssh

open Foundation Sshd Function

def msgIgnore : UInt8 := 2

def msgDebug : UInt8 := 4

def msgKexInit : UInt8 := 20

def msgKexDHReply : UInt8 := 31

/-- The names that `kexAlgoMap` gives to a `dhGroup`. -/
def dhGroupNames : List Bytes :=
  [ascii "diffie-hellman-group1-sha1", ascii "diffie-hellman-group14-sha1"]

/--
What a server brings to the key exchange; `server` is that of the algorithm's name, up to
the reply that it writes.
-/
structure Exchange where
  rekeyThreshold : UInt64
  own : KexInit
  server : Bytes → Bytes → Outcome Bytes
  head_server : ∀ {kex packet reply}, server kex packet = .ok reply →
    reply.head? = some msgKexDHReply

/-- The packet of `sendKexInitLocked`. -/
def Exchange.initPacket (E : Exchange) : Bytes := marshal kexInitMsg E.own.record

theorem Exchange.head_initPacket (E : Exchange) : E.initPacket.head? = some msgKexInit := rfl

/-! ## The goroutines -/

/-- Where the goroutine of `readLoop` is. -/
inductive ReadLoop where
  | top
  /-- It waits for the mutex, to ask for a key change. -/
  | requesting
  | requestWriting
  | reading
  /-- It waits for the mutex, to send its own `kexInit`. -/
  | entering (otherInit : Bytes)
  | enterWriting (otherInit : Bytes)
  /-- It reads a packet that the client has sent for another algorithm. -/
  | skipping (kex : Bytes)
  | serving (kex : Bytes)
  | replying (kex reply : Bytes)
  | preparing
  | changing
  | awaiting
  /-- It waits for the mutex, to let the writers go on. -/
  | leaving (err : Option SshError)
  | delivering (p : Bytes)
  | ended
  deriving DecidableEq

/-- Where a goroutine is that calls `writePacket`, or `requestKeyChange` for `none`. -/
inductive PacketWriter where
  | idle
  | calling (p : Option Bytes)
  | initWriting (p : Option Bytes)
  /-- It sleeps until a key exchange has ended. -/
  | waiting (p : Bytes)
  | writing (p : Bytes)
  deriving DecidableEq

/-- Who holds `t.mu`; nobody does who could unlock it where it is `kept`. -/
inductive Lock where
  | free
  | reader
  | writer (i : Nat)
  | kept
  deriving DecidableEq, Repr

/-- What the writing side of the connection has done. -/
inductive Written where
  | prepared
  | packet (p : Bytes)
  deriving DecidableEq, Repr

structure Rekey where
  lock : Lock
  sentInit : Bool
  writeError : Option SshError
  writtenSinceKex : UInt64
  readSinceKex : UInt64
  reader : ReadLoop
  writers : Nat → PacketWriter
  incoming : List Bytes
  /-- The connection has keys prepared for its reader and for its writer. -/
  pendingRead : Bool
  pendingWrite : Bool
  /-- How often the reader of the connection has changed its keys. -/
  keysRead : Nat
  log : List Written
  closed : Bool
  /-- A panic ends the process. -/
  crashed : Bool

inductive RekeyEvent where
  | call (i : Nat) (p : Option Bytes)
  /-- The mutex is given to the goroutine `i`. -/
  | turn (i : Nat)
  | wrote (i : Nat) (err : Option SshError)
  /-- The reader goes on by itself. -/
  | readerTurn
  | readerWrote (err : Option SshError)
  | received (r : Outcome Bytes)
  | consume
  | close

namespace Rekey

def start : Rekey where
  lock := .free
  sentInit := false
  writeError := none
  writtenSinceKex := 0
  readSinceKex := 0
  reader := .top
  writers _ := .idle
  incoming := []
  pendingRead := false
  pendingWrite := false
  keysRead := 0
  log := []
  closed := false
  crashed := false

/-! ## Writing -/

def setWriter (s : Rekey) (i : Nat) (w : PacketWriter) (lock : Lock) : Rekey :=
  { s with writers := update s.writers i w, lock := lock }

/-- Nobody calls `writePacket` with an empty packet. -/
def call (s : Rekey) (i : Nat) (p : Option Bytes) : Rekey :=
  match s.writers i with
  | .idle => if p = some [] then s else s.setWriter i (.calling p) s.lock
  | _ => s

/-- `writePacket` behind the check of the threshold, or the end of `requestKeyChange`. -/
def proceed (s : Rekey) (i : Nat) (p : Option Bytes) : Rekey :=
  match p with
  | none => s.setWriter i .idle .free
  | some p =>
      if s.sentInit then s.setWriter i (.waiting p) .free
      -- the mutex is not unlocked
      else if s.writeError.isSome then s.setWriter i .idle .kept
      else
        let s := { s with writtenSinceKex := s.writtenSinceKex + UInt64.ofNat p.length }
        if p.head? = some msgKexInit ∨ p.head? = some msgNewKeys then s.setWriter i .idle .free
        else s.setWriter i (.writing p) (.writer i)

def turn (E : Exchange) (s : Rekey) (i : Nat) : Rekey :=
  if s.lock ≠ .free then s
  else
    match s.writers i with
    | .calling none =>
        if s.sentInit then s.proceed i none else s.setWriter i (.initWriting none) (.writer i)
    | .calling (some p) =>
        if s.writtenSinceKex > E.rekeyThreshold ∧ ¬ s.sentInit then
          s.setWriter i (.initWriting (some p)) (.writer i)
        else s.proceed i (some p)
    | .waiting p => s.proceed i (some p)
    | _ => s

def initSent (E : Exchange) (s : Rekey) : Rekey :=
  { s with sentInit := true, log := s.log ++ [.packet E.initPacket] }

def logged (s : Rekey) (p : Bytes) : Rekey := { s with log := s.log ++ [.packet p] }

/-- The connection has written a packet for the goroutine `i`, or has failed to. -/
def wrote (E : Exchange) (s : Rekey) (i : Nat) (err : Option SshError) : Rekey :=
  match s.writers i, err with
  | .initWriting p, none =>
      if s.closed then s else (s.initSent E).proceed i p
  -- `writePacket` does not look at the error
  | .initWriting p, some _ => s.proceed i p
  | .writing p, none =>
      if s.closed then s else (s.logged p).setWriter i .idle .free
  | .writing _, some _ => s.setWriter i .idle .free
  | _, _ => s

/-! ## Reading -/

def continueWith (s : Rekey) : Outcome ReadLoop → Rekey
  | .ok r => { s with reader := r }
  | .error (.error err) => { s with reader := .leaving (some err) }
  | .error (.panic _) => { s with crashed := true }

def serve (kex : Bytes) : Outcome ReadLoop :=
  if kex ∈ kexAlgoNames then .ok (.serving kex)
  else .error (.error (.other (ascii "ssh: unexpected key exchange algorithm " ++ kex)))

/-- `enterKeyExchange` behind its `sendKexInit`, up to the next packet. -/
def agree (E : Exchange) (otherInitPacket : Bytes) : Outcome ReadLoop := do
  let otherInit := KexInit.ofRecord (← unmarshal kexInitMsg otherInitPacket)
  match findAgreedAlgorithms otherInit E.own with
  | none => .error (.error (.other (ascii "ssh: no common algorithms")))
  | some algs =>
      if otherInit.firstKexFollows ∧ otherInit.kexAlgos.head? ≠ some algs.kex then
        return .skipping algs.kex
      else serve algs.kex

/-- The end of `readOnePacket` behind a key exchange. -/
def leave (s : Rekey) (err : Option SshError) : Rekey :=
  let s := { s with sentInit := false, writtenSinceKex := 0 }
  match err with
  | some err => { s with writeError := some err, closed := true, reader := .ended }
  | none => { s with readSinceKex := 0, reader := .delivering [msgNewKeys] }

def readerTurn (E : Exchange) (s : Rekey) : Rekey :=
  match s.reader with
  | .top =>
      if s.readSinceKex > E.rekeyThreshold then { s with reader := .requesting }
      else { s with reader := .reading }
  | .requesting =>
      if s.lock ≠ .free then s
      else if s.sentInit then { s with reader := .reading }
      else { s with reader := .requestWriting, lock := .reader }
  | .entering otherInit =>
      if s.lock ≠ .free then s
      else if s.sentInit then s.continueWith (agree E otherInit)
      else { s with reader := .enterWriting otherInit, lock := .reader }
  | .preparing =>
      if s.pendingRead ∨ s.pendingWrite then s
      else
        { s with
          pendingRead := true, pendingWrite := true, log := s.log ++ [.prepared]
          reader := .changing }
  | .leaving err => if s.lock ≠ .free then s else s.leave err
  | .delivering p =>
      if s.incoming.length < 16 then { s with incoming := s.incoming ++ [p], reader := .top }
      else s
  | _ => s

def readerWrote (E : Exchange) (s : Rekey) (err : Option SshError) : Rekey :=
  match s.reader, err with
  | .requestWriting, none =>
      if s.closed then s else { s.initSent E with lock := .free, reader := .reading }
  | .requestWriting, some _ => { s with lock := .free, reader := .ended }
  | .enterWriting otherInit, none =>
      if s.closed then s
      else
        let s := { s.initSent E with lock := .free, reader := .entering otherInit }
        s.continueWith (agree E otherInit)
  | .enterWriting _, some err => { s with lock := .free, reader := .leaving (some err) }
  | .replying _ reply, none =>
      if s.closed then s else { s.logged reply with reader := .preparing }
  | .replying kex _, some err =>
      -- `Server` of a `dhGroup` does not return the error of its write
      if kex ∈ dhGroupNames then { s with reader := .preparing }
      else { s with reader := .leaving (some err) }
  | .changing, none =>
      if s.closed then s
      else if s.pendingWrite then
        { s.logged [msgNewKeys] with pendingWrite := false, reader := .awaiting }
      -- there is no key material
      else { s with crashed := true }
  | .changing, some err => { s with reader := .leaving (some err) }
  | _, _ => s

/-- What `readPacket` of the connection makes of a packet that its cipher has read. -/
def connRead (s : Rekey) (r : Outcome Bytes) : Outcome (Bytes × Rekey) :=
  match r with
  | .error fault => .error fault
  | .ok [] => .error (cipherError "ssh: zero length packet")
  | .ok (tag :: body) =>
      if tag = msgNewKeys then
        if s.pendingRead then
          .ok (tag :: body, { s with pendingRead := false, keysRead := s.keysRead + 1 })
        else .error (cipherError "ssh: got bogus newkeys message.")
      else .ok (tag :: body, s)

def received (E : Exchange) (s : Rekey) (r : Outcome Bytes) : Rekey :=
  match s.reader with
  | .reading =>
      match s.connRead r with
      | .error (.error _) => { s with reader := .ended }
      | .error (.panic _) => { s with crashed := true }
      | .ok (p, s) =>
          let s := { s with readSinceKex := s.readSinceKex + UInt64.ofNat p.length }
          if p.head? = some msgKexInit then { s with reader := .entering p }
          else if p.head? = some msgIgnore ∨ p.head? = some msgDebug then
            { s with reader := .top }
          else { s with reader := .delivering p }
  | .skipping kex =>
      match s.connRead r with
      | .error fault => s.continueWith (.error fault)
      | .ok (_, s) => s.continueWith (serve kex)
  | .serving kex =>
      match s.connRead r with
      | .error fault => s.continueWith (.error fault)
      | .ok (p, s) => s.continueWith ((E.server kex p).map (.replying kex))
  | .awaiting =>
      match s.connRead r with
      | .error fault => s.continueWith (.error fault)
      | .ok (p, s) =>
          if p.head? = some msgNewKeys then { s with reader := .leaving none }
          else
            { s with
              reader := .leaving (some (.unexpectedMessage msgNewKeys (p.headD 0))) }
  | _ => s

/-! ## The steps -/

def advance (E : Exchange) (s : Rekey) : RekeyEvent → Rekey
  | .call i p => s.call i p
  | .turn i => s.turn E i
  | .wrote i err => s.wrote E i err
  | .readerTurn => s.readerTurn E
  | .readerWrote err => s.readerWrote E err
  | .received r => s.received E r
  | .consume => { s with incoming := s.incoming.tail }
  | .close => { s with closed := true }

def step (E : Exchange) (s : Rekey) (e : RekeyEvent) : Rekey :=
  if s.crashed then s else s.advance E e

end Rekey

/-- A server that answers every packet of a key exchange alike. -/
def mixedExchange : Exchange where
  rekeyThreshold := serverConfig.rekeyThreshold
  own := ownKexInit serverConfig [ascii "ssh-rsa"] zeroCookie
  server _ _ := .ok [msgKexDHReply]
  head_server := by
    rintro _ _ _ ⟨⟩
    rfl

end DockerBastion.Ssh

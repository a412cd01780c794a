import DockerBastion.Foundation.Run
import DockerBastion.Ssh.Userauth
import DockerBastion.Ssh.Window

/-!
# A channel of an SSH connection

The main loop of the connection hands the packets of the client to the channel they
name; `io.Copy` of a session writes to the channel and reads from it, and other
goroutines answer requests and close it.  An event is one step of one of them; an
event that would block changes nothing.

The client may send whatever it likes.  The main results say what the server owes
it nevertheless: it sends no more than the client's window allows and nothing out
of order, and it never refuses data for which it has announced room.
-/

namespace DockerBastion.Ssh

open Foundation Sshd

def channelMaxPacket : UInt32 := 32768

def channelWindowSize : UInt32 := 64 * channelMaxPacket

def msgChannelData : UInt8 := 94

def msgChannelExtendedData : UInt8 := 95

def msgChannelEOF : UInt8 := 96

def msgChannelClose : UInt8 := 97

def otherError (message : String) : SshError := .other (ascii message)

def errUndecided : SshError := otherError "ssh: must Accept or Reject channel"

def errDecidedAlready : SshError := otherError "ssh: can call Accept or Reject only once"

/-- `binary.BigEndian.Uint32` where the bounds have been checked. -/
def uint32At (packet : Bytes) (i : Nat) : UInt32 := UInt32.ofNat (declared (packet.drop i))

/-- An unknown tag is an error; what the known ones say is read by the caller. -/
def decode (packet : Bytes) : Outcome Unit :=
  match messages.find? fun s => packet.head? == some s.tag with
  | none => .error (.error (.unexpectedMessage 0 (packet.headD 0)))
  | some s => (unmarshal s packet).map fun _ => ()

structure ChannelRequest where
  type : Bytes
  wantReply : Bool
  payload : Bytes
  deriving DecidableEq, Repr

/--
A channel that the client has opened.  `sent` is what it has handed to the connection;
`queuesClosed` says that `msg` and `incomingRequests` have been closed.
-/
structure Channel where
  chanType : Bytes
  localId : UInt32
  remoteId : UInt32
  maxIncomingPayload : UInt32
  maxRemotePayload : UInt32
  decided : Bool
  msg : List Bytes
  incomingRequests : List ChannelRequest
  queuesClosed : Bool
  sentEOF : Bool
  remoteWin : Window
  pending : Buffer
  extPending : Buffer
  myWindow : UInt32
  sentClose : Bool
  sent : List Bytes
  deriving DecidableEq, Repr

/-- The capacity of `msg` and of `incomingRequests`. -/
def queueCapacity : Nat := 16

/-- What the main loop makes of a packet. -/
inductive Handled where
  | kept (c : Channel)
  /-- The channel is off the list. -/
  | removed (c : Channel)
  | failed (fault : Fault)
  /-- A queue is full. -/
  | waits
  /-- A queue that has been closed is closed again, or is sent something. -/
  | crashes

namespace Channel

def writePacket (c : Channel) (packet : Bytes) (write : Option SshError) :
    Channel × Option SshError :=
  if c.sentClose then (c, some .eof)
  else
    let c := { c with sentClose := packet.head? == some msgChannelClose }
    match write with
    | some err => (c, some err)
    | none => ({ c with sent := c.sent ++ [packet] }, none)

/-- The packet is marshalled first and gets its recipient then. -/
def sendMessage (c : Channel) (s : Schema) (r : Record s.kinds) (write : Option SshError) :
    Channel × Option SshError :=
  let p := marshal s r
  c.writePacket (p.take 1 ++ appendU32 c.remoteId ++ p.drop 5) write

/-- The packet that `WriteExtended` makes of one piece of data. -/
def dataPacket (c : Channel) (extendedCode : UInt32) (todo : Bytes) : Bytes :=
  if extendedCode > 0 then
    msgChannelExtendedData :: appendU32 c.remoteId ++ appendU32 extendedCode ++
      appendU32 (UInt32.ofNat todo.length) ++ todo
  else
    msgChannelData :: appendU32 c.remoteId ++ appendU32 (UInt32.ofNat todo.length) ++ todo

def store (c : Channel) (extended : UInt32) (data : Bytes) : Channel :=
  let c := { c with myWindow := c.myWindow - UInt32.ofNat data.length }
  if extended = 1 then { c with extPending := c.extPending.write data }
  else if extended > 0 then c
  else { c with pending := c.pending.write data }

/-- `handleData` behind the header, which declares `length`. -/
def receiveData (c : Channel) (extended length : UInt32) (data : Bytes) :
    Except SshError Channel :=
  if length = 0 then .ok c
  else if length > c.maxIncomingPayload then
    .error (otherError "ssh: incoming packet exceeds maximum payload size")
  else if length ≠ UInt32.ofNat data.length then
    .error (otherError "ssh: wrong packet length")
  else if c.myWindow < length then .error (otherError "ssh: remote side wrote too much")
  else .ok (c.store extended data)

def handleData (c : Channel) (packet : Bytes) : Except SshError Channel :=
  let isExtendedData := packet.head? == some msgChannelExtendedData
  let headerLen := if isExtendedData then 13 else 9
  if packet.length < headerLen then .error (.parseError (packet.headD 0))
  else
    let extended := if isExtendedData then uint32At packet 5 else 0
    let length := uint32At packet (headerLen - 4)
    c.receiveData extended length (packet.drop headerLen)

def close (c : Channel) : Channel :=
  { c with
    pending := c.pending.eof
    extPending := c.extPending.eof
    queuesClosed := true
    sentClose := true
    remoteWin := c.remoteWin.close }

def handleEOF (c : Channel) : Channel :=
  { c with extPending := c.extPending.eof, pending := c.pending.eof }

def handleAdjust (c : Channel) (packet : Bytes) : Handled :=
  match unmarshal windowAdjustMsg packet with
  | .error fault => .failed fault
  | .ok (_, additionalBytes, ()) =>
      match c.remoteWin.add additionalBytes with
      | none =>
          .failed (.error (otherError
            ("ssh: invalid window update for " ++ toString additionalBytes ++ " bytes")))
      | some remoteWin => .kept { c with remoteWin := remoteWin }

def handleRequest (c : Channel) (packet : Bytes) : Handled :=
  match unmarshal channelRequestMsg packet with
  | .error fault => .failed fault
  | .ok (_, request, wantReply, payload, ()) =>
      if c.queuesClosed then .crashes
      else if c.incomingRequests.length < queueCapacity then
        .kept
          { c with
            incomingRequests := c.incomingRequests ++ [⟨request, wantReply, payload⟩] }
      else .waits

/-- A response to an `OpenChannel`, on a channel that the other side has opened. -/
def handleResponse (packet : Bytes) : Handled :=
  match decode packet with
  | .error fault => .failed fault
  | .ok () =>
      .failed (.error (otherError "ssh: channel response message received on inbound channel"))

def handleOther (c : Channel) (packet : Bytes) : Handled :=
  match decode packet with
  | .error fault => .failed fault
  | .ok () =>
      if c.queuesClosed then .crashes
      else if c.msg.length < queueCapacity then .kept { c with msg := c.msg ++ [packet] }
      else .waits

def handlePacket (c : Channel) (packet : Bytes) (write : Option SshError) : Handled :=
  match packet with
  | [] => .failed (.panic .indexOutOfRange)
  | tag :: _ =>
      if tag = msgChannelData ∨ tag = msgChannelExtendedData then
        match c.handleData packet with
        | .error err => .failed (.error err)
        | .ok c => .kept c
      else if tag = msgChannelClose then
        if c.queuesClosed then .crashes
        else .removed (c.sendMessage channelCloseMsg (c.remoteId, ()) write).1.close
      else if tag = msgChannelEOF then .kept c.handleEOF
      else if tag = channelOpenFailureMsg.tag ∨ tag = channelOpenConfirmMsg.tag then
        handleResponse packet
      else if tag = windowAdjustMsg.tag then c.handleAdjust packet
      else if tag = channelRequestMsg.tag then c.handleRequest packet
      else c.handleOther packet

def accept (c : Channel) (write : Option SshError) : Channel × Option SshError :=
  if c.decided then (c, some errDecidedAlready)
  else
    let c := { c with maxIncomingPayload := channelMaxPacket, decided := true }
    c.sendMessage channelOpenConfirmMsg
      (c.remoteId, c.localId, c.myWindow, c.maxIncomingPayload, [], ()) write

def reject (c : Channel) (reason : UInt32) (message : Bytes) (write : Option SshError) :
    Channel × Option SshError :=
  if c.decided then (c, some errDecidedAlready)
  else
    let c := { c with decided := true }
    c.sendMessage channelOpenFailureMsg (c.remoteId, reason, message, ascii "en", ()) write

def ackRequest (c : Channel) (ok : Bool) (write : Option SshError) :
    Channel × Option SshError :=
  if c.decided = false then (c, some errUndecided)
  else if ok then c.sendMessage channelRequestSuccessMsg (c.remoteId, ()) write
  else c.sendMessage channelRequestFailureMsg (c.remoteId, ()) write

/-- `Close`. -/
def sendClose (c : Channel) (write : Option SshError) : Channel × Option SshError :=
  if c.decided = false then (c, some errUndecided)
  else c.sendMessage channelCloseMsg (c.remoteId, ()) write

def closeWrite (c : Channel) (write : Option SshError) : Channel × Option SshError :=
  if c.decided = false then (c, some errUndecided)
  else { c with sentEOF := true }.sendMessage channelEOFMsg (c.remoteId, ()) write

end Channel

/-! ## The goroutines of a session -/

/-- Where `io.Copy` to the channel is: reading, in a call of `Write`, or ended. -/
inductive Writer where
  | idle
  | writing (data : Bytes)
  /-- Room for `todo` has been reserved. -/
  | holding (todo data : Bytes)
  | stopped (err : SshError)
  deriving DecidableEq, Repr

/-- Where `io.Copy` from the channel is: between the three steps of `Read`, or ended. -/
inductive Reader where
  | idle
  | owing (n : Nat)
  | unsent (n : Nat)
  | stopped (err : SshError)
  deriving DecidableEq, Repr

/--
A channel and the goroutines that use it.  `handled` are the packets that the main loop
has got through, `source` is what has been passed to `Write` and `delivered` what `Read`
has returned; `serving` says that `Accept` has returned no error, and `isOver` that no
more packets come.
-/
structure Endpoint where
  chan : Channel
  handled : List Bytes
  serving : Bool
  writer : Writer
  reader : Reader
  source : Bytes
  delivered : Bytes
  isOver : Bool
  deriving DecidableEq, Repr

inductive EndpointEvent where
  | packet (p : Packet) (write : Option SshError)
  | accept (write : Option SshError)
  | reject (reason : UInt32) (message : Bytes) (write : Option SshError)
  | write (data : Bytes)
  | reserve
  | transmit (write : Option SshError)
  | read (n : Nat)
  | adjust
  | announce (write : Option SshError)
  | takeRequest
  | reply (ok : Bool) (write : Option SshError)
  | closeWrite (write : Option SshError)
  | close (write : Option SshError)
  /-- The main loop ends because of an error and closes the channels on its list. -/
  | loopEnds

/-- `min`, which converts the length to 32 bits. -/
def minLength (a : UInt32) (b : Nat) : UInt32 :=
  if a < UInt32.ofNat b then a else UInt32.ofNat b

namespace Endpoint

def ended (s : Endpoint) : Endpoint := { s with chan := s.chan.close, isOver := true }

def packet (s : Endpoint) (p : Packet) (write : Option SshError) : Endpoint :=
  if s.isOver then s
  else
    match s.chan.handlePacket p.bytes write with
    | .kept c => { s with chan := c, handled := s.handled ++ [p.bytes] }
    | .removed c => { s with chan := c, handled := s.handled ++ [p.bytes], isOver := true }
    -- a panic ends more than the loop, but the channel does nothing after it either
    | .failed _ | .crashes => s.ended
    | .waits => s

def accept (s : Endpoint) (write : Option SshError) : Endpoint :=
  match s.chan.accept write with
  | (c, none) => { s with chan := c, serving := true }
  | (c, some _) => { s with chan := c }

def write (s : Endpoint) (data : Bytes) : Endpoint :=
  if s.serving = false ∨ s.writer ≠ .idle then s
  else if s.chan.decided = false then { s with writer := .stopped errUndecided }
  else if s.chan.sentEOF then { s with writer := .stopped .eof }
  else if data = [] then s
  else { s with writer := .writing data, source := s.source ++ data }

def reserve (s : Endpoint) : Endpoint :=
  match s.writer with
  | .writing data =>
      match s.chan.remoteWin.reserve (minLength s.chan.maxRemotePayload data.length) with
      | none => s
      | some (space, closed, remoteWin) =>
          { s with
            chan := { s.chan with remoteWin := remoteWin }
            writer :=
              if closed then .stopped .eof
              else .holding (data.take space.toNat) (data.drop space.toNat) }
  | _ => s

def transmit (s : Endpoint) (write : Option SshError) : Endpoint :=
  match s.writer with
  | .holding todo data =>
      match s.chan.writePacket (s.chan.dataPacket 0 todo) write with
      | (c, some err) => { s with chan := c, writer := .stopped err }
      | (c, none) =>
          { s with chan := c, writer := if data = [] then .idle else .writing data }
  | _ => s

def read (s : Endpoint) (n : Nat) : Endpoint :=
  if s.serving = false ∨ s.reader ≠ .idle then s
  else if s.chan.decided = false then { s with reader := .stopped errUndecided }
  else
    match s.chan.pending.read n with
    | none => s
    | some (none, pending) =>
        { s with chan := { s.chan with pending := pending }, reader := .stopped .eof }
    | some (some data, pending) =>
        { s with
          chan := { s.chan with pending := pending }
          reader := if data = [] then .idle else .owing data.length
          delivered := s.delivered ++ data }

def adjust (s : Endpoint) : Endpoint :=
  match s.reader with
  | .owing n =>
      { s with
        chan := { s.chan with myWindow := s.chan.myWindow + UInt32.ofNat n }
        reader := .unsent n }
  | _ => s

/-- An `io.EOF` is not passed on. -/
def announce (s : Endpoint) (write : Option SshError) : Endpoint :=
  match s.reader with
  | .unsent n =>
      match s.chan.sendMessage windowAdjustMsg (0, UInt32.ofNat n, ()) write with
      | (c, none) | (c, some .eof) => { s with chan := c, reader := .idle }
      | (c, some err) => { s with chan := c, reader := .stopped err }
  | _ => s

/-- The request loop of a session takes a request. -/
def takeRequest (s : Endpoint) : Endpoint :=
  if s.serving then
    { s with chan := { s.chan with incomingRequests := s.chan.incomingRequests.drop 1 } }
  else s

def step (s : Endpoint) : EndpointEvent → Endpoint
  | .packet p write => s.packet p write
  | .accept write => s.accept write
  | .reject reason message write => { s with chan := (s.chan.reject reason message write).1 }
  | .write data => s.write data
  | .reserve => s.reserve
  | .transmit write => s.transmit write
  | .read n => s.read n
  | .adjust => s.adjust
  | .announce write => s.announce write
  | .takeRequest => s.takeRequest
  | .reply ok write => { s with chan := (s.chan.ackRequest ok write).1 }
  | .closeWrite write => { s with chan := (s.chan.closeWrite write).1 }
  | .close write => { s with chan := (s.chan.sendClose write).1 }
  | .loopEnds => if s.isOver then s else s.ended

end Endpoint

/-- The fields of a `channelOpenMsg`, but for the data of the type. -/
structure ChannelOpen where
  chanType : Bytes
  peersId : UInt32
  peersWindow : UInt32
  maxPacketSize : UInt32
  deriving DecidableEq, Repr

/-- The channel that `handleChannelOpen` makes. -/
def Channel.opened (msg : ChannelOpen) (localId : UInt32) : Channel where
  chanType := msg.chanType
  localId := localId
  remoteId := msg.peersId
  maxIncomingPayload := 0
  maxRemotePayload := msg.maxPacketSize
  decided := false
  msg := []
  incomingRequests := []
  queuesClosed := false
  sentEOF := false
  remoteWin := (Window.empty.add msg.peersWindow).getD .empty
  pending := .empty
  extPending := .empty
  myWindow := channelWindowSize
  sentClose := false
  sent := []

def Endpoint.opened (c : Channel) : Endpoint where
  chan := c
  handled := []
  serving := false
  writer := .idle
  reader := .idle
  source := []
  delivered := []
  isOver := false

/-- The channel that a client has opened, after some events. -/
def session (msg : ChannelOpen) (localId : UInt32) (events : List EndpointEvent) : Endpoint :=
  run Endpoint.step (.opened (.opened msg localId)) events

end DockerBastion.Ssh

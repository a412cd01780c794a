import DockerBastion.Ssh.Session

/-!
# The connection protocol

The main loop of a connection reads one packet after the other and hands it to the
channel whose number it carries.  New channels go to `handleChannels`, which accepts
sessions and rejects the rest; requests go to queues of a fixed size, and the loop
waits where a queue is full.  When the loop ends it closes the channels on its list.
-/

namespace DockerBastion.Ssh

open Foundation Sshd

def minPacketLength : UInt32 := 9

/-- The channels by their local ids; a channel is its place among all that were opened. -/
abbrev ChanList := List (Option Nat)

namespace ChanList

/-- The first place that is free. -/
def freePlace (chans : ChanList) : Nat := (chans.findIdx? Option.isNone).getD chans.length

def add (chans : ChanList) (k : Nat) : ChanList :=
  if chans.freePlace < chans.length then chans.set chans.freePlace (some k)
  else chans ++ [some k]

def getChan (chans : ChanList) (id : UInt32) : Option Nat :=
  if id < UInt32.ofNat chans.length then (chans[id.toNat]?).join else none

def remove (chans : ChanList) (id : UInt32) : ChanList :=
  if id < UInt32.ofNat chans.length then chans.set id.toNat none else chans

end ChanList

inductive MuxPanic where
  | slice (p : Panic)
  /-- A queue that has been closed is closed again, or is sent something. -/
  | closedQueue
  /-- A message for `handleGlobalPacket` that is not global. -/
  | notGlobal
  deriving DecidableEq, Repr

inductive MuxLoop where
  | reading
  /-- The queue for what the packet says is full. -/
  | sending (p : Packet) (write : Option SshError)
  /-- `incomingChannels` is full. -/
  | offering (k : Nat)
  | ended (err : SshError)
  | panicked (p : MuxPanic)

/--
`channels` are all that the client has opened; `accepting` is the one that
`handleChannels` has taken and not yet accepted or rejected.  `sent` is what the loop
itself has sent.
-/
structure Mux where
  channels : List Endpoint
  chans : ChanList
  incomingChannels : List Nat
  accepting : Option Nat
  incomingRequests : List ChannelRequest
  globalResponses : List Bytes
  loop : MuxLoop
  sent : List Bytes

def Mux.start : Mux := ⟨[], [], [], none, [], [], .reading, []⟩

/-- The capacities of the queues of a mux. -/
def globalCapacity : Nat := 1

inductive MuxEvent where
  | packet (p : Packet) (write : Option SshError)
  /-- The loop tries again to send what it could not. -/
  | resume
  | readFails (err : SshError)
  | takeChannel
  | decide (write : Option SshError)
  | takeGlobal
  /-- A goroutine of session `k` takes a step. -/
  | session (k : Nat) (e : EndpointEvent)

/-- The steps of the goroutines that `handleChannel` starts. -/
def EndpointEvent.ofSession : EndpointEvent → Bool
  | .packet _ _ | .accept _ | .reject _ _ _ | .loopEnds => false
  | _ => true

/-- The steps of the main loop. -/
def MuxEvent.ofLoop : MuxEvent → Bool
  | .packet _ _ | .resume | .readFails _ => true
  | _ => false

/-- `Error` of a `disconnectMsg`. -/
def errDisconnect (reason : UInt32) (message : Bytes) : SshError :=
  .other (ascii ("ssh: disconnect reason " ++ toString reason ++ ": ") ++ message)

def errInvalidChannel (id : UInt32) : SshError :=
  otherError ("ssh: invalid channel " ++ toString id)

/-- `UnknownChannelType`. -/
def unknownChannelType : UInt32 := 3

/-- `ConnectionFailed`. -/
def connectionFailed : UInt32 := 2

namespace Mux

def setChannel (s : Mux) (k : Nat) (c : Endpoint) : Mux :=
  { s with channels := s.channels.set k c }

/-- `close` for the channels of a list; `none` where one of them is closed already. -/
def closeAll : List Nat → List Endpoint → Option (List Endpoint)
  | [], channels => some channels
  | k :: ks, channels =>
      match channels[k]? with
      | none => closeAll ks channels
      | some c =>
          if c.chan.queuesClosed then none else closeAll ks (channels.set k (c.step .loopEnds))

/-- The end of `loop`. -/
def finish (s : Mux) (err : SshError) : Mux :=
  match closeAll (s.chans.filterMap id) s.channels with
  | none => { s with loop := .panicked .closedQueue }
  | some channels => { s with channels := channels, chans := [], loop := .ended err }

def fail (s : Mux) : Fault → Mux
  | .panic p => { s with loop := .panicked (.slice p) }
  | .error err => s.finish err

/-- `sendMessage` of the mux. -/
def send (s : Mux) (packet : Bytes) (write : Option SshError) : Mux :=
  match write with
  | some err => s.finish err
  | none => { s with sent := s.sent ++ [packet], loop := .reading }

def offer (s : Mux) (k : Nat) : Mux :=
  if s.incomingChannels.length < queueCapacity then
    { s with incomingChannels := s.incomingChannels ++ [k], loop := .reading }
  else { s with loop := .offering k }

def handleDisconnect (s : Mux) (p : Packet) : Mux :=
  match unmarshal disconnectMsg p.bytes with
  | .error fault => s.fail fault
  | .ok (reason, message, _) => s.finish (errDisconnect reason message)

/-- What `handleChannelOpen` does for a message that is well formed. -/
def openChannel (s : Mux) (msg : ChannelOpen) (write : Option SshError) : Mux :=
  if msg.maxPacketSize < minPacketLength ∨ msg.maxPacketSize > 2147483648 then
    s.send
      (marshal channelOpenFailureMsg
        (msg.peersId, connectionFailed, ascii "invalid request", ascii "en_US.UTF-8", ()))
      write
  else
    let k := s.channels.length
    let localId := UInt32.ofNat s.chans.freePlace
    { s with
      channels := s.channels ++ [Endpoint.opened (Channel.opened msg localId)]
      chans := s.chans.add k }.offer k

def handleChannelOpen (s : Mux) (p : Packet) (write : Option SshError) : Mux :=
  match unmarshal channelOpenMsg p.bytes with
  | .error fault => s.fail fault
  | .ok (chanType, peersId, peersWindow, maxPacketSize, _) =>
      s.openChannel ⟨chanType, peersId, peersWindow, maxPacketSize⟩ write

def handleGlobalRequest (s : Mux) (p : Packet) (write : Option SshError) : Mux :=
  match unmarshal globalRequestMsg p.bytes with
  | .error fault => s.fail fault
  | .ok (type, wantReply, data, ()) =>
      if s.incomingRequests.length < queueCapacity then
        { s with
          incomingRequests := s.incomingRequests ++ [⟨type, wantReply, data⟩]
          loop := .reading }
      else { s with loop := .sending p write }

def handleGlobalPacket (s : Mux) (tag : UInt8) (p : Packet) (write : Option SshError) : Mux :=
  if tag = globalRequestMsg.tag then s.handleGlobalRequest p write
  else
    match decode p.bytes with
    | .error fault => s.fail fault
    | .ok () =>
        if tag = globalRequestSuccessMsg.tag ∨ tag = globalRequestFailureMsg.tag then
          if s.globalResponses.length < globalCapacity then
            { s with globalResponses := s.globalResponses ++ [p.bytes], loop := .reading }
          else { s with loop := .sending p write }
        else { s with loop := .panicked .notGlobal }

/-- The packet goes to channel `k`. -/
def handTo (s : Mux) (k : Nat) (c : Endpoint) (p : Packet) (write : Option SshError) : Mux :=
  match c.chan.handlePacket p.bytes write with
  | .kept _ => { s.setChannel k (c.step (.packet p write)) with loop := .reading }
  | .removed _ =>
      { s.setChannel k (c.step (.packet p write)) with
        chans := s.chans.remove c.chan.localId
        loop := .reading }
  | .failed fault => s.fail fault
  | .waits => { s with loop := .sending p write }
  | .crashes => { s with loop := .panicked .closedQueue }

def handleChannelPacket (s : Mux) (tag : UInt8) (p : Packet) (write : Option SshError) : Mux :=
  if p.bytes.length < 5 then s.finish (.parseError tag)
  else
    let id := uint32At p.bytes 1
    match s.chans.getChan id with
    | none => s.finish (errInvalidChannel id)
    | some k =>
        match s.channels[k]? with
        | none => s
        | some c => s.handTo k c p write

def onePacket (s : Mux) (p : Packet) (write : Option SshError) : Mux :=
  let tag := p.bytes.headD 0
  if tag = msgNewKeys then { s with loop := .reading }
  else if tag = disconnectMsg.tag then s.handleDisconnect p
  else if tag = channelOpenMsg.tag then s.handleChannelOpen p write
  else if tag = globalRequestMsg.tag ∨ tag = globalRequestSuccessMsg.tag ∨
      tag = globalRequestFailureMsg.tag then
    s.handleGlobalPacket tag p write
  else s.handleChannelPacket tag p write

def resume (s : Mux) : Mux :=
  match s.loop with
  | .sending p write => s.onePacket p write
  | .offering k => s.offer k
  | _ => s

def takeChannel (s : Mux) : Mux :=
  match s.accepting, s.incomingChannels with
  | none, k :: rest => { s with accepting := some k, incomingChannels := rest }
  | _, _ => s

/-- The body of the loop of `handleChannels` up to `handleChannel`. -/
def decide (s : Mux) (write : Option SshError) : Mux :=
  match s.accepting with
  | none => s
  | some k =>
      match s.channels[k]? with
      | none => s
      | some c =>
          let e : EndpointEvent :=
            if c.chan.chanType ≠ ascii "session" then
              .reject unknownChannelType (ascii "unknown channel type") write
            else .accept write
          { s.setChannel k (c.step e) with accepting := none }

def session (s : Mux) (k : Nat) (e : EndpointEvent) : Mux :=
  match s.channels[k]? with
  | none => s
  | some c => if e.ofSession ∧ c.serving then s.setChannel k (c.step e) else s

def running (s : Mux) : Bool :=
  match s.loop with
  | .panicked _ => false
  | _ => true

def step (s : Mux) (e : MuxEvent) : Mux :=
  -- nothing happens in a process that has panicked
  if s.running = false then s
  else
    match e with
    | .packet p write =>
        match s.loop with
        | .reading => s.onePacket p write
        | _ => s
    | .resume => s.resume
    | .readFails err =>
        match s.loop with
        | .reading => s.finish err
        | _ => s
    | .takeChannel => s.takeChannel
    | .decide write => s.decide write
    | .takeGlobal => { s with incomingRequests := s.incomingRequests.drop 1 }
    | .session k e => s.session k e

end Mux

/-! ## The list of channels -/

namespace ChanList

variable {chans : ChanList} {k j i : Nat} {id : UInt32}

theorem freePlace_cases (chans : ChanList) :
    (chans[chans.freePlace]? = some none ∧ chans.freePlace < chans.length) ∨
      chans.freePlace = chans.length := by
  unfold freePlace
  cases hfind : chans.findIdx? Option.isNone with
  | none => exact .inr rfl
  | some i =>
      obtain ⟨hlt, hnone, -⟩ := List.findIdx?_eq_some_iff_getElem.mp hfind
      refine .inl ⟨?_, hlt⟩
      rw [Option.getD_some, List.getElem?_eq_getElem hlt, Option.isNone_iff_eq_none.mp hnone]

theorem getElem?_add (chans : ChanList) (k i : Nat) :
    (chans.add k)[i]? = if i = chans.freePlace then some (some k) else chans[i]? := by
  unfold add
  rcases freePlace_cases chans with ⟨-, hlt⟩ | hend
  · rw [if_pos hlt, List.getElem?_set]
    by_cases hi : i = chans.freePlace
    · subst hi
      simp [hlt]
    · simp [hi, Ne.symm hi]
  · rw [if_neg (by omega), hend]
    rcases Nat.lt_trichotomy i chans.length with hlt | rfl | hgt
    · rw [List.getElem?_append_left hlt, if_neg (by omega)]
    · simp
    · rw [List.getElem?_append_right (by omega), if_neg (by omega),
        List.getElem?_eq_none (by omega : chans.length ≤ i)]
      exact List.getElem?_eq_none (by simp; omega)

theorem getElem?_remove (chans : ChanList) (id : UInt32) (h : id < UInt32.ofNat chans.length)
    (i : Nat) :
    (chans.remove id)[i]? =
      if i = id.toNat ∧ i < chans.length then some none else chans[i]? := by
  rw [remove, if_pos h, List.getElem?_set]
  by_cases hi : id.toNat = i
  · subst hi
    by_cases hlt : id.toNat < chans.length
    · simp [hlt]
    · simp [hlt]
  · simp [hi, Ne.symm hi]

theorem getChan_eq_some (h : chans.getChan id = some k) :
    id < UInt32.ofNat chans.length ∧ chans[id.toNat]? = some (some k) := by
  unfold getChan at h
  split at h
  · exact ⟨‹_›, Option.join_eq_some_iff.mp h⟩
  · cases h

end ChanList

/-! ## The end of the loop -/

theorem mem_filterMap_id {l : List (Option Nat)} {k : Nat} :
    k ∈ l.filterMap id ↔ ∃ i : Nat, l[i]? = some (some k) := by
  rw [List.mem_filterMap]
  constructor
  · rintro ⟨o, ho, hsome⟩
    have hsome : o = some k := hsome
    subst hsome
    exact List.mem_iff_getElem?.mp ho
  · rintro ⟨i, hi⟩
    exact ⟨some k, List.mem_iff_getElem?.mpr ⟨i, hi⟩, rfl⟩

theorem nodup_filterMap_id {l : List (Option Nat)}
    (h : ∀ i j k : Nat, l[i]? = some (some k) → l[j]? = some (some k) → i = j) :
    (l.filterMap id).Nodup := by
  induction l with
  | nil => exact List.nodup_nil
  | cons o l ih =>
      have hrest : (l.filterMap id).Nodup := by
        refine ih fun i j k hi hj => ?_
        have hsucc := h (i + 1) (j + 1) k (by simpa using hi) (by simpa using hj)
        omega
      cases o with
      | none => simpa using hrest
      | some k =>
          simp only [List.filterMap_cons, id_eq, List.nodup_cons]
          refine ⟨fun hmem => ?_, hrest⟩
          obtain ⟨i, hi⟩ := mem_filterMap_id.mp hmem
          have hzero := h 0 (i + 1) k (by simp) (by simpa using hi)
          omega

theorem closeAll_spec {ks : List Nat} {channels : List Endpoint} (hnodup : ks.Nodup)
    (hopen : ∀ k ∈ ks, ∀ c, channels[k]? = some c → c.chan.queuesClosed = false) :
    ∃ channels', Mux.closeAll ks channels = some channels' ∧
      ∀ j, channels'[j]? =
        channels[j]?.map fun c => if j ∈ ks then c.step .loopEnds else c := by
  induction ks generalizing channels with
  | nil => exact ⟨channels, rfl, by simp⟩
  | cons k ks ih =>
      obtain ⟨hk, hks⟩ := List.nodup_cons.mp hnodup
      cases hc : channels[k]? with
      | none =>
          obtain ⟨channels', hclose, hall⟩ :=
            ih hks fun j hj c => hopen j (List.mem_cons_of_mem _ hj) c
          refine ⟨channels', by simpa [Mux.closeAll, hc] using hclose, fun j => ?_⟩
          rw [hall]
          by_cases hj : j = k
          · subst hj
            simp [hc]
          · simp [hj]
      | some c =>
          have hlt : k < channels.length := (List.getElem?_eq_some_iff.mp hc).1
          have hfirst : c.chan.queuesClosed = false := hopen k List.mem_cons_self c hc
          have hset : ∀ j, (channels.set k (c.step .loopEnds))[j]? =
              if j = k then some (c.step .loopEnds) else channels[j]? := by
            intro j
            rw [List.getElem?_set]
            by_cases hj : k = j
            · subst hj
              simp [hlt]
            · simp [hj, Ne.symm hj]
          have hothers : ∀ j ∈ ks, ∀ c',
              (channels.set k (c.step .loopEnds))[j]? = some c' →
                c'.chan.queuesClosed = false := by
            intro j hj c' hc'
            have hne : j ≠ k := by
              rintro rfl
              exact hk hj
            rw [hset, if_neg hne] at hc'
            exact hopen j (List.mem_cons_of_mem _ hj) c' hc'
          obtain ⟨channels', hclose, hall⟩ := ih hks hothers
          refine ⟨channels', by simpa [Mux.closeAll, hc, hfirst] using hclose, fun j => ?_⟩
          rw [hall, hset]
          by_cases hj : j = k
          · subst hj
            simp [hc, hk]
          · simp [hj]

/-! ## What the main loop makes of a packet -/

/-- The packet stands for channel `k` of the list. -/
def NumberOf (chans : ChanList) (k : Nat) (packet : Bytes) : Prop :=
  5 ≤ packet.length ∧ chans.getChan (uint32At packet 1) = some k

def IsResponse (packet : Bytes) : Prop :=
  packet.head? = some globalRequestSuccessMsg.tag ∨
    packet.head? = some globalRequestFailureMsg.tag

/-- The tags that the main loop looks for. -/
def loopTags : List UInt8 :=
  [msgNewKeys, disconnectMsg.tag, channelOpenMsg.tag, globalRequestMsg.tag,
   globalRequestSuccessMsg.tag, globalRequestFailureMsg.tag]

/-- The tags that a channel looks for. -/
def channelTags : List UInt8 :=
  [msgChannelData, msgChannelExtendedData, msgChannelClose, msgChannelEOF,
   channelOpenFailureMsg.tag, channelOpenConfirmMsg.tag, windowAdjustMsg.tag,
   channelRequestMsg.tag]

/-- A packet that goes to the `msg` of its channel. -/
def IsMessage (packet : Bytes) : Prop :=
  decode packet = .ok () ∧ ∃ tag, packet.head? = some tag ∧ tag ∉ loopTags ∧ tag ∉ channelTags

/-- What the main loop can be waiting to send, and where to. -/
inductive Pending (s : Mux) (packet : Bytes) : Prop
  | global {r} : packet.head? = some globalRequestMsg.tag →
      unmarshal globalRequestMsg packet = .ok r → Pending s packet
  | response : IsResponse packet → decode packet = .ok () →
      globalCapacity ≤ s.globalResponses.length → Pending s packet
  | request {r} (k : Nat) (c : Endpoint) : NumberOf s.chans k packet →
      s.channels[k]? = some c → packet.head? = some channelRequestMsg.tag →
      unmarshal channelRequestMsg packet = .ok r →
      (c.serving = false → queueCapacity ≤ c.chan.incomingRequests.length) → Pending s packet
  | message (k : Nat) (c : Endpoint) : NumberOf s.chans k packet →
      s.channels[k]? = some c → IsMessage packet → queueCapacity ≤ c.chan.msg.length →
      Pending s packet

inductive Handles (s : Mux) (p : Packet) (write : Option SshError) : Mux → Prop
  | ignored : Handles s p write { s with loop := .reading }
  | stopped (err : SshError) : Handles s p write (s.finish err)
  | panicked (e : MuxPanic) : Handles s p write { s with loop := .panicked e }
  | refused (packet : Bytes) :
      Handles s p write { s with sent := s.sent ++ [packet], loop := .reading }
  | opened (msg : ChannelOpen) : minPacketLength ≤ msg.maxPacketSize →
      msg.maxPacketSize ≤ 2147483648 →
      Handles s p write
        (Mux.offer
          { s with
            channels :=
              s.channels ++ [.opened (.opened msg (UInt32.ofNat s.chans.freePlace))]
            chans := s.chans.add s.channels.length } s.channels.length)
  | requested (r : ChannelRequest) :
      Handles s p write
        { s with incomingRequests := s.incomingRequests ++ [r], loop := .reading }
  | responded :
      Handles s p write
        { s with globalResponses := s.globalResponses ++ [p.bytes], loop := .reading }
  | waits : Pending s p.bytes → Handles s p write { s with loop := .sending p write }
  | kept (k : Nat) (c : Endpoint) (chan : Channel) : s.channels[k]? = some c →
      NumberOf s.chans k p.bytes → c.chan.handlePacket p.bytes write = .kept chan →
      Handles s p write { s.setChannel k (c.step (.packet p write)) with loop := .reading }
  | removed (k : Nat) (c : Endpoint) (chan : Channel) : s.channels[k]? = some c →
      NumberOf s.chans k p.bytes → c.chan.handlePacket p.bytes write = .removed chan →
      Handles s p write
        { s.setChannel k (c.step (.packet p write)) with
          chans := s.chans.remove c.chan.localId
          loop := .reading }
  | missing : Handles s p write s

section Handles

variable {s : Mux} {p : Packet} {write : Option SshError}

theorem handles_fail (fault : Fault) : Handles s p write (s.fail fault) := by
  cases fault with
  | panic e => exact .panicked (.slice e)
  | error err => exact .stopped err

theorem handles_handleChannelOpen : Handles s p write (s.handleChannelOpen p write) := by
  unfold Mux.handleChannelOpen
  split
  · exact handles_fail _
  · unfold Mux.openChannel
    split
    · cases write with
      | none => exact .refused _
      | some err => exact .stopped err
    · rename_i hsize
      obtain ⟨hmin, hmax⟩ := not_or.mp hsize
      exact .opened _ (UInt32.not_lt.mp hmin) (UInt32.not_lt.mp hmax)

theorem handles_handleGlobalPacket {tag : UInt8} (htag : p.bytes.head? = some tag) :
    Handles s p write (s.handleGlobalPacket tag p write) := by
  unfold Mux.handleGlobalPacket
  split
  · rename_i hrequest
    unfold Mux.handleGlobalRequest
    split
    · exact handles_fail _
    · split
      · exact .requested _
      · exact .waits (.global (hrequest ▸ htag) ‹_›)
  split
  · exact handles_fail _
  split
  · rename_i hresponse
    split
    · exact .responded
    · rename_i hfull
      refine .waits (.response ?_ ‹_› (by omega))
      rcases hresponse with rfl | rfl
      · exact .inl htag
      · exact .inr htag
  · exact .panicked .notGlobal

theorem pending_of_waits {k : Nat} {c : Endpoint} (hc : s.channels[k]? = some c)
    (hnumber : NumberOf s.chans k p.bytes) (hloop : ∀ tag ∈ p.bytes.head?, tag ∉ loopTags)
    (h : c.chan.handlePacket p.bytes write = .waits) : Pending s p.bytes := by
  obtain ⟨tag, body, hp⟩ := List.exists_cons_of_ne_nil p.ne_nil
  rw [hp] at h hnumber hloop ⊢
  simp only [Channel.handlePacket] at h
  split at h
  · split at h <;> cases h
  rename_i hdata
  split at h
  · split at h <;> cases h
  rename_i hclose
  split at h
  · cases h
  rename_i heof
  split at h
  · unfold Channel.handleResponse at h
    split at h <;> cases h
  rename_i hresponse
  split at h
  · unfold Channel.handleAdjust at h
    split at h
    · cases h
    · split at h <;> cases h
  rename_i hadjust
  split at h
  · rename_i htag
    unfold Channel.handleRequest at h
    split at h
    · cases h
    · split at h
      · cases h
      split at h
      · cases h
      · rename_i hmsg _ hfull
        exact .request k c hnumber hc (by rw [htag]; rfl) hmsg fun _ => by omega
  · rename_i hrequest
    unfold Channel.handleOther at h
    split at h
    · cases h
    · split at h
      · cases h
      split at h
      · cases h
      · rename_i hdecode _ hfull
        refine .message k c hnumber hc ⟨hdecode, tag, rfl, hloop tag (by simp), ?_⟩ (by omega)
        simp only [channelTags, List.mem_cons, List.not_mem_nil, or_false]
        tauto

theorem handles_onePacket : Handles s p write (s.onePacket p write) := by
  obtain ⟨tag, body, hp⟩ := List.exists_cons_of_ne_nil p.ne_nil
  have hhead : p.bytes.head? = some tag := by rw [hp, List.head?_cons]
  have htag : p.bytes.headD 0 = tag := by rw [hp, List.headD_cons]
  simp only [Mux.onePacket, htag]
  split
  · exact .ignored
  rename_i hnewKeys
  split
  · unfold Mux.handleDisconnect
    split
    · exact handles_fail _
    · exact .stopped _
  rename_i hdisconnect
  split
  · exact handles_handleChannelOpen
  rename_i hopen
  split
  · exact handles_handleGlobalPacket hhead
  rename_i hglobal
  unfold Mux.handleChannelPacket
  split
  · exact .stopped _
  rename_i hlength
  dsimp only
  split
  · exact .stopped _
  rename_i k hget
  split
  · exact .missing
  rename_i c hc
  have hnumber : NumberOf s.chans k p.bytes := ⟨by omega, hget⟩
  unfold Mux.handTo
  split
  · exact .kept k c _ hc hnumber ‹_›
  · exact .removed k c _ hc hnumber ‹_›
  · exact handles_fail _
  · refine .waits (pending_of_waits hc hnumber ?_ ‹_›)
    intro tag' htag'
    rw [hhead] at htag'
    cases htag'
    simp only [loopTags, List.mem_cons, List.not_mem_nil, or_false]
    tauto
  · exact .panicked .closedQueue

end Handles

end DockerBastion.Ssh

import DockerBastion.Ssh.Accounts

/-!
# What a session owes its client

The client may send whatever it likes and the goroutines may take turns in any way.
The server keeps to the client's window and sends the output in order; it delivers the
input in order; and it refuses data exactly where it has announced no room for it.
-/

namespace DockerBastion.Ssh

open Foundation Sshd

/-! ## What the channel sends -/

def isClose (packet : Bytes) : Bool := packet.head? == some msgChannelClose

/-- What a step may add to the packets that have been sent. -/
inductive SentAfter (c c' : Channel) : Prop
  | same : c'.sent = c.sent → (c.sentClose = true → c'.sentClose = true) → SentAfter c c'
  | one (q : Bytes) : c.sentClose = false → uint32At q 1 = c.remoteId →
      c'.sent = c.sent ++ [q] → (isClose q = true → c'.sentClose = true) → SentAfter c c'

structure ClosedLast (c : Channel) : Prop where
  opened : c.sentClose = false → ∀ q ∈ c.sent, isClose q = false
  last : ∀ before q after, c.sent = before ++ q :: after → isClose q = true → after = []

/-- What no step of a channel changes, and what it may add. -/
structure Continues (c c' : Channel) : Prop where
  chanType : c'.chanType = c.chanType
  localId : c'.localId = c.localId
  remoteId : c'.remoteId = c.remoteId
  maxRemotePayload : c'.maxRemotePayload = c.maxRemotePayload
  sent : SentAfter c c'
  queues : c'.queuesClosed = c.queuesClosed
  decided : c.decided = true → c'.decided = true

section Continues

variable {c c' c₁ : Channel} {s s' : Endpoint}

theorem Continues.refl (c : Channel) : Continues c c :=
  ⟨rfl, rfl, rfl, rfl, .same rfl id, rfl, id⟩

theorem SentAfter.of_same (h : SentAfter c₁ c') (hid : c₁.remoteId = c.remoteId)
    (hsent : c₁.sent = c.sent) (hclose : c₁.sentClose = c.sentClose) : SentAfter c c' := by
  cases h with
  | same hsame hstays => exact .same (hsame.trans hsent) (hclose ▸ hstays)
  | one q hopen hq hone hcloses =>
      exact .one q (hclose ▸ hopen) (hq.trans hid) (hsent ▸ hone) hcloses

theorem SentAfter.close (h : SentAfter c c') : SentAfter c c'.close := by
  cases h with
  | same hsame hstays => exact .same hsame fun _ => rfl
  | one q hopen hq hone hcloses => exact .one q hopen hq hone fun _ => rfl

theorem uint32At_number (tag : UInt8) (id : UInt32) (rest : Bytes) :
    uint32At (tag :: (appendU32 id ++ rest)) 1 = id := by
  rw [uint32At, List.drop_one, List.tail_cons, declared_appendU32, UInt32.ofNat_toNat]

theorem number_dataPacket (c : Channel) (extendedCode : UInt32) (todo : Bytes) :
    uint32At (c.dataPacket extendedCode todo) 1 = c.remoteId := by
  unfold Channel.dataPacket
  split
  · rw [List.append_assoc, List.append_assoc]
    exact uint32At_number _ c.remoteId _
  · rw [List.append_assoc]
    exact uint32At_number _ c.remoteId _

theorem continues_of_wrote {q : Bytes} {r : Channel × Option SshError} (h : Wrote c q r)
    (hq : uint32At q 1 = c.remoteId) : Continues c r.1 := by
  cases h with
  | refused => exact .refl c
  | failed err hopen =>
      exact ⟨rfl, rfl, rfl, rfl, .same rfl fun h => absurd h (by simp [hopen]), rfl, id⟩
  | sent hopen => exact ⟨rfl, rfl, rfl, rfl, .one q hopen hq rfl id, rfl, id⟩

theorem continues_sendMessage (s : Schema) (r : Record s.kinds) (write : Option SshError) :
    Continues c (c.sendMessage s r write).1 := by
  refine continues_of_wrote (wrote _ _ _) ?_
  rw [marshal, List.append_assoc]
  exact uint32At_number s.tag c.remoteId _

/-- Other fields may have been set before. -/
theorem Continues.of_same (h : Continues c₁ c') (htype : c₁.chanType = c.chanType)
    (hid : c₁.localId = c.localId) (hremote : c₁.remoteId = c.remoteId)
    (hpayload : c₁.maxRemotePayload = c.maxRemotePayload) (hsent : c₁.sent = c.sent)
    (hclose : c₁.sentClose = c.sentClose)
    (hqueues : c₁.queuesClosed = c.queuesClosed)
    (hdecided : c.decided = true → c₁.decided = true) : Continues c c' :=
  ⟨h.chanType.trans htype, h.localId.trans hid, h.remoteId.trans hremote,
    h.maxRemotePayload.trans hpayload, h.sent.of_same hremote hsent hclose,
    h.queues.trans hqueues, fun hc => h.decided (hdecided hc)⟩

theorem continues_store (code : UInt32) (data : Bytes) : Continues c (c.store code data) := by
  unfold Channel.store
  split
  · exact ⟨rfl, rfl, rfl, rfl, .same rfl id, rfl, id⟩
  · split <;> exact ⟨rfl, rfl, rfl, rfl, .same rfl id, rfl, id⟩

theorem continues_accept (write : Option SshError) : Continues c (c.accept write).1 := by
  unfold Channel.accept
  split
  · exact .refl c
  · exact (continues_sendMessage _ _ _).of_same rfl rfl rfl rfl rfl rfl rfl fun _ => rfl

theorem continues_reject (reason : UInt32) (message : Bytes) (write : Option SshError) :
    Continues c (c.reject reason message write).1 := by
  unfold Channel.reject
  split
  · exact .refl c
  · exact (continues_sendMessage _ _ _).of_same rfl rfl rfl rfl rfl rfl rfl fun _ => rfl

theorem continues_ackRequest (ok : Bool) (write : Option SshError) :
    Continues c (c.ackRequest ok write).1 := by
  unfold Channel.ackRequest
  split
  · exact .refl c
  · split <;> exact continues_sendMessage _ _ _

theorem continues_sendClose (write : Option SshError) :
    Continues c (c.sendClose write).1 := by
  unfold Channel.sendClose
  split
  · exact .refl c
  · exact continues_sendMessage _ _ _

theorem continues_closeWrite (write : Option SshError) :
    Continues c (c.closeWrite write).1 := by
  unfold Channel.closeWrite
  split
  · exact .refl c
  · exact (continues_sendMessage _ _ _).of_same rfl rfl rfl rfl rfl rfl rfl id

theorem closedLast_of_sentAfter (hc : ClosedLast c) (h : SentAfter c c') : ClosedLast c' := by
  cases h with
  | same hsent hstays =>
      refine ⟨fun hopen q hq => hc.opened ?_ q (hsent ▸ hq), fun before q after hsplit hclose =>
        hc.last before q after (hsent ▸ hsplit) hclose⟩
      cases hclose : c.sentClose with
      | false => rfl
      | true =>
          rw [hstays hclose] at hopen
          cases hopen
  | one q hopen hnumber hsent hcloses =>
      refine ⟨fun hopen' q' hq' => ?_, fun before q' after hsplit hclose => ?_⟩
      · rw [hsent] at hq'
        rcases List.mem_append.mp hq' with hold | hnew
        · exact hc.opened hopen q' hold
        · rw [List.mem_singleton.mp hnew]
          cases hq : isClose q with
          | false => rfl
          | true =>
              rw [hcloses hq] at hopen'
              cases hopen'
      · -- a close that is not the last packet would be an earlier one
        rcases List.eq_nil_or_concat after with rfl | ⟨after, last, rfl⟩
        · rfl
        · rw [hsent, List.concat_eq_append, ← List.cons_append, ← List.append_assoc] at hsplit
          obtain ⟨hfront, -⟩ := List.append_inj' hsplit rfl
          have hmem : q' ∈ c.sent := by simp [hfront]
          rw [hc.opened hopen q' hmem] at hclose
          cases hclose

/-- The queues are closed by what ends the channel, and by nothing else. -/
inductive Moves (s s' : Endpoint) : Prop
  | goes : Continues s.chan s'.chan → s'.isOver = s.isOver → Moves s s'
  | ends (c : Channel) : Continues s.chan c → s'.chan = c.close → s'.isOver = true → Moves s s'

theorem Moves.refl (s : Endpoint) : Moves s s := .goes (.refl _) rfl

theorem Moves.localId (h : Moves s s') : s'.chan.localId = s.chan.localId := by
  cases h with
  | goes hchan => exact hchan.localId
  | ends c hchan hclose =>
      rw [hclose]
      exact hchan.localId

theorem moves_packet (p : Packet) (write : Option SshError) : Moves s (s.packet p write) := by
  have hreceived : ∀ c, (s.chan.handlePacket p.bytes write).channel = some c →
      Received s.chan p.bytes (s.chan.handlePacket p.bytes write) :=
    fun c h => received_of_handlePacket p.length_lt h
  unfold Endpoint.packet
  split
  · exact .refl s
  split
  · rename_i c hkept
    have h := hreceived c (by rw [hkept]; rfl)
    rw [hkept] at h
    refine .goes ?_ rfl
    generalize p.bytes = packet at h
    cases h with
    | nothing => exact .refl _
    | data => exact continues_store _ _
    | eof => exact ⟨rfl, rfl, rfl, rfl, .same rfl id, rfl, id⟩
    | adjust => exact ⟨rfl, rfl, rfl, rfl, .same rfl id, rfl, id⟩
    | request => exact ⟨rfl, rfl, rfl, rfl, .same rfl id, rfl, id⟩
    | other => exact ⟨rfl, rfl, rfl, rfl, .same rfl id, rfl, id⟩
  · rename_i c hremoved
    have h := hreceived c (by rw [hremoved]; rfl)
    rw [hremoved] at h
    generalize p.bytes = packet at h
    cases h with
    | close => exact .ends _ (continues_sendMessage _ _ _) rfl rfl
  · exact .ends s.chan (.refl _) rfl rfl
  · exact .ends s.chan (.refl _) rfl rfl
  · exact .refl s

theorem moves_step (e : EndpointEvent) : Moves s (s.step e) := by
  cases e with
  | packet p write => exact moves_packet p write
  | accept write =>
      have haccept := continues_accept (c := s.chan) write
      simp only [Endpoint.step, Endpoint.accept]
      split
      · rename_i c h
        rw [h] at haccept
        exact .goes haccept rfl
      · rename_i c err h
        rw [h] at haccept
        exact .goes haccept rfl
  | reject reason message write => exact .goes (continues_reject _ _ _) rfl
  | write data =>
      simp only [Endpoint.step, Endpoint.write]
      repeat' split
      all_goals exact .goes (.refl _) rfl
  | reserve =>
      simp only [Endpoint.step, Endpoint.reserve]
      split
      · split
        · exact .refl s
        · exact .goes ⟨rfl, rfl, rfl, rfl, .same rfl id, rfl, id⟩ rfl
      · exact .refl s
  | transmit write =>
      simp only [Endpoint.step, Endpoint.transmit]
      split
      · rename_i todo data hwriter
        have hwrote := continues_of_wrote (wrote s.chan (s.chan.dataPacket 0 todo) write)
          (number_dataPacket s.chan 0 todo)
        split
        · rename_i c err h
          rw [h] at hwrote
          exact .goes hwrote rfl
        · rename_i c h
          rw [h] at hwrote
          exact .goes hwrote rfl
      · exact .refl s
  | read n =>
      simp only [Endpoint.step, Endpoint.read]
      split
      · exact .refl s
      split
      · exact .goes (.refl _) rfl
      split
      · exact .refl s
      · exact .goes ⟨rfl, rfl, rfl, rfl, .same rfl id, rfl, id⟩ rfl
      · exact .goes ⟨rfl, rfl, rfl, rfl, .same rfl id, rfl, id⟩ rfl
  | adjust =>
      simp only [Endpoint.step, Endpoint.adjust]
      split
      · exact .goes ⟨rfl, rfl, rfl, rfl, .same rfl id, rfl, id⟩ rfl
      · exact .refl s
  | announce write =>
      simp only [Endpoint.step, Endpoint.announce]
      split
      · rename_i n hreader
        have hsend : Continues s.chan
            (s.chan.sendMessage windowAdjustMsg (0, UInt32.ofNat n, ()) write).1 :=
          continues_sendMessage _ _ _
        split
        · rename_i c h
          rw [h] at hsend
          exact .goes hsend rfl
        · rename_i c h
          rw [h] at hsend
          exact .goes hsend rfl
        · rename_i c err _ h
          rw [h] at hsend
          exact .goes hsend rfl
      · exact .refl s
  | takeRequest =>
      simp only [Endpoint.step, Endpoint.takeRequest]
      split
      · exact .goes ⟨rfl, rfl, rfl, rfl, .same rfl id, rfl, id⟩ rfl
      · exact .refl s
  | reply ok write => exact .goes (continues_ackRequest _ _) rfl
  | closeWrite write => exact .goes (continues_closeWrite _) rfl
  | close write => exact .goes (continues_sendClose _) rfl
  | loopEnds =>
      simp only [Endpoint.step]
      split
      · exact .refl s
      · exact .ends s.chan (.refl _) rfl rfl

end Continues

/-! ## Sessions -/

section Sessions

variable (msg : ChannelOpen) (localId : UInt32) (events : List EndpointEvent)

theorem win_opened :
    ((Window.empty.add msg.peersWindow).getD .empty).win.toNat = msg.peersWindow.toNat := by
  have hlt := msg.peersWindow.toNat_lt
  cases hadd : Window.empty.add msg.peersWindow with
  | none =>
      have hsome : Window.empty.add msg.peersWindow = some ⟨msg.peersWindow, false⟩ :=
        Window.add_eq_some_iff.mpr
          ⟨by simpa [Window.empty] using hlt, by simp [Window.empty], rfl⟩
      rw [hsome] at hadd
      cases hadd
  | some w =>
      obtain ⟨-, hwin, -⟩ := Window.add_eq_some_iff.mp hadd
      simpa [Window.empty] using hwin

theorem incoming_opened : Incoming (.opened (.opened msg localId)) where
  window := by simp [Endpoint.opened, Channel.opened, Reader.owed, Endpoint.receivedExtended]
  received := by simp [Endpoint.opened, Channel.opened, Endpoint.received]
  announced := by
    simp [Endpoint.opened, Channel.opened, Endpoint.announced, Reader.unannounced]

theorem outgoing_opened :
    Outgoing msg.peersWindow.toNat (.opened (.opened msg localId)) where
  window := by
    have hwin := win_opened msg
    simp [Endpoint.opened, Channel.opened, Endpoint.dataSent, Writer.held, Endpoint.granted, hwin]
  source := ⟨[], rfl, fun _ => rfl⟩
  held := Nat.zero_le _
  chunks := by simp [Endpoint.opened, Channel.opened]

theorem flow_session :
    Incoming (session msg localId events) ∧
      Outgoing msg.peersWindow.toNat (session msg localId events) :=
  run_invariant
    (I := fun s => Incoming s ∧ Outgoing msg.peersWindow.toNat s)
    (fun _ e h => flow_step h.1 h.2 e)
    ⟨incoming_opened msg localId, outgoing_opened msg localId⟩ events

/-- What holds of the channel of a session besides the accounts. -/
structure KeptChannel (c : Channel) : Prop where
  chanType : c.chanType = msg.chanType
  localId : c.localId = localId
  remoteId : c.remoteId = msg.peersId
  maxRemotePayload : c.maxRemotePayload = msg.maxPacketSize
  numbered : ∀ q ∈ c.sent, uint32At q 1 = msg.peersId
  closedLast : ClosedLast c

structure Kept (s : Endpoint) : Prop where
  chan : KeptChannel msg localId s.chan
  isOver : s.isOver = s.chan.queuesClosed

variable {msg localId} in
theorem KeptChannel.continues {c c' : Channel} (h : KeptChannel msg localId c)
    (hc : Continues c c') : KeptChannel msg localId c' where
  chanType := hc.chanType.trans h.chanType
  localId := hc.localId.trans h.localId
  remoteId := hc.remoteId.trans h.remoteId
  maxRemotePayload := hc.maxRemotePayload.trans h.maxRemotePayload
  numbered := by
    cases hc.sent with
    | same hsent =>
        rw [hsent]
        exact h.numbered
    | one q hopen hnumber hsent hcloses =>
        intro q' hq'
        rw [hsent] at hq'
        rcases List.mem_append.mp hq' with hold | hnew
        · exact h.numbered q' hold
        · rw [List.mem_singleton.mp hnew, hnumber, h.remoteId]
  closedLast := closedLast_of_sentAfter h.closedLast hc.sent

variable {msg localId} in
theorem KeptChannel.close {c : Channel} (h : KeptChannel msg localId c) :
    KeptChannel msg localId c.close where
  chanType := h.chanType
  localId := h.localId
  remoteId := h.remoteId
  maxRemotePayload := h.maxRemotePayload
  numbered := h.numbered
  closedLast := closedLast_of_sentAfter h.closedLast (SentAfter.same rfl id).close

theorem kept_step {s : Endpoint} (e : EndpointEvent) (h : Kept msg localId s) :
    Kept msg localId (s.step e) := by
  have hmoves : Moves s (s.step e) := moves_step e
  cases hmoves with
  | goes hchan hover =>
      exact ⟨h.chan.continues hchan, by rw [hover, hchan.queues, h.isOver]⟩
  | ends c hchan hclose hover =>
      constructor
      · rw [hclose]
        exact (h.chan.continues hchan).close
      · rw [hclose, hover]
        rfl

theorem kept_session : Kept msg localId (session msg localId events) := by
  refine run_invariant (I := Kept msg localId) (fun s e h => kept_step msg localId e h)
    ⟨⟨rfl, rfl, rfl, rfl, ?_, ?_, ?_⟩, rfl⟩ events
  · simp [Endpoint.opened, Channel.opened]
  · simp [Endpoint.opened, Channel.opened]
  · simp [Endpoint.opened, Channel.opened]

/--
The output goes out in order and within the window that the client has granted, in
packets that the client can take; every packet carries the client's number of the
channel, and nothing goes out after the close.
-/
theorem output_conforms :
    (session msg localId events).dataSent <+: (session msg localId events).source ∧
      (session msg localId events).dataSent.length ≤
        msg.peersWindow.toNat + (session msg localId events).granted ∧
      (∀ q ∈ (session msg localId events).chan.sent,
        (dataOf q).length ≤ msg.maxPacketSize.toNat ∧ uint32At q 1 = msg.peersId) ∧
      ∀ before q after, (session msg localId events).chan.sent = before ++ q :: after →
        isClose q = true → after = [] := by
  obtain ⟨-, hout⟩ := flow_session msg localId events
  obtain ⟨lost, hsource, -⟩ := hout.source
  have hwindow := hout.window
  refine ⟨⟨(session msg localId events).writer.unsent ++ lost, ?_⟩, by omega, ?_,
    (kept_session msg localId events).chan.closedLast.last⟩
  · rw [hsource, List.append_assoc]
  · intro q hq
    have hkept := (kept_session msg localId events).chan
    have hchunk := hout.chunks q hq
    rw [hkept.maxRemotePayload] at hchunk
    exact ⟨hchunk, hkept.numbered q hq⟩

/--
The input is delivered in order, and the window that is not open for the client is
room for what is not announced, not read, or was sent as extended data; the last is
never given back.
-/
theorem input_accounted :
    (session msg localId events).received =
        (session msg localId events).delivered ++
          (session msg localId events).chan.pending.contents ∧
      (session msg localId events).chan.myWindow.toNat +
          (session msg localId events).reader.owed +
          (session msg localId events).chan.pending.contents.length +
          (session msg localId events).receivedExtended.length =
        channelWindowSize.toNat ∧
      (session msg localId events).announced ≤ (session msg localId events).delivered.length := by
  obtain ⟨hin, -⟩ := flow_session msg localId events
  have hannounced := hin.announced
  exact ⟨hin.received, hin.window, by omega⟩

/-- The data packet declares the number of bytes that it holds, at least one. -/
def WellFormedData (packet data : Bytes) : Prop :=
  ∃ code length, dataHeader packet = some (code, length, data) ∧
    length.toNat = data.length ∧ 0 < data.length

theorem handlePacket_data {c : Channel} {packet data : Bytes} (write : Option SshError)
    (hlength : packet.length < 2 ^ 32) (hdata : WellFormedData packet data) :
    (∃ err, c.handlePacket packet write = .failed err) ↔
      c.maxIncomingPayload.toNat < data.length ∨ c.myWindow.toNat < data.length := by
  obtain ⟨code, length, hheader, hsame, hpos⟩ := hdata
  have hfits : data.length < 2 ^ 32 :=
    lt_of_le_of_lt (length_of_dataHeader hheader) hlength
  cases packet with
  | nil => cases hheader
  | cons tag body =>
      have htag : tag = msgChannelData ∨ tag = msgChannelExtendedData := by
        by_contra hnot
        push Not at hnot
        simp [dataHeader, hnot] at hheader
      have hok : (∃ c', c.receiveData code length data = .ok c') ↔
          data.length ≤ c.maxIncomingPayload.toNat ∧ data.length ≤ c.myWindow.toNat := by
        constructor
        · rintro ⟨c', h⟩
          rcases (receiveData_eq_ok_iff hfits).mp h with ⟨hzero, -⟩ | ⟨-, -, hmax, hwindow, -⟩
          · omega
          · exact ⟨hmax, hwindow⟩
        · rintro ⟨hmax, hwindow⟩
          exact ⟨_, (receiveData_eq_ok_iff hfits).mpr
            (.inr ⟨hsame, hpos, hmax, hwindow, rfl⟩)⟩
      simp only [Channel.handlePacket, if_pos htag, handleData_eq htag, hheader]
      cases hreceive : c.receiveData code length data with
      | ok c' =>
          have hroom := hok.mp ⟨c', hreceive⟩
          refine iff_of_false (by simp) ?_
          omega
      | error err =>
          have hnot : ¬ (data.length ≤ c.maxIncomingPayload.toNat ∧
              data.length ≤ c.myWindow.toNat) := by
            intro hroom
            obtain ⟨c', h⟩ := hok.mpr hroom
            rw [hreceive] at h
            cases h
          refine iff_of_true ⟨_, rfl⟩ ?_
          omega

/--
A well-formed data packet ends the connection exactly if it is too large, or the client
has sent more than the window of the start and what has been read and is not owed.  So a
client that counts what has been announced is never refused.
-/
theorem refused_iff (p : Packet) (write : Option SshError) {data : Bytes}
    (hdata : WellFormedData p.bytes data) :
    ((∃ err, (session msg localId events).chan.handlePacket p.bytes write = .failed err) ↔
        (session msg localId events).chan.maxIncomingPayload.toNat < data.length ∨
          channelWindowSize.toNat + (session msg localId events).delivered.length <
            (session msg localId events).received.length +
              (session msg localId events).receivedExtended.length +
              (session msg localId events).reader.owed + data.length) ∧
      (data.length ≤ (session msg localId events).chan.maxIncomingPayload.toNat →
        (session msg localId events).received.length +
            (session msg localId events).receivedExtended.length + data.length ≤
          channelWindowSize.toNat + (session msg localId events).announced →
        ∀ err, (session msg localId events).chan.handlePacket p.bytes write ≠ .failed err) := by
  obtain ⟨hin, -⟩ := flow_session msg localId events
  have hwindow := hin.window
  have hreceived := congrArg List.length hin.received
  rw [List.length_append] at hreceived
  have hrefused :=
    handlePacket_data (c := (session msg localId events).chan) write p.length_lt hdata
  constructor
  · rw [hrefused]
    constructor
    · rintro (hmax | hmine)
      · exact .inl hmax
      · exact .inr (by omega)
    · rintro (hmax | hmine)
      · exact .inl hmax
      · exact .inr (by omega)
  · intro hmax hroom err herr
    have hannounced := hin.announced
    have howed : (session msg localId events).reader.owed ≤
        (session msg localId events).reader.unannounced := by
      cases (session msg localId events).reader <;> simp [Reader.owed, Reader.unannounced]
    rcases hrefused.mp ⟨err, herr⟩ with hlarge | hmine
    · omega
    · omega

end Sessions

def shellOpen : ChannelOpen := ⟨ascii "session", 0, 64, 32768⟩

def oneByte : Packet := ⟨[94, 0, 0, 0, 0, 0, 0, 0, 1, 120], by decide, by decide⟩

theorem oneByte_not_refused :
    ¬ ∃ err, (session shellOpen 0 [.accept none]).chan.handlePacket oneByte.bytes none =
      .failed err := by
  rintro ⟨err, herr⟩
  have hdata : WellFormedData oneByte.bytes [120] := ⟨0, 1, rfl, rfl, by decide⟩
  exact (refused_iff shellOpen 0 [.accept none] oneByte none hdata).2 (by decide) (by decide) err
    herr

end DockerBastion.Ssh

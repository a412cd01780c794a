import DockerBastion.Ssh.Flow

/-!
# The accounts of a channel

Two invariants say where every byte and every unit of window is: one about what comes
in and one about what goes out.  Steps that are not of the copy loops only take a
packet in or send plain ones; each step of a loop is looked at on its own.
-/

namespace DockerBastion.Ssh

open Foundation Sshd

/-- What has come in is delivered or pending, and all of the window is accounted for. -/
structure Incoming (s : Endpoint) : Prop where
  window : s.chan.myWindow.toNat + s.reader.owed + s.chan.pending.contents.length +
    s.receivedExtended.length = channelWindowSize.toNat
  received : s.received = s.delivered ++ s.chan.pending.contents
  announced : s.announced + s.reader.unannounced ≤ s.delivered.length

/-- What has gone out is from the front of the source and within the window. -/
structure Outgoing (peersWindow : Nat) (s : Endpoint) : Prop where
  window : s.dataSent.length + s.writer.held.length + s.chan.remoteWin.win.toNat ≤
    peersWindow + s.granted
  source : ∃ lost, s.source = s.dataSent ++ s.writer.unsent ++ lost ∧
    (s.writer.isStopped = false → lost = [])
  held : s.writer.held.length ≤ s.chan.maxRemotePayload.toNat
  chunks : ∀ q ∈ s.chan.sent, (dataOf q).length ≤ s.chan.maxRemotePayload.toNat

/-- The loops of the session stay where they are. -/
structure Advance (s : Endpoint) (packet : Bytes) (s' : Endpoint) : Prop where
  takes : Takes s.chan packet s'.chan
  handled : s'.handled = s.handled ++ [packet] ∨ (packet = [] ∧ s'.handled = s.handled)
  writer : s'.writer = s.writer
  reader : s'.reader = s.reader
  source : s'.source = s.source
  delivered : s'.delivered = s.delivered

section Accounts

variable {s s' : Endpoint} {packet : Bytes} {peersWindow : Nat}

theorem flatMap_dataOf_plain {more : List Bytes} (h : ∀ q ∈ more, Plain q) :
    more.flatMap dataOf = [] := by
  rw [List.flatMap_eq_nil_iff]
  intro q hq
  exact dataOf_of_carried (h q hq).1

theorem sum_adjustment_plain {more : List Bytes} (h : ∀ q ∈ more, Plain q) :
    (more.map adjustment).sum = 0 := by
  induction more with
  | nil => rfl
  | cons q more ih =>
      rw [List.map_cons, List.sum_cons, (h q List.mem_cons_self).2, Nat.zero_add]
      exact ih fun q hq => h q (List.mem_cons_of_mem _ hq)

theorem Takes.dataSent (h : Takes s.chan packet s'.chan) : s'.dataSent = s.dataSent := by
  obtain ⟨more, hsent, hplain⟩ := h.sent
  rw [Endpoint.dataSent, hsent, List.flatMap_append, flatMap_dataOf_plain hplain,
    List.append_nil]
  rfl

theorem Takes.announced (h : Takes s.chan packet s'.chan) : s'.announced = s.announced := by
  obtain ⟨more, hsent, hplain⟩ := h.sent
  rw [Endpoint.announced, hsent, List.map_append, List.sum_append, sum_adjustment_plain hplain,
    Nat.add_zero]
  rfl

theorem Advance.received (h : Advance s packet s') :
    s'.received = s.received ++ dataOf packet := by
  rcases h.handled with hhandled | ⟨rfl, hhandled⟩
  · simp [Endpoint.received, hhandled]
  · simp [Endpoint.received, hhandled, dataOf, carried]

theorem Advance.receivedExtended (h : Advance s packet s') :
    s'.receivedExtended = s.receivedExtended ++ extendedDataOf packet := by
  rcases h.handled with hhandled | ⟨rfl, hhandled⟩
  · simp [Endpoint.receivedExtended, hhandled]
  · simp [Endpoint.receivedExtended, hhandled, extendedDataOf, carried]

theorem Advance.granted (h : Advance s packet s') :
    s'.granted = s.granted + adjustment packet := by
  rcases h.handled with hhandled | ⟨rfl, hhandled⟩
  · simp [Endpoint.granted, hhandled]
  · simp [Endpoint.granted, hhandled, adjustment_nil]

theorem incoming_of_advance (hs : Incoming s) (h : Advance s packet s') : Incoming s' where
  window := by
    have hwindow := h.takes.window
    have hold := hs.window
    rw [h.reader, h.takes.pending, h.receivedExtended, List.length_append, List.length_append]
    omega
  received := by
    rw [h.received, hs.received, h.delivered, h.takes.pending, List.append_assoc]
  announced := by
    rw [h.takes.announced, h.reader, h.delivered]
    exact hs.announced

theorem outgoing_of_advance (hs : Outgoing peersWindow s) (h : Advance s packet s') :
    Outgoing peersWindow s' where
  window := by
    have hold := hs.window
    rw [h.takes.dataSent, h.writer, h.takes.remoteWin, h.granted]
    omega
  source := by
    rw [h.source, h.takes.dataSent, h.writer]
    exact hs.source
  held := by
    rw [h.writer, h.takes.maxRemotePayload]
    exact hs.held
  chunks := by
    obtain ⟨more, hsent, hplain⟩ := h.takes.sent
    rw [hsent, h.takes.maxRemotePayload]
    intro q hq
    rcases List.mem_append.mp hq with hold | hnew
    · exact hs.chunks q hold
    · rw [dataOf_of_carried (hplain q hnew).1]
      exact Nat.zero_le _

theorem plain_nil : Plain [] := ⟨rfl, adjustment_nil⟩

theorem advance_of_takes (h : Takes s.chan [] s'.chan) (hhandled : s'.handled = s.handled)
    (hwriter : s'.writer = s.writer) (hreader : s'.reader = s.reader)
    (hsource : s'.source = s.source) (hdelivered : s'.delivered = s.delivered) :
    Advance s [] s' :=
  ⟨h, .inr ⟨rfl, hhandled⟩, hwriter, hreader, hsource, hdelivered⟩

theorem advance_ended (s : Endpoint) : Advance s [] s.ended :=
  advance_of_takes (takes_of_same plain_nil rfl rfl rfl rfl rfl).close rfl rfl rfl rfl rfl

/-- The events that are no step of the two copy loops. -/
def EndpointEvent.ofLoop : EndpointEvent → Bool
  | .write _ | .reserve | .transmit _ | .read _ | .adjust | .announce _ => true
  | _ => false

theorem takes_accept (c : Channel) (write : Option SshError) :
    Takes c [] (c.accept write).1 := by
  unfold Channel.accept
  split
  · exact takes_of_same plain_nil rfl rfl rfl rfl rfl
  · exact (takes_sendMessage rfl (by decide) plain_nil).of_same rfl rfl rfl rfl rfl

theorem takes_reject (c : Channel) (reason : UInt32) (message : Bytes)
    (write : Option SshError) : Takes c [] (c.reject reason message write).1 := by
  unfold Channel.reject
  split
  · exact takes_of_same plain_nil rfl rfl rfl rfl rfl
  · exact (takes_sendMessage rfl (by decide) plain_nil).of_same rfl rfl rfl rfl rfl

theorem takes_ackRequest (c : Channel) (ok : Bool) (write : Option SshError) :
    Takes c [] (c.ackRequest ok write).1 := by
  unfold Channel.ackRequest
  split
  · exact takes_of_same plain_nil rfl rfl rfl rfl rfl
  · split
    · exact takes_sendMessage rfl (by decide) plain_nil
    · exact takes_sendMessage rfl (by decide) plain_nil

theorem takes_sendClose (c : Channel) (write : Option SshError) :
    Takes c [] (c.sendClose write).1 := by
  unfold Channel.sendClose
  split
  · exact takes_of_same plain_nil rfl rfl rfl rfl rfl
  · exact takes_sendMessage rfl (by decide) plain_nil

theorem takes_closeWrite (c : Channel) (write : Option SshError) :
    Takes c [] (c.closeWrite write).1 := by
  unfold Channel.closeWrite
  split
  · exact takes_of_same plain_nil rfl rfl rfl rfl rfl
  · exact (takes_sendMessage rfl (by decide) plain_nil).of_same rfl rfl rfl rfl rfl

theorem advance_packet (s : Endpoint) (p : Packet) (write : Option SshError) :
    ∃ packet, Advance s packet (s.packet p write) := by
  have hidle : Advance s [] s :=
    advance_of_takes (takes_of_same plain_nil rfl rfl rfl rfl rfl) rfl rfl rfl rfl rfl
  unfold Endpoint.packet
  split
  · exact ⟨[], hidle⟩
  split
  · rename_i c hkept
    have hchannel : (s.chan.handlePacket p.bytes write).channel = some c := by
      rw [hkept]
      rfl
    have hreceived := received_of_handlePacket p.length_lt hchannel
    exact ⟨p.bytes, takes_of_received p.length_lt hreceived hchannel, .inl rfl, rfl, rfl, rfl,
      rfl⟩
  · rename_i c hremoved
    have hchannel : (s.chan.handlePacket p.bytes write).channel = some c := by
      rw [hremoved]
      rfl
    have hreceived := received_of_handlePacket p.length_lt hchannel
    exact ⟨p.bytes, takes_of_received p.length_lt hreceived hchannel, .inl rfl, rfl, rfl, rfl,
      rfl⟩
  · exact ⟨[], advance_ended s⟩
  · exact ⟨[], advance_ended s⟩
  · exact ⟨[], hidle⟩

theorem advance_step {e : EndpointEvent} (h : e.ofLoop = false) :
    ∃ packet, Advance s packet (s.step e) := by
  cases e with
  | packet p write => exact advance_packet s p write
  | accept write =>
      refine ⟨[], ?_⟩
      have htakes := takes_accept s.chan write
      simp only [Endpoint.step, Endpoint.accept]
      split
      · rename_i c haccept
        rw [haccept] at htakes
        exact advance_of_takes htakes rfl rfl rfl rfl rfl
      · rename_i c err haccept
        rw [haccept] at htakes
        exact advance_of_takes htakes rfl rfl rfl rfl rfl
  | reject reason message write =>
      exact ⟨[], advance_of_takes (takes_reject _ _ _ _) rfl rfl rfl rfl rfl⟩
  | takeRequest =>
      refine ⟨[], ?_⟩
      simp only [Endpoint.step, Endpoint.takeRequest]
      split <;>
        exact advance_of_takes (takes_of_same plain_nil rfl rfl rfl rfl rfl) rfl rfl rfl rfl rfl
  | reply ok write =>
      exact ⟨[], advance_of_takes (takes_ackRequest _ _ _) rfl rfl rfl rfl rfl⟩
  | closeWrite write =>
      exact ⟨[], advance_of_takes (takes_closeWrite _ _) rfl rfl rfl rfl rfl⟩
  | close write =>
      exact ⟨[], advance_of_takes (takes_sendClose _ _) rfl rfl rfl rfl rfl⟩
  | loopEnds =>
      refine ⟨[], ?_⟩
      simp only [Endpoint.step]
      split
      · exact advance_of_takes (takes_of_same plain_nil rfl rfl rfl rfl rfl) rfl rfl rfl rfl rfl
      · exact advance_ended s
  | _ => cases h

/-! ## The copy loops -/

theorem flow_write (hin : Incoming s) (hout : Outgoing peersWindow s) (data : Bytes) :
    Incoming (s.write data) ∧ Outgoing peersWindow (s.write data) := by
  unfold Endpoint.write
  split
  · exact ⟨hin, hout⟩
  rename_i hidle
  have hidle : s.writer = .idle := by
    push Not at hidle
    exact hidle.2
  obtain ⟨lost, hsource, hlost⟩ := hout.source
  rw [hidle] at hsource hlost
  obtain rfl := hlost rfl
  have hsource : s.source = s.dataSent := by simpa [Writer.unsent] using hsource
  have hwindow := hout.window
  rw [hidle] at hwindow
  -- a writer that stops here has sent all that was passed to it
  have hstopped : ∀ err, Outgoing peersWindow { s with writer := .stopped err } := fun err =>
    ⟨hwindow, ⟨[], hsource.trans (by simp [Writer.unsent, Endpoint.dataSent]), fun _ => rfl⟩,
      Nat.zero_le _, hout.chunks⟩
  split
  · exact ⟨⟨hin.window, hin.received, hin.announced⟩, hstopped _⟩
  split
  · exact ⟨⟨hin.window, hin.received, hin.announced⟩, hstopped _⟩
  split
  · exact ⟨hin, hout⟩
  · refine ⟨⟨hin.window, hin.received, hin.announced⟩, hwindow, ⟨[], ?_, fun _ => rfl⟩,
      Nat.zero_le _, hout.chunks⟩
    show s.source ++ data = _
    rw [hsource, List.append_nil]
    rfl

theorem length_take_reserved {w w' : Window} {a space : UInt32} {closed : Bool} {data : Bytes}
    (h : w.reserve (minLength a data.length) = some (space, closed, w')) :
    (data.take space.toNat).length = space.toNat ∧ space.toNat ≤ a.toNat := by
  have hmin : (minLength a data.length).toNat ≤ a.toNat ∧
      (minLength a data.length).toNat ≤ data.length := by
    have hcut : (UInt32.ofNat data.length).toNat ≤ data.length := by
      rw [UInt32.toNat_ofNat']
      exact Nat.mod_le _ _
    unfold minLength
    split
    · rename_i hlt
      rw [UInt32.lt_iff_toNat_lt] at hlt
      omega
    · rename_i hge
      rw [UInt32.lt_iff_toNat_lt, not_lt] at hge
      omega
  obtain ⟨hspace, -⟩ := Window.reserve_eq_some h
  refine ⟨List.length_take_of_le ?_, ?_⟩
  · omega
  · omega

theorem flow_reserve (hin : Incoming s) (hout : Outgoing peersWindow s) :
    Incoming s.reserve ∧ Outgoing peersWindow s.reserve := by
  unfold Endpoint.reserve
  split
  · rename_i data hwriter
    split
    · exact ⟨hin, hout⟩
    · rename_i space closed remoteWin hreserve
      obtain ⟨hlength, hmax⟩ := length_take_reserved hreserve
      obtain ⟨-, -, hcount, -⟩ := Window.reserve_eq_some hreserve
      obtain ⟨lost, hsource, hlost⟩ := hout.source
      rw [hwriter] at hsource hlost
      obtain rfl := hlost rfl
      have hsource : s.source = s.dataSent ++ data := by
        simpa [Writer.unsent] using hsource
      have hwindow := hout.window
      rw [hwriter] at hwindow
      have hwindow : s.dataSent.length + s.chan.remoteWin.win.toNat ≤
          peersWindow + s.granted := by
        simpa [Writer.held] using hwindow
      refine ⟨⟨hin.window, hin.received, hin.announced⟩, ?_⟩
      cases closed with
      | true =>
          refine ⟨?_, ⟨data, ?_, nofun⟩, Nat.zero_le _, hout.chunks⟩
          · show s.dataSent.length + 0 + remoteWin.win.toNat ≤ peersWindow + s.granted
            omega
          · show s.source = s.dataSent ++ [] ++ data
            rw [hsource, List.append_nil]
      | false =>
          refine ⟨?_, ⟨[], ?_, fun _ => rfl⟩, ?_, hout.chunks⟩
          · show s.dataSent.length + (data.take space.toNat).length + remoteWin.win.toNat ≤
              peersWindow + s.granted
            omega
          · show s.source = s.dataSent ++ (data.take space.toNat ++ data.drop space.toNat) ++ []
            rw [hsource, List.take_append_drop, List.append_nil]
          · show (data.take space.toNat).length ≤ s.chan.maxRemotePayload.toNat
            omega
  · exact ⟨hin, hout⟩

theorem flow_transmit (hin : Incoming s) (hout : Outgoing peersWindow s)
    (write : Option SshError) :
    Incoming (s.transmit write) ∧ Outgoing peersWindow (s.transmit write) := by
  unfold Endpoint.transmit
  split
  · rename_i todo data hwriter
    obtain ⟨lost, hsource, hlost⟩ := hout.source
    have hwindow := hout.window
    have hheld := hout.held
    rw [hwriter] at hsource hlost hwindow hheld
    obtain rfl := hlost rfl
    have hsource : s.source = s.dataSent ++ (todo ++ data) := by
      simpa [Writer.unsent] using hsource
    have hwindow : s.dataSent.length + todo.length + s.chan.remoteWin.win.toNat ≤
        peersWindow + s.granted := hwindow
    have hheld : todo.length ≤ s.chan.maxRemotePayload.toNat := hheld
    have hfits : todo.length < 2 ^ 32 :=
      lt_of_le_of_lt hheld s.chan.maxRemotePayload.toNat_lt
    have hlost : ∀ c : Channel, c.sent = s.chan.sent →
        c.remoteWin = s.chan.remoteWin → c.maxRemotePayload = s.chan.maxRemotePayload →
        ∀ err, Outgoing peersWindow { s with chan := c, writer := .stopped err } := by
      intro c hsent hremote hpayload err
      refine ⟨?_, ⟨todo ++ data, ?_, nofun⟩, Nat.zero_le _, ?_⟩
      · show (c.sent.flatMap dataOf).length + 0 + c.remoteWin.win.toNat ≤
          peersWindow + s.granted
        rw [hsent, hremote]
        have : (s.chan.sent.flatMap dataOf).length = s.dataSent.length := rfl
        omega
      · show s.source = c.sent.flatMap dataOf ++ [] ++ (todo ++ data)
        rw [hsent, List.append_nil]
        exact hsource
      · rw [show ({ s with chan := c, writer := .stopped err } : Endpoint).chan.sent =
          s.chan.sent from hsent]
        intro q hq
        exact hpayload ▸ hout.chunks q hq
    have hwrote := wrote s.chan (s.chan.dataPacket 0 todo) write
    generalize s.chan.writePacket (s.chan.dataPacket 0 todo) write = r at hwrote
    cases hwrote with
    | refused =>
        exact ⟨⟨hin.window, hin.received, hin.announced⟩, hlost s.chan rfl rfl rfl .eof⟩
    | failed err =>
        exact ⟨⟨hin.window, hin.received, hin.announced⟩,
          hlost
            { s.chan with
              sentClose := (s.chan.dataPacket 0 todo).head? == some msgChannelClose }
            rfl rfl rfl err⟩
    | sent =>
        have hsent : (s.chan.sent ++ [s.chan.dataPacket 0 todo]).flatMap dataOf =
            s.dataSent ++ todo := by
          simp [Endpoint.dataSent, dataOf_dataPacket s.chan hfits]
        have hannounced : ((s.chan.sent ++ [s.chan.dataPacket 0 todo]).map adjustment).sum =
            s.announced := by
          simp [Endpoint.announced, adjustment_dataPacket]
        have hunsent : (if data = [] then Writer.idle else .writing data).unsent = data ∧
            (if data = [] then Writer.idle else .writing data).held = [] := by
          split <;> simp_all [Writer.unsent, Writer.held]
        refine ⟨⟨hin.window, hin.received, ?_⟩, ?_, ⟨[], ?_, fun _ => rfl⟩, ?_, ?_⟩
        · show ((s.chan.sent ++ [s.chan.dataPacket 0 todo]).map adjustment).sum +
            s.reader.unannounced ≤ s.delivered.length
          rw [hannounced]
          exact hin.announced
        · show ((s.chan.sent ++ [s.chan.dataPacket 0 todo]).flatMap dataOf).length +
            (if data = [] then Writer.idle else .writing data).held.length +
              s.chan.remoteWin.win.toNat ≤ peersWindow + s.granted
          rw [hsent, hunsent.2, List.length_append]
          exact hwindow
        · show s.source = (s.chan.sent ++ [s.chan.dataPacket 0 todo]).flatMap dataOf ++
            (if data = [] then Writer.idle else .writing data).unsent ++ []
          rw [hsent, hunsent.1, List.append_nil, hsource, List.append_assoc]
        · show (if data = [] then Writer.idle else .writing data).held.length ≤ _
          rw [hunsent.2]
          exact Nat.zero_le _
        · intro q hq
          rcases List.mem_append.mp hq with hold | hnew
          · exact hout.chunks q hold
          · rw [List.mem_singleton.mp hnew, dataOf_dataPacket s.chan hfits]
            exact hheld
  · exact ⟨hin, hout⟩

theorem flow_read (hin : Incoming s) (hout : Outgoing peersWindow s) (n : Nat) :
    Incoming (s.read n) ∧ Outgoing peersWindow (s.read n) := by
  unfold Endpoint.read
  split
  · exact ⟨hin, hout⟩
  rename_i hidle
  have hidle : s.reader = .idle := by
    push Not at hidle
    exact hidle.2
  have hwindow := hin.window
  have hannounced := hin.announced
  rw [hidle] at hwindow hannounced
  split
  · exact ⟨⟨hwindow, hin.received, hannounced⟩,
      ⟨hout.window, hout.source, hout.held, hout.chunks⟩⟩
  split
  · exact ⟨hin, hout⟩
  · rename_i pending heof
    obtain ⟨hempty, hempty', -⟩ := Buffer.read_eq_eof heof
    have hreceived := hin.received
    rw [hempty] at hwindow hreceived
    refine ⟨⟨?_, ?_, hannounced⟩, ⟨hout.window, hout.source, hout.held, hout.chunks⟩⟩
    · show s.chan.myWindow.toNat + 0 + pending.contents.length + s.receivedExtended.length = _
      rw [hempty']
      exact hwindow
    · show s.received = s.delivered ++ pending.contents
      rw [hempty']
      exact hreceived
  · rename_i data pending hdata
    obtain ⟨hcontents, -, -⟩ := Buffer.read_eq_data hdata
    have hreceived := hin.received
    rw [hcontents, List.length_append] at hwindow
    rw [hcontents] at hreceived
    have howed : (if data = [] then Reader.idle else .owing data.length).owed = data.length ∧
        (if data = [] then Reader.idle else .owing data.length).unannounced = data.length := by
      split <;> simp_all [Reader.owed, Reader.unannounced]
    refine ⟨⟨?_, ?_, ?_⟩, ⟨hout.window, hout.source, hout.held, hout.chunks⟩⟩
    · show s.chan.myWindow.toNat +
        (if data = [] then Reader.idle else .owing data.length).owed +
          pending.contents.length + s.receivedExtended.length = _
      rw [howed.1]
      have howes : Reader.idle.owed = 0 := rfl
      omega
    · show s.received = s.delivered ++ data ++ pending.contents
      rw [hreceived, List.append_assoc]
    · show s.announced +
        (if data = [] then Reader.idle else .owing data.length).unannounced ≤
          (s.delivered ++ data).length
      rw [howed.2, List.length_append]
      have howes : Reader.idle.unannounced = 0 := rfl
      omega

theorem flow_adjust (hin : Incoming s) (hout : Outgoing peersWindow s) :
    Incoming s.adjust ∧ Outgoing peersWindow s.adjust := by
  unfold Endpoint.adjust
  split
  · rename_i n hreader
    have hwindow := hin.window
    have hannounced := hin.announced
    rw [hreader] at hwindow hannounced
    have howes : (Reader.owing n).owed = n := rfl
    have hsize : channelWindowSize.toNat < 2 ^ 32 := channelWindowSize.toNat_lt
    -- the window cannot exceed its initial setting, so the sum does not overflow
    have hsum : (s.chan.myWindow + UInt32.ofNat n).toNat = s.chan.myWindow.toNat + n := by
      rw [UInt32.toNat_add, UInt32.toNat_ofNat', Nat.mod_eq_of_lt (by omega : n < 2 ^ 32),
        Nat.mod_eq_of_lt (by omega)]
    refine ⟨⟨?_, hin.received, hannounced⟩,
      ⟨hout.window, hout.source, hout.held, hout.chunks⟩⟩
    show (s.chan.myWindow + UInt32.ofNat n).toNat + 0 + s.chan.pending.contents.length +
      s.receivedExtended.length = _
    omega
  · exact ⟨hin, hout⟩

theorem flow_announce (hin : Incoming s) (hout : Outgoing peersWindow s)
    (write : Option SshError) :
    Incoming (s.announce write) ∧ Outgoing peersWindow (s.announce write) := by
  unfold Endpoint.announce
  split
  · rename_i n hreader
    have hwindow := hin.window
    have hannounced := hin.announced
    rw [hreader] at hwindow hannounced
    have hannounced : s.announced + n ≤ s.delivered.length := hannounced
    have hlost : ∀ (c : Channel) (reader : Reader), c.sent = s.chan.sent →
        c.remoteWin = s.chan.remoteWin → c.maxRemotePayload = s.chan.maxRemotePayload →
        c.myWindow = s.chan.myWindow → c.pending = s.chan.pending →
        reader.owed = 0 → reader.unannounced = 0 →
        Incoming { s with chan := c, reader := reader } ∧
          Outgoing peersWindow { s with chan := c, reader := reader } := by
      intro c reader hsent hremote hpayload hmine hpending howed hunannounced
      refine ⟨⟨?_, ?_, ?_⟩, ⟨?_, ?_, ?_, ?_⟩⟩
      · show c.myWindow.toNat + reader.owed + c.pending.contents.length +
          s.receivedExtended.length = _
        rw [hmine, howed, hpending]
        exact hwindow
      · show s.received = s.delivered ++ c.pending.contents
        rw [hpending]
        exact hin.received
      · show (c.sent.map adjustment).sum + reader.unannounced ≤ s.delivered.length
        rw [hsent, hunannounced]
        have hsame : (s.chan.sent.map adjustment).sum = s.announced := rfl
        omega
      · show (c.sent.flatMap dataOf).length + s.writer.held.length + c.remoteWin.win.toNat ≤ _
        rw [hsent, hremote]
        exact hout.window
      · show ∃ lost, s.source = c.sent.flatMap dataOf ++ s.writer.unsent ++ lost ∧ _
        rw [hsent]
        exact hout.source
      · show s.writer.held.length ≤ c.maxRemotePayload.toNat
        rw [hpayload]
        exact hout.held
      · show ∀ q ∈ c.sent, (dataOf q).length ≤ c.maxRemotePayload.toNat
        rw [hsent, hpayload]
        exact hout.chunks
    have hmessage : s.chan.sendMessage windowAdjustMsg (0, UInt32.ofNat n, ()) write =
        s.chan.writePacket
          (windowAdjustMsg.tag ::
            (appendU32 s.chan.remoteId ++ (appendU32 (UInt32.ofNat n) ++ []))) write :=
      sendMessage_eq s.chan rfl write
    rw [hmessage]
    have hwrote := wrote s.chan
      (windowAdjustMsg.tag :: (appendU32 s.chan.remoteId ++ (appendU32 (UInt32.ofNat n) ++ [])))
      write
    have hadjustment := adjustment_adjustPacket s.chan.remoteId (UInt32.ofNat n)
    have hdata : dataOf (windowAdjustMsg.tag ::
        (appendU32 s.chan.remoteId ++ (appendU32 (UInt32.ofNat n) ++ []))) = [] :=
      dataOf_of_carried (carried_of_tag (by decide) (by decide))
    generalize windowAdjustMsg.tag ::
      (appendU32 s.chan.remoteId ++ (appendU32 (UInt32.ofNat n) ++ [])) = q at *
    generalize s.chan.writePacket q write = r at hwrote
    cases hwrote with
    | refused => exact hlost s.chan .idle rfl rfl rfl rfl rfl rfl rfl
    | failed err =>
        have hstopped := hlost { s.chan with sentClose := q.head? == some msgChannelClose }
        cases err with
        | eof => exact hstopped .idle rfl rfl rfl rfl rfl rfl rfl
        | parseError tag => exact hstopped (.stopped _) rfl rfl rfl rfl rfl rfl rfl
        | unexpectedMessage expected got =>
            exact hstopped (.stopped _) rfl rfl rfl rfl rfl rfl rfl
        | fieldError field => exact hstopped (.stopped _) rfl rfl rfl rfl rfl rfl rfl
        | shortRead => exact hstopped (.stopped _) rfl rfl rfl rfl rfl rfl rfl
        | other message => exact hstopped (.stopped _) rfl rfl rfl rfl rfl rfl rfl
    | sent =>
        have hcut : (UInt32.ofNat n).toNat ≤ n := by
          rw [UInt32.toNat_ofNat']
          exact Nat.mod_le _ _
        have hsent : (s.chan.sent ++ [q]).flatMap dataOf = s.dataSent := by
          simp [Endpoint.dataSent, hdata]
        refine ⟨⟨hwindow, hin.received, ?_⟩, ?_, ?_, hout.held, ?_⟩
        · show ((s.chan.sent ++ [q]).map adjustment).sum + 0 ≤ s.delivered.length
          rw [List.map_append, List.sum_append, List.map_singleton, List.sum_singleton,
            hadjustment]
          have hsame : (s.chan.sent.map adjustment).sum = s.announced := rfl
          omega
        · show ((s.chan.sent ++ [q]).flatMap dataOf).length + s.writer.held.length +
            s.chan.remoteWin.win.toNat ≤ _
          rw [hsent]
          exact hout.window
        · show ∃ lost, s.source = (s.chan.sent ++ [q]).flatMap dataOf ++ s.writer.unsent ++ lost ∧ _
          rw [hsent]
          exact hout.source
        · intro q' hq
          rcases List.mem_append.mp hq with hold | hnew
          · exact hout.chunks q' hold
          · rw [List.mem_singleton.mp hnew, hdata]
            exact Nat.zero_le _
  · exact ⟨hin, hout⟩

theorem flow_step (hin : Incoming s) (hout : Outgoing peersWindow s) (e : EndpointEvent) :
    Incoming (s.step e) ∧ Outgoing peersWindow (s.step e) := by
  cases hloop : e.ofLoop with
  | false =>
      obtain ⟨packet, hadvance⟩ := advance_step (s := s) hloop
      exact ⟨incoming_of_advance hin hadvance, outgoing_of_advance hout hadvance⟩
  | true =>
      cases e with
      | write data => exact flow_write hin hout data
      | reserve => exact flow_reserve hin hout
      | transmit write => exact flow_transmit hin hout write
      | read n => exact flow_read hin hout n
      | adjust => exact flow_adjust hin hout
      | announce write => exact flow_announce hin hout write
      | _ => cases hloop

end Accounts

end DockerBastion.Ssh

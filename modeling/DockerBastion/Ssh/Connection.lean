import DockerBastion.Ssh.Queues

/-!
# What ends the main loop, and what holds it up

The main loop panics on a packet with an overlong string and on nothing else; the request
loops of the sessions have panics of their own.  It stops for good where it waits for a
queue that nobody empties; from all other places the server goes on by itself.  A write to
the connection is taken to return.
-/

namespace DockerBastion.Ssh

open Foundation Sshd

/-! ## What makes the main loop panic -/

/-- The main loop reads a packet that is addressed and has an overlong string. -/
def Fatal (s : Mux) : MuxEvent → Prop
  | .packet p _ => s.loop = .reading ∧ Overlong p.bytes ∧ Addressed s p.bytes
  | _ => False

section Alive

variable {s : Mux}

theorem running_of_loop {s' : Mux} (h : s'.loop = s.loop) : s'.running = s.running := by
  rw [Mux.running, Mux.running, h]

theorem running_step (hn : Numbered s) (ho : Orderly s) (hrunning : s.running = true)
    (e : MuxEvent) : (s.step e).running = false ↔ Fatal s e := by
  have hother : e.ofLoop = false → (s.step e).running = true := by
    intro he
    rw [running_of_loop (loop_step he), hrunning]
  have hnot : ¬ s.running = false := by simp [hrunning]
  cases e with
  | packet p write =>
      rw [Mux.step, if_neg hnot]
      cases hloop : s.loop with
      | reading => simpa [Fatal, hloop] using running_onePacket hn p write
      | sending q write' => simp [Fatal, hloop, hrunning]
      | offering k => simp [Fatal, hloop, hrunning]
      | ended err => simp [Fatal, hloop, hrunning]
      | panicked e => simp [Fatal, hloop, hrunning]
  | resume =>
      rw [Mux.step, if_neg hnot, Mux.resume]
      refine iff_of_false ?_ id
      split
      · rename_i p write hloop
        rw [running_onePacket hn p write]
        exact fun h => not_overlong_of_pending (ho.pending p write hloop) h.1
      · simp [running_offer]
      · exact hnot
  | readFails err =>
      rw [Mux.step, if_neg hnot]
      refine iff_of_false ?_ id
      split
      · simp [running_finish hn]
      · exact hnot
  | takeChannel => simp [hother rfl, Fatal]
  | decide write => simp [hother rfl, Fatal]
  | takeGlobal => simp [hother rfl, Fatal]
  | session k e => simp [hother rfl, Fatal]

end Alive

/--
Nobody empties the queue for the packet: it answers a request that the server has not
made, it is a message that nobody waits for, or it is a request on a channel that is
not served and never will be.
-/
inductive Stranded (s : Mux) (packet : Bytes) : Prop
  | response : IsResponse packet → Stranded s packet
  | message : IsMessage packet → Stranded s packet
  | request (k : Nat) (c : Endpoint) : NumberOf s.chans k packet →
      s.channels[k]? = some c → packet.head? = some channelRequestMsg.tag → Unserved c →
      Stranded s packet

section Tags

variable {packet : Bytes}

theorem IsMessage.not_of_mem {tag : UInt8} (h : IsMessage packet)
    (htag : tag ∈ loopTags ∨ tag ∈ channelTags) : packet.head? ≠ some tag := by
  obtain ⟨-, tag', hhead, hloop, hchannel⟩ := h
  rw [hhead]
  rintro heq
  cases heq
  rcases htag with htag | htag
  · exact hloop htag
  · exact hchannel htag

end Tags

section Waiting

variable {s : Mux} {p : Packet} {write : Option SshError} {k : Nat} {c : Endpoint}

theorem headD_of_head? {tag : UInt8} (h : p.bytes.head? = some tag) : p.bytes.headD 0 = tag := by
  rw [List.headD_eq_head?_getD, h, Option.getD_some]

theorem onePacket_response (hresponse : IsResponse p.bytes) (hdecode : decode p.bytes = .ok ())
    (hfull : globalCapacity ≤ s.globalResponses.length) :
    s.onePacket p write = { s with loop := .sending p write } := by
  have hroom : ¬ s.globalResponses.length < globalCapacity := by omega
  rcases hresponse with htag | htag
  · simp only [Mux.onePacket, headD_of_head? htag, Mux.handleGlobalPacket, hdecode, if_neg hroom]
    rfl
  · simp only [Mux.onePacket, headD_of_head? htag, Mux.handleGlobalPacket, hdecode, if_neg hroom]
    rfl

theorem onePacket_global {r} (htag : p.bytes.head? = some globalRequestMsg.tag)
    (hmsg : unmarshal globalRequestMsg p.bytes = .ok r)
    (hroom : s.incomingRequests.length < queueCapacity) :
    (s.onePacket p write).loop = .reading := by
  simp only [Mux.onePacket, headD_of_head? htag, Mux.handleGlobalPacket, Mux.handleGlobalRequest,
    hmsg, if_pos hroom]
  rfl

/-- A packet with none of the tags of the main loop goes to its channel. -/
theorem onePacket_channel {tag : UInt8} (htag : p.bytes.head? = some tag)
    (hloop : tag ∉ loopTags) (hnumber : NumberOf s.chans k p.bytes)
    (hc : s.channels[k]? = some c) : s.onePacket p write = s.handTo k c p write := by
  have hnot : ¬ p.bytes.length < 5 := by
    have := hnumber.1
    omega
  simp only [loopTags, List.mem_cons, List.not_mem_nil, or_false, not_or] at hloop
  simp only [Mux.onePacket, headD_of_head? htag, hloop, if_false, or_self, Mux.handleChannelPacket,
    hnot, hnumber.2, hc]

theorem handlePacket_message (hmessage : IsMessage p.bytes) (chan : Channel) :
    chan.handlePacket p.bytes write = chan.handleOther p.bytes := by
  obtain ⟨-, tag, hhead, -, hchannel⟩ := hmessage
  obtain ⟨tag', body, hp⟩ := List.exists_cons_of_ne_nil p.ne_nil
  rw [hp] at hhead ⊢
  cases hhead
  simp only [channelTags, List.mem_cons, List.not_mem_nil, or_false, not_or] at hchannel
  simp only [Channel.handlePacket, hchannel, if_false, or_self]

theorem handlePacket_request (htag : p.bytes.head? = some channelRequestMsg.tag)
    (chan : Channel) : chan.handlePacket p.bytes write = chan.handleRequest p.bytes := by
  obtain ⟨tag, body, hp⟩ := List.exists_cons_of_ne_nil p.ne_nil
  rw [hp] at htag ⊢
  cases htag
  rfl

theorem Numbered.queuesClosed (hn : Numbered s) {packet : Bytes}
    (hnumber : NumberOf s.chans k packet) (hc : s.channels[k]? = some c) :
    c.chan.queuesClosed = false := by
  obtain ⟨-, hlisted⟩ := ChanList.getChan_eq_some hnumber.2
  obtain ⟨c', hc', -, hopen⟩ := hn.listed _ k hlisted
  rw [hc] at hc'
  cases hc'
  rw [(hn.sessions k c hc).queuesClosed, hopen]

theorem handTo_waits {q : Packet} (h : c.chan.handlePacket q.bytes write = .waits) :
    s.handTo k c q write = { s with loop := .sending q write } := by
  rw [Mux.handTo, h]

theorem handTo_kept {q : Packet} (h : ∃ chan, c.chan.handlePacket q.bytes write = .kept chan) :
    (s.handTo k c q write).loop = .reading := by
  obtain ⟨chan, hkept⟩ := h
  rw [Mux.handTo, hkept]

theorem onePacket_message (hn : Numbered s) (hnumber : NumberOf s.chans k p.bytes)
    (hc : s.channels[k]? = some c) (hmessage : IsMessage p.bytes)
    (hfull : queueCapacity ≤ c.chan.msg.length) :
    s.onePacket p write = { s with loop := .sending p write } := by
  have hopen := hn.queuesClosed hnumber hc
  have hroom : ¬ c.chan.msg.length < queueCapacity := by omega
  have hwaits : c.chan.handlePacket p.bytes write = .waits := by
    rw [handlePacket_message hmessage, Channel.handleOther, hmessage.1]
    simp [hopen, hroom]
  obtain ⟨-, tag, hhead, hloop, -⟩ := hmessage
  rw [onePacket_channel hhead hloop hnumber hc, handTo_waits hwaits]

theorem onePacket_request {r} (hnumber : NumberOf s.chans k p.bytes)
    (hc : s.channels[k]? = some c) (htag : p.bytes.head? = some channelRequestMsg.tag)
    (hmsg : unmarshal channelRequestMsg p.bytes = .ok r) (hn : Numbered s) :
    (queueCapacity ≤ c.chan.incomingRequests.length →
        s.onePacket p write = { s with loop := .sending p write }) ∧
      (c.chan.incomingRequests.length < queueCapacity →
        (s.onePacket p write).loop = .reading) := by
  obtain ⟨id, type, wantReply, payload, ⟨⟩⟩ := r
  have hopen := hn.queuesClosed hnumber hc
  have hhandle : c.chan.handlePacket p.bytes write = c.chan.handleRequest p.bytes :=
    handlePacket_request htag c.chan
  rw [onePacket_channel htag (by decide) hnumber hc]
  constructor
  · intro hfull
    have hroom : ¬ c.chan.incomingRequests.length < queueCapacity := by omega
    refine handTo_waits ?_
    rw [hhandle, Channel.handleRequest, hmsg]
    simp [hopen, hroom]
  · intro hroom
    refine handTo_kept ?_
    rw [hhandle, Channel.handleRequest, hmsg]
    simp [hopen, hroom]

theorem NumberOf.unique {chans : ChanList} {j : Nat} {packet : Bytes}
    (hk : NumberOf chans k packet) (hj : NumberOf chans j packet) : k = j := by
  have h := hk.2
  rw [hj.2] at h
  cases h
  rfl

theorem onePacket_of_stranded (hn : Numbered s) (hpending : Pending s p.bytes)
    (hstranded : Stranded s p.bytes) :
    s.onePacket p write = { s with loop := .sending p write } := by
  cases hpending with
  | global htag hmsg =>
      -- the queue for these is emptied
      cases hstranded with
      | response hresponse =>
          rcases hresponse with h | h
          · rw [htag] at h
            cases h
          · rw [htag] at h
            cases h
      | message hmessage => exact absurd htag (hmessage.not_of_mem (.inl (by decide)))
      | request k c hnumber hc hrequest =>
          rw [htag] at hrequest
          cases hrequest
  | response hresponse hdecode hfull => exact onePacket_response hresponse hdecode hfull
  | request k c hnumber hc htag hmsg hfull =>
      cases hstranded with
      | response hresponse =>
          rcases hresponse with h | h
          · rw [htag] at h
            cases h
          · rw [htag] at h
            cases h
      | message hmessage => exact absurd htag (hmessage.not_of_mem (.inr (by decide)))
      | request k' c' hnumber' hc' hrequest hunserved =>
          cases hnumber.unique hnumber'
          rw [hc] at hc'
          cases hc'
          exact (onePacket_request hnumber hc htag hmsg hn).1 (hfull hunserved.1)
  | message k c hnumber hc hmessage hfull => exact onePacket_message hn hnumber hc hmessage hfull

theorem Pauses.stranded {s' : Mux} {packet : Bytes} (h : Pauses s s')
    (hstranded : Stranded s packet) : Stranded s' packet := by
  cases hstranded with
  | response hresponse => exact .response hresponse
  | message hmessage => exact .message hmessage
  | request k c hnumber hc htag hunserved =>
      obtain ⟨c', hc', -, hstays⟩ := h.channels k c hc
      exact .request k c' (h.chans ▸ hnumber) hc' htag (hstays hunserved)

/-- The main loop waits for a queue that nobody empties. -/
structure Stuck (p : Packet) (write : Option SshError) (s : Mux) : Prop where
  numbered : Numbered s
  orderly : Orderly s
  loop : s.loop = .sending p write
  stranded : Stranded s p.bytes

theorem stuck_step (hs : Stuck p write s) (e : MuxEvent) : Stuck p write (s.step e) := by
  obtain ⟨hn, ho, hloop, hstranded⟩ := hs
  have hn' := numbered_of_changes hn (changes_step s e)
  have ho' := orderly_step ho hn e
  have hrunning : s.running = true := by rw [Mux.running, hloop]
  cases hofLoop : e.ofLoop with
  | false =>
      exact ⟨hn', ho', (loop_step hofLoop).trans hloop, (pauses_step hofLoop).stranded hstranded⟩
  | true =>
      have hsame : s.step e = s := by
        have hone : s.onePacket p write = s := by
          rw [onePacket_of_stranded hn (ho.pending p write hloop) hstranded, ← hloop]
        cases e with
        | packet q w => simp [Mux.step, hrunning, hloop]
        | resume => simp [Mux.step, hrunning, Mux.resume, hloop, hone]
        | readFails err => simp [Mux.step, hrunning, hloop]
        | takeChannel => cases hofLoop
        | decide w => cases hofLoop
        | takeGlobal => cases hofLoop
        | session k e => cases hofLoop
      rw [hsame]
      exact ⟨hn, ho, hloop, hstranded⟩

/-! ## Where it goes on -/

/-- Some steps lead to a state in which the main loop reads. -/
def Reads (s : Mux) : Prop := ∃ more, (run Mux.step s more).loop = .reading

theorem Reads.step {e : MuxEvent} (h : Reads (s.step e)) : Reads s := by
  obtain ⟨more, hmore⟩ := h
  exact ⟨e :: more, hmore⟩

theorem reads_of_resume (h : (s.step .resume).loop = .reading) : Reads s := ⟨[.resume], h⟩

theorem running_of_sending (hloop : s.loop = .sending p write) : s.running = true := by
  rw [Mux.running, hloop]

theorem step_resume_sending (hloop : s.loop = .sending p write) :
    s.step .resume = s.onePacket p write := by
  simp [Mux.step, running_of_sending hloop, Mux.resume, hloop]

theorem reads_global {r} (hloop : s.loop = .sending p write)
    (htag : p.bytes.head? = some globalRequestMsg.tag)
    (hmsg : unmarshal globalRequestMsg p.bytes = .ok r) : Reads s := by
  -- one request after the other is taken
  induction hn : s.incomingRequests.length generalizing s with
  | zero =>
      refine reads_of_resume ?_
      rw [step_resume_sending hloop]
      exact onePacket_global htag hmsg (by rw [hn]; decide)
  | succ n ih =>
      refine Reads.step (e := .takeGlobal) (ih ?_ ?_)
      · rw [loop_step rfl, hloop]
      · have hstep : s.step .takeGlobal =
            { s with incomingRequests := s.incomingRequests.drop 1 } := by
          simp [Mux.step, running_of_sending hloop]
        rw [hstep, List.length_drop, hn]
        omega

theorem reads_serving {r} (hn : Numbered s) (hloop : s.loop = .sending p write)
    (hnumber : NumberOf s.chans k p.bytes) (hc : s.channels[k]? = some c)
    (htag : p.bytes.head? = some channelRequestMsg.tag)
    (hmsg : unmarshal channelRequestMsg p.bytes = .ok r) (hserving : c.serving = true) :
    Reads s := by
  induction hlength : c.chan.incomingRequests.length generalizing s c with
  | zero =>
      refine reads_of_resume ?_
      rw [step_resume_sending hloop]
      exact (onePacket_request hnumber hc htag hmsg hn).2 (by rw [hlength]; decide)
  | succ n ih =>
      have hstep : s.step (.session k .takeRequest) =
          s.setChannel k (c.step .takeRequest) := by
        simp [Mux.step, running_of_sending hloop, Mux.session, hc, EndpointEvent.ofSession,
          hserving]
      refine Reads.step (e := .session k .takeRequest)
        (ih (c := c.step .takeRequest) (numbered_of_changes hn (changes_step s _)) ?_ ?_ ?_ ?_ ?_)
      · rw [loop_step rfl, hloop]
      · rw [hstep]
        exact hnumber
      · rw [hstep]
        exact (getElem?_set_channels hc _ k).trans (if_pos rfl)
      · simp [Endpoint.step, Endpoint.takeRequest, hserving]
      · simp [Endpoint.step, Endpoint.takeRequest, hserving, hlength]

theorem accept_serving (hdecided : c.chan.decided = false) (hclose : c.chan.sentClose = false) :
    (c.step (.accept none)).serving = true := by
  simp [Endpoint.step, Endpoint.accept, Channel.accept, hdecided, Channel.sendMessage,
    Channel.writePacket, hclose]

theorem step_decide {k : Nat} (hrunning : s.running = true) (haccepting : s.accepting = some k)
    (hc : s.channels[k]? = some c) :
    ∃ e, s.step (.decide none) = { s.setChannel k (c.step e) with accepting := none } ∧
      (c.chan.chanType = ascii "session" → e = .accept none) := by
  have hstep : s.step (.decide none) = s.decide none := by simp [Mux.step, hrunning]
  rw [hstep, Mux.decide, haccepting]
  simp only [hc]
  exact ⟨_, rfl, fun htype => if_neg (by simp [htype])⟩

/-- The main loop waits to hand `p` to channel `k`, which is on its way to `Accept`. -/
structure Queueing (k : Nat) (c : Endpoint) (p : Packet) (write : Option SshError)
    (s : Mux) : Prop where
  numbered : Numbered s
  orderly : Orderly s
  loop : s.loop = .sending p write
  number : NumberOf s.chans k p.bytes
  channel : s.channels[k]? = some c

theorem step_takeChannel {j : Nat} {rest : List Nat} (hrunning : s.running = true)
    (haccepting : s.accepting = none) (hincoming : s.incomingChannels = j :: rest) :
    s.step .takeChannel = { s with accepting := some j, incomingChannels := rest } := by
  simp [Mux.step, hrunning, Mux.takeChannel, haccepting, hincoming]

theorem Queueing.takeChannel {j : Nat} {rest : List Nat} (h : Queueing k c p write s)
    (haccepting : s.accepting = none) (hincoming : s.incomingChannels = j :: rest) :
    Queueing k c p write (s.step .takeChannel) ∧
      (s.step .takeChannel).accepting = some j ∧
      (s.step .takeChannel).incomingChannels = rest := by
  have hstep := step_takeChannel (running_of_sending h.loop) haccepting hincoming
  refine ⟨⟨numbered_of_changes h.numbered (changes_step s _),
    orderly_step h.orderly h.numbered _, ?_, ?_, ?_⟩, ?_, ?_⟩
  · rw [hstep]
    exact h.loop
  · rw [hstep]
    exact h.number
  · rw [hstep]
    exact h.channel
  · rw [hstep]
  · rw [hstep]

theorem Queueing.decide {j : Nat} (h : Queueing k c p write s)
    (haccepting : s.accepting = some j) (hj : j ≠ k) :
    Queueing k c p write (s.step (.decide none)) ∧
      (s.step (.decide none)).accepting = none ∧
      (s.step (.decide none)).incomingChannels = s.incomingChannels := by
  have hlt := h.orderly.queued j (.inr (.inl haccepting))
  obtain ⟨e, hstep, -⟩ :=
    step_decide (running_of_sending h.loop) haccepting (List.getElem?_eq_getElem hlt)
  refine ⟨⟨numbered_of_changes h.numbered (changes_step s _),
    orderly_step h.orderly h.numbered _, ?_, ?_, ?_⟩, ?_, ?_⟩
  · rw [loop_step rfl, h.loop]
  · rw [hstep]
    exact h.number
  · rw [hstep]
    refine (getElem?_set_channels (List.getElem?_eq_getElem hlt) _ k).trans ?_
    rw [if_neg hj.symm, h.channel]
  · rw [hstep]
  · rw [hstep]
    rfl

/-- The server takes the channels before it off the queue, and accepts it. -/
theorem reads_awaited {r} (h : Queueing k c p write s)
    (htag : p.bytes.head? = some channelRequestMsg.tag)
    (hmsg : unmarshal channelRequestMsg p.bytes = .ok r)
    (hdecided : c.chan.decided = false) (htype : c.chan.chanType = ascii "session") :
    Reads s := by
  have haccept : ∀ s, Queueing k c p write s → s.accepting = some k → Reads s := by
    intro s h haccepting
    obtain ⟨e, hstep, he⟩ :=
      step_decide (running_of_sending h.loop) haccepting h.channel
    rw [he htype] at hstep
    have hopen : c.chan.sentClose = false := by
      rw [(h.orderly.fresh k c h.channel hdecided).2.2.2]
      obtain ⟨-, hlisted⟩ := ChanList.getChan_eq_some h.number.2
      obtain ⟨c', hc', -, hopen⟩ := h.numbered.listed _ k hlisted
      rw [h.channel] at hc'
      cases hc'
      exact hopen
    have hloop : (s.step (.decide none)).loop = .sending p write :=
      (loop_step rfl).trans h.loop
    have hnumber : NumberOf (s.step (.decide none)).chans k p.bytes := by
      rw [hstep]
      exact h.number
    have hc : (s.step (.decide none)).channels[k]? = some (c.step (.accept none)) := by
      rw [hstep]
      exact (getElem?_set_channels h.channel _ k).trans (if_pos rfl)
    exact Reads.step
      (reads_serving (numbered_of_changes h.numbered (changes_step s _)) hloop hnumber hc htag
        hmsg (accept_serving hdecided hopen))
  induction hincoming : s.incomingChannels generalizing s with
  | nil =>
      have hawaits := h.orderly.awaited k c h.channel hdecided
      rcases hawaits with hin | hacc | hoff
      · rw [hincoming] at hin
        cases hin
      · exact haccept s h hacc
      · rw [h.loop] at hoff
        cases hoff
  | cons j rest ih =>
      have hnone : ∀ s, Queueing k c p write s → s.accepting = none →
          s.incomingChannels = j :: rest → Reads s := by
        intro s h haccepting hincoming
        obtain ⟨hnext, -, hrest⟩ := h.takeChannel haccepting hincoming
        exact Reads.step (ih hnext hrest)
      cases haccepting : s.accepting with
      | none => exact hnone s h haccepting hincoming
      | some i =>
          by_cases hi : i = k
          · exact haccept s h (hi ▸ haccepting)
          · obtain ⟨hnext, hfree, hsame⟩ := h.decide haccepting hi
            exact Reads.step (hnone _ hnext hfree (hsame.trans hincoming))

theorem reads_offering (hn : Numbered s) (ho : Orderly s) (hloop : s.loop = .offering k) :
    Reads s := by
  have hrunning : ∀ s : Mux, s.loop = .offering k → s.running = true := by
    intro s hloop
    rw [Mux.running, hloop]
  induction hincoming : s.incomingChannels generalizing s with
  | nil =>
      refine reads_of_resume ?_
      simp [Mux.step, hrunning s hloop, Mux.resume, hloop, Mux.offer, hincoming, queueCapacity]
  | cons j rest ih =>
      have hnone : ∀ s : Mux, Numbered s → Orderly s → s.loop = .offering k →
          s.accepting = none → s.incomingChannels = j :: rest → Reads s := by
        intro s hn ho hloop haccepting hincoming
        have hstep := step_takeChannel (hrunning s hloop) haccepting hincoming
        exact Reads.step (e := .takeChannel)
          (ih (numbered_of_changes hn (changes_step s _)) (orderly_step ho hn _)
            ((loop_step rfl).trans hloop) (by rw [hstep]))
      cases haccepting : s.accepting with
      | none => exact hnone s hn ho hloop haccepting hincoming
      | some i =>
          have hlt := ho.queued i (.inr (.inl haccepting))
          obtain ⟨e, hstep, -⟩ :=
            step_decide (hrunning s hloop) haccepting (List.getElem?_eq_getElem hlt)
          refine Reads.step (e := .decide none)
            (hnone _ (numbered_of_changes hn (changes_step s _)) (orderly_step ho hn _)
              ((loop_step rfl).trans hloop) ?_ ?_)
          · rw [hstep]
          · rw [hstep]
            exact hincoming

/-- A loop that has ended stays so. -/
theorem loop_of_over {s : Mux} (h : (∃ err, s.loop = .ended err) ∨ ∃ e, s.loop = .panicked e)
    (e : MuxEvent) : (s.step e).loop = s.loop := by
  cases hofLoop : e.ofLoop with
  | false => exact loop_step hofLoop
  | true =>
      unfold Mux.step
      split
      · rfl
      rcases h with ⟨err, hloop⟩ | ⟨panic, hloop⟩
      · cases e <;> simp_all [MuxEvent.ofLoop, Mux.resume]
      · cases e <;> simp_all [MuxEvent.ofLoop, Mux.resume]

theorem reads_of_not_stranded (hn : Numbered s) (ho : Orderly s)
    (hloop : s.loop = .sending p write) (hnot : ¬ Stranded s p.bytes) : Reads s := by
  cases ho.pending p write hloop with
  | global htag hmsg => exact reads_global hloop htag hmsg
  | response hresponse => exact absurd (.response hresponse) hnot
  | message k c hnumber hc hmessage => exact absurd (.message hmessage) hnot
  | request k c hnumber hc htag hmsg =>
      cases hserving : c.serving with
      | true => exact reads_serving hn hloop hnumber hc htag hmsg hserving
      | false =>
          have hserved : ¬ Unserved c := fun h => hnot (.request k c hnumber hc htag h)
          rw [Unserved, hserving] at hserved
          push Not at hserved
          obtain ⟨hdecided, htype⟩ := hserved rfl
          exact reads_awaited ⟨hn, ho, hloop, hnumber, hc⟩ htag hmsg (by simpa using hdecided)
            htype

end Waiting

end DockerBastion.Ssh

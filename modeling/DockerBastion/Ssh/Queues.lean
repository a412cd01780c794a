import DockerBastion.Ssh.Overlong

/-!
# The queues of a connection

While the main loop waits the other goroutines go on.  They leave alone what the loop
waits for, or make room for it; and every channel that has not been decided is on its
way to `Accept`.
-/

namespace DockerBastion.Ssh

open Foundation Sshd

/-! ## The queues of a channel that takes no packet -/

/-- The queues are as they were. -/
structure Keeps (c c' : Channel) : Prop where
  msg : c'.msg = c.msg
  requests : c'.incomingRequests = c.incomingRequests

/-- What the goroutines of a session leave alone. -/
structure Idles (c c' : Endpoint) : Prop where
  msg : c'.chan.msg = c.chan.msg
  requests : c.serving = false → c'.chan.incomingRequests = c.chan.incomingRequests
  serving : c.serving = true → c'.serving = true
  unserved : c.chan.decided = true → c.serving = false → c'.serving = false

/-- The channel has been rejected or not accepted for an error, or it will be rejected. -/
def Unserved (c : Endpoint) : Prop :=
  c.serving = false ∧ (c.chan.decided = true ∨ c.chan.chanType ≠ ascii "session")

section Idles

variable {c c' c₁ : Channel} {s : Endpoint}

theorem keeps_writePacket (packet : Bytes) (write : Option SshError) :
    Keeps c (c.writePacket packet write).1 := by
  have hwrote := wrote c packet write
  generalize c.writePacket packet write = r at hwrote ⊢
  cases hwrote <;> exact ⟨rfl, rfl⟩

theorem Keeps.of_same (h : Keeps c₁ c') (hmsg : c₁.msg = c.msg)
    (hrequests : c₁.incomingRequests = c.incomingRequests) : Keeps c c' :=
  ⟨h.msg.trans hmsg, h.requests.trans hrequests⟩

theorem keeps_accept (write : Option SshError) : Keeps c (c.accept write).1 := by
  unfold Channel.accept
  split
  · exact ⟨rfl, rfl⟩
  · exact (keeps_writePacket _ _).of_same rfl rfl

theorem keeps_reject (reason : UInt32) (message : Bytes) (write : Option SshError) :
    Keeps c (c.reject reason message write).1 := by
  unfold Channel.reject
  split
  · exact ⟨rfl, rfl⟩
  · exact (keeps_writePacket _ _).of_same rfl rfl

theorem keeps_ackRequest (ok : Bool) (write : Option SshError) :
    Keeps c (c.ackRequest ok write).1 := by
  unfold Channel.ackRequest
  split
  · exact ⟨rfl, rfl⟩
  · split <;> exact keeps_writePacket _ _

theorem keeps_sendClose (write : Option SshError) : Keeps c (c.sendClose write).1 := by
  unfold Channel.sendClose
  split
  · exact ⟨rfl, rfl⟩
  · exact keeps_writePacket _ _

theorem keeps_closeWrite (write : Option SshError) : Keeps c (c.closeWrite write).1 := by
  unfold Channel.closeWrite
  split
  · exact ⟨rfl, rfl⟩
  · exact (keeps_writePacket _ _).of_same rfl rfl

theorem Keeps.idles {s' : Endpoint} (h : Keeps s.chan s'.chan)
    (hserving : s'.serving = s.serving) : Idles s s' :=
  ⟨h.msg, fun _ => h.requests, fun hs => hserving.trans hs, fun _ hs => hserving.trans hs⟩

theorem idles_same {s' : Endpoint} (hmsg : s'.chan.msg = s.chan.msg)
    (hrequests : s'.chan.incomingRequests = s.chan.incomingRequests)
    (hserving : s'.serving = s.serving) : Idles s s' :=
  Keeps.idles ⟨hmsg, hrequests⟩ hserving

theorem idles_accept (write : Option SshError) : Idles s (s.accept write) := by
  have hkeeps : Keeps s.chan (s.chan.accept write).1 := keeps_accept write
  unfold Endpoint.accept
  split
  · rename_i c h
    rw [h] at hkeeps
    refine ⟨hkeeps.msg, fun _ => hkeeps.requests, fun _ => rfl, fun hdecided => ?_⟩
    rw [Channel.accept, if_pos hdecided] at h
    cases h
  · rename_i c err h
    rw [h] at hkeeps
    exact hkeeps.idles rfl

theorem idles_step {e : EndpointEvent} (he : ∀ p write, e ≠ .packet p write)
    (hends : e ≠ .loopEnds) : Idles s (s.step e) := by
  cases e with
  | packet p write => exact absurd rfl (he p write)
  | loopEnds => exact absurd rfl hends
  | accept write => exact idles_accept write
  | reject reason message write => exact (keeps_reject _ _ _).idles rfl
  | write data =>
      simp only [Endpoint.step, Endpoint.write]
      repeat' split
      all_goals exact idles_same rfl rfl rfl
  | reserve =>
      simp only [Endpoint.step, Endpoint.reserve]
      repeat' split
      all_goals exact idles_same rfl rfl rfl
  | transmit write =>
      simp only [Endpoint.step, Endpoint.transmit]
      split
      · rename_i todo data hwriter
        have hkeeps : Keeps s.chan (s.chan.writePacket (s.chan.dataPacket 0 todo) write).1 :=
          keeps_writePacket _ _
        split
        · rename_i h
          rw [h] at hkeeps
          exact hkeeps.idles rfl
        · rename_i h
          rw [h] at hkeeps
          exact hkeeps.idles rfl
      · exact idles_same rfl rfl rfl
  | read n =>
      simp only [Endpoint.step, Endpoint.read]
      repeat' split
      all_goals exact idles_same rfl rfl rfl
  | adjust =>
      simp only [Endpoint.step, Endpoint.adjust]
      split <;> exact idles_same rfl rfl rfl
  | announce write =>
      simp only [Endpoint.step, Endpoint.announce]
      split
      · rename_i n hreader
        have hkeeps : Keeps s.chan
            (s.chan.sendMessage windowAdjustMsg (0, UInt32.ofNat n, ()) write).1 :=
          keeps_writePacket _ _
        split
        · rename_i h
          rw [h] at hkeeps
          exact hkeeps.idles rfl
        · rename_i h
          rw [h] at hkeeps
          exact hkeeps.idles rfl
        · rename_i h
          rw [h] at hkeeps
          exact hkeeps.idles rfl
      · exact idles_same rfl rfl rfl
  | takeRequest =>
      simp only [Endpoint.step, Endpoint.takeRequest]
      split
      · rename_i hserving
        exact ⟨rfl, fun h => absurd hserving (by simp [h]), id, fun _ => id⟩
      · exact idles_same rfl rfl rfl
  | reply ok write => exact (keeps_ackRequest _ _).idles rfl
  | closeWrite write => exact (keeps_closeWrite _).idles rfl
  | close write => exact (keeps_sendClose _).idles rfl

end Idles

/-! ## The other goroutines -/

/-- What the other goroutines leave to the main loop. -/
structure Pauses (s s' : Mux) : Prop where
  chans : s'.chans = s.chans
  responses : s'.globalResponses = s.globalResponses
  channels : ∀ (k : Nat) (c : Endpoint), s.channels[k]? = some c →
    ∃ c', s'.channels[k]? = some c' ∧ Idles c c' ∧ (Unserved c → Unserved c')

section Pauses

variable {s s' : Mux} {k : Nat} {c : Endpoint} {packet : Bytes}

theorem decided_step {e : EndpointEvent} (h : c.chan.decided = true) :
    (c.step e).chan.decided = true := by
  have hmoves : Moves c (c.step e) := moves_step e
  cases hmoves with
  | goes hchan hover => exact hchan.decided h
  | ends c' hchan hclose =>
      rw [hclose]
      exact hchan.decided h

theorem Pauses.of_same (hchans : s'.chans = s.chans)
    (hresponses : s'.globalResponses = s.globalResponses)
    (hchannels : s'.channels = s.channels) : Pauses s s' := by
  refine ⟨hchans, hresponses, fun k c hc => ⟨c, ?_, ?_, id⟩⟩
  · rw [hchannels, hc]
  · exact idles_same rfl rfl rfl

theorem Pauses.of_set {c' : Endpoint} (hc : s.channels[k]? = some c) (hidles : Idles c c')
    (hunserved : Unserved c → Unserved c') (hchans : s'.chans = s.chans)
    (hresponses : s'.globalResponses = s.globalResponses)
    (hchannels : s'.channels = s.channels.set k c') : Pauses s s' := by
  refine ⟨hchans, hresponses, fun j d hd => ?_⟩
  rw [hchannels, getElem?_set_channels hc]
  split
  · rename_i hj
    rw [hj, hc] at hd
    cases hd
    exact ⟨c', rfl, hidles, hunserved⟩
  · exact ⟨d, hd, idles_same rfl rfl rfl, id⟩

theorem pauses_step {e : MuxEvent} (he : e.ofLoop = false) : Pauses s (s.step e) := by
  unfold Mux.step
  split
  · exact .of_same rfl rfl rfl
  cases e with
  | packet p write => cases he
  | resume => cases he
  | readFails err => cases he
  | takeChannel =>
      simp only [Mux.takeChannel]
      split <;> exact .of_same rfl rfl rfl
  | decide write =>
      simp only [Mux.decide]
      split
      · exact .of_same rfl rfl rfl
      split
      · exact .of_same rfl rfl rfl
      rename_i c hc
      split
      · have hidles : Idles c
            (c.step (.reject unknownChannelType (ascii "unknown channel type") write)) :=
          (keeps_reject _ _ _).idles rfl
        refine .of_set hc hidles (fun h => ⟨h.1, .inl ?_⟩) rfl rfl rfl
        simp only [Endpoint.step, Channel.reject]
        split
        · assumption
        · exact (continues_sendMessage _ _ _).decided rfl
      · rename_i htype
        have hidles : Idles c (c.step (.accept write)) := idles_accept write
        refine .of_set hc hidles (fun h => ?_) rfl rfl rfl
        have hdecided := h.2.resolve_right htype
        exact ⟨hidles.unserved hdecided h.1, .inl (decided_step hdecided)⟩
  | takeGlobal => exact .of_same rfl rfl rfl
  | session k e =>
      simp only [Mux.session]
      split
      · exact .of_same rfl rfl rfl
      split
      · rename_i c hc hserving
        obtain ⟨hsession, hserving⟩ := hserving
        refine .of_set hc (idles_step ?_ ?_) (fun h => ?_) rfl rfl rfl
        · rintro p write rfl
          cases hsession
        · rintro rfl
          cases hsession
        · rw [h.1] at hserving
          cases hserving
      · exact .of_same rfl rfl rfl

theorem Pauses.pending (h : Pauses s s') (hpending : Pending s packet) : Pending s' packet := by
  cases hpending with
  | global htag hmsg => exact .global htag hmsg
  | response htag hdecode hfull => exact .response htag hdecode (h.responses ▸ hfull)
  | request k c hnumber hc htag hmsg hfull =>
      obtain ⟨c', hc', hidles, -⟩ := h.channels k c hc
      refine .request k c' (h.chans ▸ hnumber) hc' htag hmsg fun hserving => ?_
      cases hold : c.serving with
      | true =>
          rw [hidles.serving hold] at hserving
          cases hserving
      | false =>
          rw [hidles.requests hold]
          exact hfull hold
  | message k c hnumber hc hmessage hfull =>
      obtain ⟨c', hc', hidles, -⟩ := h.channels k c hc
      exact .message k c' (h.chans ▸ hnumber) hc' hmessage (hidles.msg ▸ hfull)

theorem loop_step {e : MuxEvent} (he : e.ofLoop = false) : (s.step e).loop = s.loop := by
  unfold Mux.step
  split
  · rfl
  cases e with
  | packet p write => cases he
  | resume => cases he
  | readFails err => cases he
  | takeChannel =>
      simp only [Mux.takeChannel]
      split <;> rfl
  | decide write =>
      simp only [Mux.decide]
      repeat' split
      all_goals rfl
  | takeGlobal => rfl
  | session k e =>
      simp only [Mux.session]
      repeat' split
      all_goals rfl

theorem not_overlong_of_pending {p : Packet} (h : Pending s p.bytes) : ¬ Overlong p.bytes := by
  obtain ⟨tag, body, hp⟩ := List.exists_cons_of_ne_nil p.ne_nil
  have hlength : (tag :: body).length < 2 ^ 32 := hp ▸ p.length_lt
  rw [hp] at h ⊢
  cases h with
  | global htag hmsg =>
      cases htag
      rw [overlong_iff_unmarshal (by simp [messages]) hlength]
      simp [hmsg]
  | response htag hdecode =>
      rw [overlong_iff_decode hlength]
      simp [hdecode]
  | request k c hnumber hc htag hmsg =>
      cases htag
      rw [overlong_iff_unmarshal (by simp [messages]) hlength]
      simp [hmsg]
  | message k c hnumber hc hmessage =>
      rw [overlong_iff_decode hlength]
      simp [hmessage.1]

end Pauses

/-! ## Channels on their way to `Accept` -/

/-- Channel `k` is on its way to `Accept` or `Reject`. -/
def Awaits (s : Mux) (k : Nat) : Prop :=
  k ∈ s.incomingChannels ∨ s.accepting = some k ∨ s.loop = .offering k

def Fresh (c : Endpoint) : Prop :=
  c.chan.decided = false →
    c.serving = false ∧ c.writer = .idle ∧ c.reader = .idle ∧ c.chan.sentClose = c.isOver

structure Orderly (s : Mux) : Prop where
  queued : ∀ k, Awaits s k → k < s.channels.length
  awaited : ∀ (k : Nat) (c : Endpoint), s.channels[k]? = some c → c.chan.decided = false →
    Awaits s k
  fresh : ∀ (k : Nat) (c : Endpoint), s.channels[k]? = some c → Fresh c
  pending : ∀ p write, s.loop = .sending p write → Pending s p.bytes

section Orderly

variable {s s' : Mux} {k : Nat} {c : Endpoint} {p : Packet} {write : Option SshError}

theorem fresh_packet (hdecided : c.chan.decided = false) (hfresh : Fresh c) :
    Fresh (c.packet p write) := by
  obtain ⟨hserving, hwriter, hreader, hclose⟩ := hfresh hdecided
  have hreceived : ∀ c', (c.chan.handlePacket p.bytes write).channel = some c' →
      Received c.chan p.bytes (c.chan.handlePacket p.bytes write) :=
    fun c' h => received_of_handlePacket p.length_lt h
  intro _
  unfold Endpoint.packet
  split
  · exact ⟨hserving, hwriter, hreader, hclose⟩
  split
  · rename_i c' hkept
    have h := hreceived c' (by rw [hkept]; rfl)
    rw [hkept] at h
    refine ⟨hserving, hwriter, hreader, ?_⟩
    generalize p.bytes = packet at h
    cases h with
    | nothing => exact hclose
    | data => exact (store_same _ _).2.2.2.trans hclose
    | eof => exact hclose
    | adjust => exact hclose
    | request => exact hclose
    | other => exact hclose
  · rename_i c' hremoved
    have h := hreceived c' (by rw [hremoved]; rfl)
    rw [hremoved] at h
    refine ⟨hserving, hwriter, hreader, ?_⟩
    generalize p.bytes = packet at h
    cases h with
    | close => rfl
  · exact ⟨hserving, hwriter, hreader, rfl⟩
  · exact ⟨hserving, hwriter, hreader, rfl⟩
  · exact ⟨hserving, hwriter, hreader, hclose⟩

theorem decided_accept (c : Channel) (write : Option SshError) :
    (c.accept write).1.decided = true := by
  unfold Channel.accept
  split
  · assumption
  · exact (continues_sendMessage _ _ _).decided rfl

theorem decided_reject (c : Channel) (reason : UInt32) (message : Bytes)
    (write : Option SshError) : (c.reject reason message write).1.decided = true := by
  unfold Channel.reject
  split
  · assumption
  · exact (continues_sendMessage _ _ _).decided rfl

theorem decided_step_accept (c : Endpoint) (write : Option SshError) :
    (c.step (.accept write)).chan.decided = true := by
  have hdecided := decided_accept c.chan write
  simp only [Endpoint.step, Endpoint.accept]
  split
  · rename_i h
    rwa [h] at hdecided
  · rename_i h
    rwa [h] at hdecided

theorem fresh_step {e : EndpointEvent} (hfresh : Fresh c) : Fresh (c.step e) := by
  intro hstep
  have hdecided : c.chan.decided = false := by
    cases hold : c.chan.decided with
    | false => rfl
    | true =>
        rw [decided_step hold] at hstep
        cases hstep
  obtain ⟨hserving, hwriter, hreader, hclose⟩ := hfresh hdecided
  cases e with
  | packet p write => exact fresh_packet hdecided hfresh hstep
  | accept write =>
      rw [decided_step_accept] at hstep
      cases hstep
  | reject reason message write =>
      simp only [Endpoint.step, decided_reject] at hstep
      cases hstep
  | write data => simpa [Endpoint.step, Endpoint.write, hserving] using hfresh hdecided
  | reserve => simpa [Endpoint.step, Endpoint.reserve, hwriter] using hfresh hdecided
  | transmit write => simpa [Endpoint.step, Endpoint.transmit, hwriter] using hfresh hdecided
  | read n => simpa [Endpoint.step, Endpoint.read, hserving] using hfresh hdecided
  | adjust => simpa [Endpoint.step, Endpoint.adjust, hreader] using hfresh hdecided
  | announce write => simpa [Endpoint.step, Endpoint.announce, hreader] using hfresh hdecided
  | takeRequest => simpa [Endpoint.step, Endpoint.takeRequest, hserving] using hfresh hdecided
  | reply ok write =>
      simpa [Endpoint.step, Channel.ackRequest, hdecided] using hfresh hdecided
  | closeWrite write =>
      simpa [Endpoint.step, Channel.closeWrite, hdecided] using hfresh hdecided
  | close write => simpa [Endpoint.step, Channel.sendClose, hdecided] using hfresh hdecided
  | loopEnds =>
      simp only [Endpoint.step]
      split
      · exact hfresh hdecided
      · exact ⟨hserving, hwriter, hreader, rfl⟩

/-- The channels of a connection after some of them have taken a step. -/
structure Evolves (s s' : Mux) : Prop where
  length : s'.channels.length = s.channels.length
  channels : ∀ (k : Nat) (c' : Endpoint), s'.channels[k]? = some c' →
    ∃ c, s.channels[k]? = some c ∧ (c' = c ∨ ∃ e, c' = c.step e)

theorem evolves_of_same (h : s'.channels = s.channels) : Evolves s s' :=
  ⟨by rw [h], fun _ c hc => ⟨c, h ▸ hc, .inl rfl⟩⟩

theorem evolves_set {e : EndpointEvent} (hc : s.channels[k]? = some c)
    (h : s'.channels = s.channels.set k (c.step e)) : Evolves s s' := by
  refine ⟨by rw [h, List.length_set], fun j d hd => ?_⟩
  rw [h, getElem?_set_channels hc] at hd
  split at hd
  · rename_i hj
    cases hd
    exact ⟨c, hj ▸ hc, .inr ⟨e, rfl⟩⟩
  · exact ⟨d, hd, .inl rfl⟩

theorem evolves_finish (hs : Numbered s) (err : SshError) : Evolves s (s.finish err) := by
  obtain ⟨channels, hclose, hget⟩ := hs.closeAll
  have hchannels : (s.finish err).channels = channels := by rw [Mux.finish, hclose]
  constructor
  · rw [hchannels]
    refine Nat.le_antisymm ?_ ?_
    · rw [← List.getElem?_eq_none_iff, hget, List.getElem?_eq_none (le_refl _), Option.map_none]
    · have hnone : channels[channels.length]? = none := List.getElem?_eq_none (le_refl _)
      rw [hget, Option.map_eq_none_iff] at hnone
      exact List.getElem?_eq_none_iff.mp hnone
  · intro j d hd
    rw [hchannels, hget] at hd
    obtain ⟨c, hc, heq⟩ := Option.map_eq_some_iff.mp hd
    split at heq
    · exact ⟨c, hc, .inr ⟨_, heq.symm⟩⟩
    · exact ⟨c, hc, .inl heq.symm⟩

theorem Orderly.evolves (hs : Orderly s) (h : Evolves s s')
    (hqueued : ∀ k, Awaits s' k → Awaits s k)
    (hawaited : ∀ (k : Nat) (c : Endpoint), s'.channels[k]? = some c →
      c.chan.decided = false → Awaits s k → Awaits s' k)
    (hpending : ∀ p write, s'.loop = .sending p write → Pending s' p.bytes) : Orderly s' := by
  refine ⟨fun k hk => ?_, fun k c' hc' hdecided => ?_, fun k c' hc' => ?_, hpending⟩
  · rw [h.length]
    exact hs.queued k (hqueued k hk)
  · obtain ⟨c, hc, hstep⟩ := h.channels k c' hc'
    refine hawaited k c' hc' hdecided (hs.awaited k c hc ?_)
    rcases hstep with rfl | ⟨e, rfl⟩
    · exact hdecided
    · cases hold : c.chan.decided with
      | false => rfl
      | true =>
          rw [decided_step hold] at hdecided
          cases hdecided
  · obtain ⟨c, hc, hstep⟩ := h.channels k c' hc'
    rcases hstep with rfl | ⟨e, rfl⟩
    · exact hs.fresh k _ hc
    · exact fresh_step (hs.fresh k c hc)

theorem awaits_congr (hincoming : s'.incomingChannels = s.incomingChannels)
    (haccepting : s'.accepting = s.accepting) (hloop : ∀ k, s.loop ≠ .offering k)
    (hloop' : ∀ k, s'.loop ≠ .offering k) : Awaits s' k ↔ Awaits s k := by
  simp [Awaits, hincoming, haccepting, hloop k, hloop' k]

theorem Orderly.evolves_same (hs : Orderly s) (h : Evolves s s')
    (hincoming : s'.incomingChannels = s.incomingChannels)
    (haccepting : s'.accepting = s.accepting) (hloop : ∀ k, s.loop ≠ .offering k)
    (hloop' : ∀ k, s'.loop ≠ .offering k)
    (hpending : ∀ p write, s'.loop = .sending p write → Pending s' p.bytes) : Orderly s' :=
  hs.evolves h (fun _ => (awaits_congr hincoming haccepting hloop hloop').mp)
    (fun _ _ _ _ => (awaits_congr hincoming haccepting hloop hloop').mpr) hpending

theorem orderly_finish (hs : Orderly s) (hn : Numbered s) (hloop : ∀ k, s.loop ≠ .offering k)
    (err : SshError) : Orderly (s.finish err) := by
  obtain ⟨channels, hclose, -⟩ := hn.closeAll
  have hfinish : s.finish err =
      { s with channels := channels, chans := [], loop := .ended err } := by
    rw [Mux.finish, hclose]
  refine hs.evolves_same (evolves_finish hn err) ?_ ?_ hloop ?_ ?_
  · rw [hfinish]
  · rw [hfinish]
  · simp [hfinish]
  · simp [hfinish]

/-- The queue for new channels has room for another one, or the main loop waits. -/
theorem awaits_offer (hloop : ∀ j, s.loop ≠ .offering j) (j : Nat) :
    Awaits (s.offer k) j ↔ Awaits s j ∨ j = k := by
  unfold Mux.offer
  split
  · simp only [Awaits, hloop j, List.mem_append, List.mem_singleton, or_false, reduceCtorEq]
    tauto
  · simp only [Awaits, hloop j, or_false, MuxLoop.offering.injEq]
    tauto

theorem orderly_opened (hs : Orderly s) (hloop : ∀ k, s.loop ≠ .offering k)
    (msg : ChannelOpen) (localId : UInt32) (chans : ChanList) :
    Orderly (Mux.offer
      { s with channels := s.channels ++ [.opened (.opened msg localId)], chans := chans }
      s.channels.length) := by
  obtain ⟨hchannels, -⟩ := offer_same
    { s with channels := s.channels ++ [.opened (.opened msg localId)], chans := chans }
    s.channels.length
  have hawaits : ∀ j, Awaits (Mux.offer
      { s with channels := s.channels ++ [.opened (.opened msg localId)], chans := chans }
      s.channels.length) j ↔ Awaits s j ∨ j = s.channels.length :=
    awaits_offer hloop
  refine ⟨fun j hj => ?_, fun j c hc hdecided => ?_, fun j c hc => ?_, fun p write h => ?_⟩
  · rw [hchannels, List.length_append, List.length_singleton]
    rcases (hawaits j).mp hj with hold | rfl
    · have hlt := hs.queued j hold
      omega
    · omega
  · rw [hchannels, getElem?_append_channels] at hc
    split at hc
    · exact (hawaits j).mpr (.inr ‹_›)
    · exact (hawaits j).mpr (.inl (hs.awaited j c hc hdecided))
  · rw [hchannels, getElem?_append_channels] at hc
    split at hc
    · cases hc
      exact fun _ => ⟨rfl, rfl, rfl, rfl⟩
    · exact hs.fresh j c hc
  · unfold Mux.offer at h
    split at h <;> cases h

theorem orderly_handles (hs : Orderly s) (hn : Numbered s) (hloop : ∀ k, s.loop ≠ .offering k)
    (h : Handles s p write s') : Orderly s' := by
  cases h with
  | ignored => exact hs.evolves_same (evolves_of_same rfl) rfl rfl hloop nofun nofun
  | stopped err => exact orderly_finish hs hn hloop err
  | panicked e => exact hs.evolves_same (evolves_of_same rfl) rfl rfl hloop nofun nofun
  | refused packet => exact hs.evolves_same (evolves_of_same rfl) rfl rfl hloop nofun nofun
  | opened msg hmin hmax => exact orderly_opened hs hloop msg _ _
  | requested r => exact hs.evolves_same (evolves_of_same rfl) rfl rfl hloop nofun nofun
  | responded => exact hs.evolves_same (evolves_of_same rfl) rfl rfl hloop nofun nofun
  | waits hpending =>
      have hpauses : Pauses s { s with loop := .sending p write } := .of_same rfl rfl rfl
      refine hs.evolves_same (evolves_of_same rfl) rfl rfl hloop nofun fun p write h => ?_
      cases h
      exact hpauses.pending hpending
  | kept k c chan hc hnumber hkept =>
      exact hs.evolves_same (evolves_set hc rfl) rfl rfl hloop nofun nofun
  | removed k c chan hc hnumber hremoved =>
      exact hs.evolves_same (evolves_set hc rfl) rfl rfl hloop nofun nofun
  | missing => exact hs

theorem awaits_of_loop (hincoming : s'.incomingChannels = s.incomingChannels)
    (haccepting : s'.accepting = s.accepting) (hloop : s'.loop = s.loop) :
    Awaits s' k ↔ Awaits s k := by
  simp [Awaits, hincoming, haccepting, hloop]

/-- The main loop has put the channel into the queue after all. -/
theorem orderly_offer (hs : Orderly s) (hloop : s.loop = .offering k) :
    Orderly (s.offer k) := by
  obtain ⟨hchannels, -⟩ := offer_same s k
  have hawaits : ∀ j, Awaits (s.offer k) j ↔ Awaits s j := by
    intro j
    unfold Mux.offer
    split
    · simp only [Awaits, hloop, List.mem_append, List.mem_singleton, or_false, reduceCtorEq,
        MuxLoop.offering.injEq]
      tauto
    · exact awaits_of_loop rfl rfl hloop.symm
  refine hs.evolves (evolves_of_same hchannels) (fun j => (hawaits j).mp)
    (fun j _ _ _ => (hawaits j).mpr) fun p write h => ?_
  unfold Mux.offer at h
  split at h <;> cases h

theorem orderly_decide (hs : Orderly s)
    (hpending : ∀ p write', (s.decide write).loop = .sending p write' →
      Pending (s.decide write) p.bytes) : Orderly (s.decide write) := by
  revert hpending
  unfold Mux.decide
  split
  · exact fun _ => hs
  rename_i k haccepting
  split
  · exact fun _ => hs
  rename_i c hc
  intro hpending
  refine hs.evolves (evolves_set hc rfl) (fun j hj => ?_) (fun j c' hc' hdecided hj => ?_)
    hpending
  · rcases hj with hin | hacc | hoff
    · exact .inl hin
    · cases hacc
    · exact .inr (.inr hoff)
  · rcases hj with hin | hacc | hoff
    · exact .inl hin
    · -- the channel has been decided by this step
      rw [haccepting] at hacc
      cases hacc
      have hget : (s.channels.set k _)[k]? = some c' := hc'
      rw [getElem?_set_channels hc, if_pos rfl] at hget
      cases hget
      split at hdecided
      · rw [show (c.step (.reject _ _ _)).chan.decided = true from decided_reject _ _ _ _]
          at hdecided
        cases hdecided
      · rw [decided_step_accept] at hdecided
        cases hdecided
    · exact .inr (.inr hoff)

theorem orderly_step (hs : Orderly s) (hn : Numbered s) (e : MuxEvent) :
    Orderly (s.step e) := by
  by_cases hrunning : s.running = false
  · unfold Mux.step
    rw [if_pos hrunning]
    exact hs
  have hpending : e.ofLoop = false → ∀ p write,
      (s.step e).loop = .sending p write → Pending (s.step e) p.bytes := by
    intro he p write h
    rw [loop_step he] at h
    exact (pauses_step he).pending (hs.pending p write h)
  cases e with
  | packet p write =>
      rw [Mux.step, if_neg hrunning]
      split
      · rename_i hloop
        exact orderly_handles hs hn (by simp [hloop]) handles_onePacket
      · exact hs
  | resume =>
      rw [Mux.step, if_neg hrunning, Mux.resume]
      split
      · rename_i p write hloop
        exact orderly_handles hs hn (by simp [hloop]) handles_onePacket
      · exact orderly_offer hs ‹_›
      · exact hs
  | readFails err =>
      rw [Mux.step, if_neg hrunning]
      split
      · rename_i hloop
        exact orderly_finish hs hn (by simp [hloop]) err
      · exact hs
  | takeChannel =>
      have hpending := hpending rfl
      rw [Mux.step, if_neg hrunning, Mux.takeChannel] at hpending ⊢
      split
      · rename_i k rest haccepting hincoming
        simp only [haccepting, hincoming] at hpending
        have hawaits : ∀ j,
            Awaits { s with accepting := some k, incomingChannels := rest } j ↔
              Awaits s j := by
          intro j
          simp only [Awaits, haccepting, hincoming, List.mem_cons, Option.some.injEq,
            reduceCtorEq, false_or]
          tauto
        exact hs.evolves (evolves_of_same rfl) (fun j => (hawaits j).mp)
          (fun j _ _ _ => (hawaits j).mpr) hpending
      · exact hs
  | decide write =>
      have hpending := hpending rfl
      rw [Mux.step, if_neg hrunning] at hpending ⊢
      exact orderly_decide hs hpending
  | takeGlobal =>
      have hpending := hpending rfl
      rw [Mux.step, if_neg hrunning] at hpending ⊢
      have hawaits : ∀ j,
          Awaits { s with incomingRequests := s.incomingRequests.drop 1 } j ↔ Awaits s j :=
        fun j => awaits_of_loop rfl rfl rfl
      exact hs.evolves (evolves_of_same rfl) (fun j => (hawaits j).mp)
        (fun j _ _ _ => (hawaits j).mpr) hpending
  | session k e =>
      have hpending := hpending rfl
      rw [Mux.step, if_neg hrunning, Mux.session] at hpending ⊢
      split
      · exact hs
      rename_i c hc
      split
      · rename_i hserving
        simp only [hc, if_pos hserving] at hpending
        have hawaits : ∀ j, Awaits (s.setChannel k (c.step e)) j ↔ Awaits s j :=
          fun j => awaits_of_loop rfl rfl rfl
        exact hs.evolves (evolves_set hc rfl) (fun j => (hawaits j).mp)
          (fun j _ _ _ => (hawaits j).mpr) hpending
      · exact hs

theorem orderly_start : Orderly .start :=
  ⟨by simp [Awaits, Mux.start], by simp [Mux.start], by simp [Mux.start], by simp [Mux.start]⟩

theorem orderly_run (events : List MuxEvent) : Orderly (run Mux.step .start events) := by
  have hboth : Numbered (run Mux.step .start events) ∧ Orderly (run Mux.step .start events) :=
    run_invariant (I := fun s => Numbered s ∧ Orderly s)
      (fun s e h => ⟨numbered_of_changes h.1 (changes_step s e), orderly_step h.2 h.1 e⟩)
      ⟨numbered_start, orderly_start⟩ events
  exact hboth.2

end Orderly

end DockerBastion.Ssh

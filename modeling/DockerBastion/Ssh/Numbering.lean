import DockerBastion.Ssh.Mux

/-!
# The channels of a connection

Every channel is a session on its own, whatever the other channels do.  The list finds
the open channels by their numbers, and no two of them have the same.
-/

namespace DockerBastion.Ssh

open Foundation Sshd

/-! ## What a step does to the channels -/

def ForChannel (chans : ChanList) (k : Nat) : EndpointEvent → Prop
  | .packet p _ => NumberOf chans k p.bytes
  | _ => True

inductive Changes (s s' : Mux) : Prop
  | nothing : s'.channels = s.channels → s'.chans = s.chans → Changes s s'
  | steps (k : Nat) (c : Endpoint) (e : EndpointEvent) : s.channels[k]? = some c →
      ForChannel s.chans k e → (c.step e).isOver = c.isOver →
      s'.channels = s.channels.set k (c.step e) → s'.chans = s.chans → Changes s s'
  | removes (k : Nat) (c : Endpoint) (p : Packet) (write : Option SshError) :
      s.channels[k]? = some c → NumberOf s.chans k p.bytes →
      (c.step (.packet p write)).isOver = true →
      s'.channels = s.channels.set k (c.step (.packet p write)) →
      s'.chans = s.chans.remove c.chan.localId → Changes s s'
  | opens (msg : ChannelOpen) : minPacketLength ≤ msg.maxPacketSize →
      msg.maxPacketSize ≤ 2147483648 →
      s'.channels =
        s.channels ++ [.opened (.opened msg (UInt32.ofNat s.chans.freePlace))] →
      s'.chans = s.chans.add s.channels.length → Changes s s'
  | ends : Mux.closeAll (s.chans.filterMap id) s.channels = some s'.channels →
      s'.chans = [] → Changes s s'

section Changes

variable {s s' : Mux}

theorem changes_finish (s : Mux) (err : SshError) : Changes s (s.finish err) := by
  unfold Mux.finish
  split
  · exact .nothing rfl rfl
  · exact .ends ‹_› rfl

theorem offer_same (s : Mux) (k : Nat) :
    (s.offer k).channels = s.channels ∧ (s.offer k).chans = s.chans := by
  unfold Mux.offer
  split <;> exact ⟨rfl, rfl⟩

theorem over_of_kept {c : Endpoint} {p : Packet} {write : Option SshError} {chan : Channel}
    (h : c.chan.handlePacket p.bytes write = .kept chan) :
    (c.step (.packet p write)).isOver = c.isOver := by
  simp only [Endpoint.step, Endpoint.packet, h]
  split <;> rfl

theorem over_of_removed {c : Endpoint} {p : Packet} {write : Option SshError} {chan : Channel}
    (h : c.chan.handlePacket p.bytes write = .removed chan) :
    (c.step (.packet p write)).isOver = true := by
  simp only [Endpoint.step, Endpoint.packet, h]
  split
  · assumption
  · rfl

theorem changes_of_handles {p : Packet} {write : Option SshError}
    (h : Handles s p write s') : Changes s s' := by
  cases h with
  | ignored => exact .nothing rfl rfl
  | stopped err => exact changes_finish s err
  | panicked e => exact .nothing rfl rfl
  | refused packet => exact .nothing rfl rfl
  | opened msg hmin hmax =>
      obtain ⟨hchannels, hchans⟩ := offer_same
        { s with
          channels :=
            s.channels ++ [.opened (.opened msg (UInt32.ofNat s.chans.freePlace))]
          chans := s.chans.add s.channels.length } s.channels.length
      exact .opens msg hmin hmax hchannels hchans
  | requested r => exact .nothing rfl rfl
  | responded => exact .nothing rfl rfl
  | waits hpending => exact .nothing rfl rfl
  | kept k c chan hc hnumber hkept =>
      exact .steps k c (.packet p write) hc hnumber (over_of_kept hkept) rfl rfl
  | removed k c chan hc hnumber hremoved =>
      exact .removes k c p write hc hnumber (over_of_removed hremoved) rfl rfl
  | missing => exact .nothing rfl rfl

/-- Only the main loop says that no more packets come. -/
theorem over_step {c : Endpoint} {e : EndpointEvent}
    (he : ∀ p write, e ≠ .packet p write) (hends : e ≠ .loopEnds) :
    (c.step e).isOver = c.isOver := by
  cases e with
  | packet p write => exact absurd rfl (he p write)
  | loopEnds => exact absurd rfl hends
  | accept write =>
      simp only [Endpoint.step, Endpoint.accept]
      split <;> rfl
  | reject reason message write => rfl
  | write data =>
      simp only [Endpoint.step, Endpoint.write]
      repeat' split
      all_goals rfl
  | reserve =>
      simp only [Endpoint.step, Endpoint.reserve]
      repeat' split
      all_goals rfl
  | transmit write =>
      simp only [Endpoint.step, Endpoint.transmit]
      repeat' split
      all_goals rfl
  | read n =>
      simp only [Endpoint.step, Endpoint.read]
      repeat' split
      all_goals rfl
  | adjust =>
      simp only [Endpoint.step, Endpoint.adjust]
      split <;> rfl
  | announce write =>
      simp only [Endpoint.step, Endpoint.announce]
      repeat' split
      all_goals rfl
  | takeRequest =>
      simp only [Endpoint.step, Endpoint.takeRequest]
      split <;> rfl
  | reply ok write => rfl
  | closeWrite write => rfl
  | close write => rfl

theorem changes_step (s : Mux) (e : MuxEvent) : Changes s (s.step e) := by
  unfold Mux.step
  split
  · exact .nothing rfl rfl
  cases e with
  | packet p write =>
      simp only
      split
      · exact changes_of_handles handles_onePacket
      · exact .nothing rfl rfl
  | resume =>
      simp only [Mux.resume]
      split
      · exact changes_of_handles handles_onePacket
      · obtain ⟨hchannels, hchans⟩ := offer_same s ‹_›
        exact .nothing hchannels hchans
      · exact .nothing rfl rfl
  | readFails err =>
      simp only
      split
      · exact changes_finish s err
      · exact .nothing rfl rfl
  | takeChannel =>
      simp only [Mux.takeChannel]
      split <;> exact .nothing rfl rfl
  | decide write =>
      simp only [Mux.decide]
      split
      · exact .nothing rfl rfl
      split
      · exact .nothing rfl rfl
      · rename_i c hc
        split
        · exact .steps _ c (.reject unknownChannelType (ascii "unknown channel type") write) hc
            trivial rfl rfl rfl
        · exact .steps _ c (.accept write) hc trivial (over_step nofun nofun) rfl rfl
  | takeGlobal => exact .nothing rfl rfl
  | session k e =>
      simp only [Mux.session]
      split
      · exact .nothing rfl rfl
      split
      · rename_i c hc hserving
        obtain ⟨hsession, -⟩ := hserving
        refine .steps k c e hc ?_ (over_step ?_ ?_) rfl rfl
        · cases e with
          | packet p write => cases hsession
          | _ => trivial
        · rintro p write rfl
          cases hsession
        · rintro rfl
          cases hsession
      · exact .nothing rfl rfl

end Changes

/-! ## The channels of a connection -/

/-- Its packets carry its number, and the client has asked for packets of a sane size. -/
def IsSession (c : Endpoint) : Prop :=
  ∃ msg events, c = session msg c.chan.localId events ∧
    minPacketLength ≤ msg.maxPacketSize ∧ msg.maxPacketSize ≤ 2147483648 ∧
    ∀ p write, .packet p write ∈ events →
      5 ≤ p.bytes.length ∧ uint32At p.bytes 1 = c.chan.localId

/-- The open channels are those on the list, each at the place of its number. -/
structure Numbered (s : Mux) : Prop where
  sessions : ∀ (k : Nat) (c : Endpoint), s.channels[k]? = some c → IsSession c
  listed : ∀ i k : Nat, s.chans[i]? = some (some k) →
    ∃ c, s.channels[k]? = some c ∧ c.chan.localId = UInt32.ofNat i ∧ c.isOver = false
  distinct : ∀ i j k : Nat, s.chans[i]? = some (some k) → s.chans[j]? = some (some k) → i = j
  open_listed : ∀ (k : Nat) (c : Endpoint), s.channels[k]? = some c → c.isOver = false →
    ∃ i : Nat, s.chans[i]? = some (some k)

section Numbered

variable {s s' : Mux} {k : Nat} {c : Endpoint}

theorem IsSession.queuesClosed (h : IsSession c) : c.chan.queuesClosed = c.isOver := by
  obtain ⟨msg, events, hc, -⟩ := h
  rw [hc]
  exact (kept_session msg _ events).isOver.symm

theorem localId_step (c : Endpoint) (e : EndpointEvent) :
    (c.step e).chan.localId = c.chan.localId := by
  have hmoves : Moves c (c.step e) := moves_step e
  exact hmoves.localId

theorem isSession_opened (msg : ChannelOpen) (localId : UInt32)
    (hmin : minPacketLength ≤ msg.maxPacketSize) (hmax : msg.maxPacketSize ≤ 2147483648) :
    IsSession (.opened (.opened msg localId)) :=
  ⟨msg, [], rfl, hmin, hmax, by simp⟩

theorem isSession_step {e : EndpointEvent} (h : IsSession c)
    (he : ∀ p write, e = .packet p write →
      5 ≤ p.bytes.length ∧ uint32At p.bytes 1 = c.chan.localId) : IsSession (c.step e) := by
  obtain ⟨msg, events, hc, hmin, hmax, hevents⟩ := h
  refine ⟨msg, events ++ [e], ?_, hmin, hmax, fun p write hmem => ?_⟩
  · rw [localId_step, session, run_append]
    exact congrArg (Endpoint.step · e) hc
  · rw [localId_step]
    rcases List.mem_append.mp hmem with hold | hnew
    · exact hevents p write hold
    · exact he p write (List.mem_singleton.mp hnew).symm

/-- A packet that stands for a channel carries the number of that channel. -/
theorem Numbered.number (hs : Numbered s) {packet : Bytes} (h : NumberOf s.chans k packet)
    (hc : s.channels[k]? = some c) :
    5 ≤ packet.length ∧ uint32At packet 1 = c.chan.localId := by
  obtain ⟨hlength, hget⟩ := h
  obtain ⟨-, hlisted⟩ := ChanList.getChan_eq_some hget
  obtain ⟨c', hc', hid, -⟩ := hs.listed _ k hlisted
  rw [hc] at hc'
  cases hc'
  exact ⟨hlength, by rw [hid, UInt32.ofNat_toNat]⟩

theorem Numbered.isSession_step (hs : Numbered s) {e : EndpointEvent}
    (hc : s.channels[k]? = some c) (he : ForChannel s.chans k e) : IsSession (c.step e) := by
  refine Ssh.isSession_step (hs.sessions k c hc) ?_
  rintro p write rfl
  exact hs.number he hc

theorem getElem?_set_channels {channels : List Endpoint} (hc : channels[k]? = some c)
    (c' : Endpoint) (j : Nat) :
    (channels.set k c')[j]? = if j = k then some c' else channels[j]? := by
  have hlt : k < channels.length := (List.getElem?_eq_some_iff.mp hc).1
  rw [List.getElem?_set]
  by_cases hj : k = j
  · subst hj
    simp [hlt]
  · simp [hj, Ne.symm hj]

theorem getElem?_append_channels (channels : List Endpoint) (c : Endpoint) (j : Nat) :
    (channels ++ [c])[j]? = if j = channels.length then some c else channels[j]? := by
  rcases Nat.lt_trichotomy j channels.length with hlt | rfl | hgt
  · rw [List.getElem?_append_left hlt, if_neg (by omega)]
  · simp
  · rw [List.getElem?_append_right (by omega), if_neg (by omega),
      List.getElem?_eq_none (by omega : channels.length ≤ j)]
    exact List.getElem?_eq_none (by simp; omega)

theorem numbered_steps {e : EndpointEvent} (hs : Numbered s) (hc : s.channels[k]? = some c)
    (he : ForChannel s.chans k e) (hover : (c.step e).isOver = c.isOver)
    (hchannels : s'.channels = s.channels.set k (c.step e)) (hchans : s'.chans = s.chans) :
    Numbered s' := by
  have hget : ∀ j : Nat, s'.channels[j]? = if j = k then some (c.step e) else s.channels[j]? := by
    intro j
    rw [hchannels, getElem?_set_channels hc]
  refine ⟨fun j c' hc' => ?_, fun i j hlist => ?_, ?_, fun j c' hc' hopen => ?_⟩
  · rw [hget] at hc'
    split at hc'
    · cases hc'
      exact hs.isSession_step hc he
    · exact hs.sessions j c' hc'
  · rw [hchans] at hlist
    obtain ⟨c', hc', hid, hopen⟩ := hs.listed i j hlist
    rw [hget]
    split
    · rename_i hj
      rw [hj, hc] at hc'
      cases hc'
      exact ⟨_, rfl, by rw [localId_step, hid], hover.trans hopen⟩
    · exact ⟨c', hc', hid, hopen⟩
  · rw [hchans]
    exact hs.distinct
  · rw [hchans]
    rw [hget] at hc'
    split at hc'
    · rename_i hj
      cases hc'
      rw [hj]
      exact hs.open_listed k c hc (hover ▸ hopen)
    · exact hs.open_listed j c' hc' hopen

theorem numbered_removes {p : Packet} {write : Option SshError} (hs : Numbered s)
    (hc : s.channels[k]? = some c) (hnumber : NumberOf s.chans k p.bytes)
    (hover : (c.step (.packet p write)).isOver = true)
    (hchannels : s'.channels = s.channels.set k (c.step (.packet p write)))
    (hchans : s'.chans = s.chans.remove c.chan.localId) : Numbered s' := by
  have hget : ∀ j : Nat, s'.channels[j]? =
      if j = k then some (c.step (.packet p write)) else s.channels[j]? := by
    intro j
    rw [hchannels, getElem?_set_channels hc]
  obtain ⟨hid, hplace⟩ := ChanList.getChan_eq_some hnumber.2
  rw [(hs.number hnumber hc).2] at hid hplace
  -- the other places keep their channels, and none of them is channel `k`
  have hlist : ∀ i j : Nat, s'.chans[i]? = some (some j) ↔
      s.chans[i]? = some (some j) ∧ j ≠ k := by
    intro i j
    rw [hchans, ChanList.getElem?_remove _ _ hid]
    split
    · rename_i hi
      refine iff_of_false (by simp) ?_
      rintro ⟨hj, hne⟩
      rw [hi.1, hplace] at hj
      cases hj
      exact hne rfl
    · rename_i hi
      refine ⟨fun hj => ⟨hj, ?_⟩, And.left⟩
      rintro rfl
      have hsame := hs.distinct i _ j hj hplace
      exact hi ⟨hsame, (List.getElem?_eq_some_iff.mp hj).1⟩
  refine ⟨fun j c' hc' => ?_, fun i j hj => ?_, fun i i' j hi hi' => ?_,
    fun j c' hc' hopen => ?_⟩
  · rw [hget] at hc'
    split at hc'
    · cases hc'
      exact hs.isSession_step hc hnumber
    · exact hs.sessions j c' hc'
  · obtain ⟨hj, hne⟩ := (hlist i j).mp hj
    rw [hget, if_neg hne]
    exact hs.listed i j hj
  · exact hs.distinct i i' j ((hlist i j).mp hi).1 ((hlist i' j).mp hi').1
  · rw [hget] at hc'
    split at hc'
    · cases hc'
      rw [hover] at hopen
      cases hopen
    · rename_i hne
      obtain ⟨i, hi⟩ := hs.open_listed j c' hc' hopen
      exact ⟨i, (hlist i j).mpr ⟨hi, hne⟩⟩

theorem numbered_opens (hs : Numbered s) (msg : ChannelOpen)
    (hmin : minPacketLength ≤ msg.maxPacketSize) (hmax : msg.maxPacketSize ≤ 2147483648)
    (hchannels : s'.channels =
      s.channels ++ [.opened (.opened msg (UInt32.ofNat s.chans.freePlace))])
    (hchans : s'.chans = s.chans.add s.channels.length) : Numbered s' := by
  have hget : ∀ j : Nat, s'.channels[j]? =
      if j = s.channels.length then
        some (.opened (.opened msg (UInt32.ofNat s.chans.freePlace)))
      else s.channels[j]? := by
    intro j
    rw [hchannels, getElem?_append_channels]
  have hlist : ∀ i : Nat, s'.chans[i]? =
      if i = s.chans.freePlace then some (some s.channels.length) else s.chans[i]? := by
    intro i
    rw [hchans, ChanList.getElem?_add]
  have hold : ∀ i j : Nat, s.chans[i]? = some (some j) →
      i ≠ s.chans.freePlace ∧ j < s.channels.length := by
    intro i j hj
    obtain ⟨c, hc, -⟩ := hs.listed i j hj
    refine ⟨?_, (List.getElem?_eq_some_iff.mp hc).1⟩
    rintro rfl
    rcases ChanList.freePlace_cases s.chans with ⟨hfree, -⟩ | hend
    · rw [hfree] at hj
      cases hj
    · have hlt := (List.getElem?_eq_some_iff.mp hj).1
      omega
  refine ⟨fun j c hc => ?_, fun i j hj => ?_, fun i i' j hi hi' => ?_,
    fun j c hc hopen => ?_⟩
  · rw [hget] at hc
    split at hc
    · cases hc
      exact isSession_opened msg _ hmin hmax
    · exact hs.sessions j c hc
  · rw [hlist] at hj
    split at hj
    · rename_i hi
      cases hj
      rw [hget, if_pos rfl, hi]
      exact ⟨_, rfl, rfl, rfl⟩
    · obtain ⟨-, hlt⟩ := hold i j hj
      rw [hget, if_neg (by omega)]
      exact hs.listed i j hj
  · rw [hlist] at hi hi'
    split at hi
    · rename_i hfree
      cases hi
      split at hi'
      · rename_i hfree'
        rw [hfree, hfree']
      · obtain ⟨-, hlt⟩ := hold i' _ hi'
        omega
    · split at hi'
      · cases hi'
        obtain ⟨-, hlt⟩ := hold i _ hi
        omega
      · exact hs.distinct i i' j hi hi'
  · rw [hget] at hc
    split at hc
    · rename_i hj
      exact ⟨s.chans.freePlace, by rw [hlist, if_pos rfl, hj]⟩
    · obtain ⟨i, hi⟩ := hs.open_listed j c hc hopen
      exact ⟨i, by rw [hlist, if_neg (hold i j hi).1, hi]⟩

theorem Numbered.closeAll (hs : Numbered s) :
    ∃ channels, Mux.closeAll (s.chans.filterMap id) s.channels = some channels ∧
      ∀ j : Nat, channels[j]? = s.channels[j]?.map fun c =>
        if j ∈ s.chans.filterMap id then c.step .loopEnds else c := by
  refine closeAll_spec (nodup_filterMap_id hs.distinct) fun k hk c hc => ?_
  obtain ⟨i, hi⟩ := mem_filterMap_id.mp hk
  obtain ⟨c', hc', -, hopen⟩ := hs.listed i k hi
  rw [hc] at hc'
  cases hc'
  rw [(hs.sessions k c hc).queuesClosed, hopen]

theorem numbered_ends (hs : Numbered s)
    (hclose : Mux.closeAll (s.chans.filterMap id) s.channels = some s'.channels)
    (hchans : s'.chans = []) : Numbered s' := by
  obtain ⟨channels, hall, hget⟩ := hs.closeAll
  rw [hclose] at hall
  cases hall
  refine ⟨fun j c hc => ?_, fun i j hj => ?_, fun i i' j hi => ?_, fun j c hc hopen => ?_⟩
  · rw [hget] at hc
    obtain ⟨c', hc', heq⟩ := Option.map_eq_some_iff.mp hc
    split at heq
    · subst heq
      exact hs.isSession_step hc' trivial
    · exact heq ▸ hs.sessions j c' hc'
  · rw [hchans] at hj
    cases hj
  · rw [hchans] at hi
    cases hi
  · rw [hget] at hc
    obtain ⟨c', hc', heq⟩ := Option.map_eq_some_iff.mp hc
    have hover : ∀ c : Endpoint, (c.step .loopEnds).isOver = true := by
      intro c
      simp only [Endpoint.step]
      split
      · assumption
      · rfl
    split at heq
    · rw [← heq, hover] at hopen
      cases hopen
    · rename_i hnot
      subst heq
      obtain ⟨i, hi⟩ := hs.open_listed j c' hc' hopen
      exact absurd (mem_filterMap_id.mpr ⟨i, hi⟩) hnot

theorem numbered_of_changes (hs : Numbered s) (h : Changes s s') : Numbered s' := by
  cases h with
  | nothing hchannels hchans =>
      refine ⟨?_, ?_, ?_, ?_⟩
      · rw [hchannels]
        exact hs.sessions
      · rw [hchannels, hchans]
        exact hs.listed
      · rw [hchans]
        exact hs.distinct
      · rw [hchannels, hchans]
        exact hs.open_listed
  | steps k c e hc he hover hchannels hchans =>
      exact numbered_steps hs hc he hover hchannels hchans
  | removes k c p write hc hnumber hover hchannels hchans =>
      exact numbered_removes hs hc hnumber hover hchannels hchans
  | opens msg hmin hmax hchannels hchans =>
      exact numbered_opens hs msg hmin hmax hchannels hchans
  | ends hclose hchans => exact numbered_ends hs hclose hchans

theorem numbered_start : Numbered .start :=
  ⟨by simp [Mux.start], by simp [Mux.start], by simp [Mux.start], by simp [Mux.start]⟩

theorem numbered_run (events : List MuxEvent) : Numbered (run Mux.step .start events) :=
  run_invariant (fun s e hs => numbered_of_changes hs (changes_step s e)) numbered_start events

theorem Numbered.getChan_iff (hs : Numbered s) (hlength : s.chans.length < 2 ^ 32)
    {id : UInt32} :
    s.chans.getChan id = some k ↔
      ∃ c, s.channels[k]? = some c ∧ c.isOver = false ∧ c.chan.localId = id := by
  constructor
  · intro hget
    obtain ⟨-, hlisted⟩ := ChanList.getChan_eq_some hget
    obtain ⟨c, hc, hid, hopen⟩ := hs.listed _ k hlisted
    exact ⟨c, hc, hopen, by rw [hid, UInt32.ofNat_toNat]⟩
  · rintro ⟨c, hc, hopen, rfl⟩
    obtain ⟨i, hi⟩ := hs.open_listed k c hc hopen
    obtain ⟨c', hc', hid, -⟩ := hs.listed i k hi
    rw [hc] at hc'
    cases hc'
    have hlt : i < s.chans.length := (List.getElem?_eq_some_iff.mp hi).1
    have hplace : c.chan.localId.toNat = i := by
      rw [hid, UInt32.toNat_ofNat', Nat.mod_eq_of_lt (by omega)]
    have hfits : c.chan.localId < UInt32.ofNat s.chans.length := by
      rw [UInt32.lt_iff_toNat_lt, hplace, UInt32.toNat_ofNat', Nat.mod_eq_of_lt hlength]
      exact hlt
    rw [ChanList.getChan, if_pos hfits, hplace, hi]
    rfl

end Numbered

/--
Whatever packets come and however the goroutines take turns, each channel of a
connection is a session on its own: it takes the packets that carry its number, the
client has asked for packets of a sane size, and all that is shown of sessions holds
of it.
-/
theorem channels_are_sessions (events : List MuxEvent) :
    ∀ c ∈ (run Mux.step .start events).channels,
      ∃ msg evs, c = session msg c.chan.localId evs ∧
        minPacketLength ≤ msg.maxPacketSize ∧ msg.maxPacketSize ≤ 2147483648 ∧
        ∀ p write, .packet p write ∈ evs →
          5 ≤ p.bytes.length ∧ uint32At p.bytes 1 = c.chan.localId := by
  intro c hc
  obtain ⟨k, hk⟩ := List.mem_iff_getElem?.mp hc
  exact (numbered_run events).sessions k c hk

def openShell : Packet :=
  ⟨marshal channelOpenMsg (ascii "session", 0, 64, 32768, [], ()), by decide, by decide⟩

def openSecond : Packet :=
  ⟨marshal channelOpenMsg (ascii "session", 5, 64, 32768, [], ()), by decide, by decide⟩

def shellRequest : Packet :=
  ⟨marshal channelRequestMsg (1, ascii "shell", true, [], ()), by decide, by decide⟩

def hello : Packet :=
  ⟨msgChannelData :: (appendU32 1 ++ appendString (ascii "hi")), by decide, by decide⟩

/-- The client sends on both of its channels, and both sessions write. -/
def twoSessions : List MuxEvent :=
  [.packet openShell none, .packet openSecond none, .takeChannel, .decide none, .takeChannel,
   .decide none, .packet oneByte none, .session 1 (.write (ascii "ok")),
   .packet shellRequest none, .session 0 (.write (ascii "bye")), .packet hello none,
   .session 1 .reserve, .session 0 .reserve, .session 1 .takeRequest,
   .session 1 (.transmit none), .session 1 (.reply true none), .session 1 (.read 8)]

theorem twoSessions_are_sessions :
    ∃ first second, (run Mux.step .start twoSessions).channels = [first, second] ∧
      first.handled = [oneByte.bytes] ∧ first.writer = .holding (ascii "bye") [] ∧
      second.handled = [shellRequest.bytes, hello.bytes] ∧ second.delivered = ascii "hi" ∧
      second.chan.sent.length = 3 ∧
      ∃ msg evs, second = session msg second.chan.localId evs ∧
        minPacketLength ≤ msg.maxPacketSize ∧ msg.maxPacketSize ≤ 2147483648 ∧
        ∀ p write, .packet p write ∈ evs →
          5 ≤ p.bytes.length ∧ uint32At p.bytes 1 = second.chan.localId :=
  ⟨_, _, rfl, by decide, by decide, by decide, by decide, by decide,
    channels_are_sessions twoSessions _ (List.mem_cons_of_mem _ List.mem_cons_self)⟩

theorem chans_step {e : MuxEvent} (s : Mux) (he : e.ofLoop = false) :
    (s.step e).chans = s.chans := by
  unfold Mux.step
  split
  · rfl
  cases e with
  | packet p write => cases he
  | resume => cases he
  | readFails err => cases he
  | takeChannel =>
      simp only [Mux.takeChannel]
      split <;> rfl
  | decide write =>
      simp only [Mux.decide]
      repeat' split
      all_goals rfl
  | takeGlobal => rfl
  | session k e =>
      simp only [Mux.session]
      repeat' split
      all_goals rfl

/--
As long as the places of the list can be counted in 32 bits, a number finds the one
open channel that has it, and a channel that is over is found by no number.  Only the
main loop ends a channel: one that `handleChannels` rejects, or that its session
closes, stays open and keeps its number.
-/
theorem getChan_iff_open (events : List MuxEvent)
    (h : (run Mux.step .start events).chans.length < 2 ^ 32) :
    (∀ (id : UInt32) (k : Nat), (run Mux.step .start events).chans.getChan id = some k ↔
      ∃ c, (run Mux.step .start events).channels[k]? = some c ∧ c.isOver = false ∧
        c.chan.localId = id) ∧
    ∀ e : MuxEvent, e.ofLoop = false → ∀ id : UInt32,
      (run Mux.step .start (events ++ [e])).chans.getChan id =
        (run Mux.step .start events).chans.getChan id := by
  refine ⟨fun id k => (numbered_run events).getChan_iff h, fun e he id => ?_⟩
  rw [run_append]
  exact congrArg (ChanList.getChan · id) (chans_step _ he)

def openForward : Packet :=
  ⟨marshal channelOpenMsg (ascii "direct-tcpip", 5, 64, 32768, [], ()), by decide, by decide⟩

def closeFirst : Packet := ⟨marshal channelCloseMsg (0, ()), by decide, by decide⟩

/-- The second channel is to be rejected; the third takes the number of the first. -/
def reopened : List MuxEvent :=
  [.packet openShell none, .packet openForward none, .takeChannel, .decide none, .takeChannel,
   .packet closeFirst none, .packet openSecond none]

theorem getChan_reopened :
    (run Mux.step .start reopened).channels.map (fun c => (c.chan.localId, c.isOver)) =
      [(0, true), (1, false), (0, false)] ∧
    (run Mux.step .start reopened).chans.getChan 0 = some 2 ∧
    ¬ (run Mux.step .start reopened).chans.getChan 0 = some 0 ∧
    (run Mux.step .start (reopened ++ [.decide none])).chans.getChan 1 = some 1 ∧
    (run Mux.step .start (reopened ++ [.decide none])).channels.map
      (fun c => (c.chan.decided, c.serving)) = [(true, true), (true, false), (false, false)] := by
  obtain ⟨hopen, hkeeps⟩ := getChan_iff_open reopened (by decide)
  refine ⟨by decide, (hopen 0 2).mpr ⟨_, rfl, by decide, by decide⟩, fun hfirst => ?_, ?_,
    by decide⟩
  · obtain ⟨c, hc, hover, -⟩ := (hopen 0 0).mp hfirst
    cases hc
    cases hover
  · rw [hkeeps (.decide none) rfl]
    exact (hopen 1 1).mpr ⟨_, rfl, by decide, by decide⟩

end DockerBastion.Ssh

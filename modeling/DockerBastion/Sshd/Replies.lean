import DockerBastion.Sshd.Terminal

/-!
# Replies to requests

Requests for a session and requests for the whole connection are handled by two
loops that run side by side.  A reply names no request, so a client takes the
replies in the order in which it asked for them.
-/

namespace DockerBastion.Sshd

open Foundation

inductive Target where
  | session
  | connection
  deriving DecidableEq, Repr

structure Incoming where
  target : Target
  request : Request

def Incoming.WellFormed (r : Incoming) : Prop :=
  r.target = .session →
    (r.request.type = ascii "pty-req" → ∃ p : PtyReq, r.request.payload = p.payload) ∧
      (r.request.type = ascii "window-change" →
        ∃ c : WindowChange, r.request.payload = c.payload)

/-- The loop over the requests for the connection only logs them. -/
def handleOutOfBand (_ : Request) : List Effect := []

structure Loops where
  session : List (Request × Nat)
  connection : List (Request × Nat)
  replies : List Nat

def requestsFor (target : Target) (requests : List (Incoming × Nat)) :
    List (Request × Nat) :=
  (requests.filter fun r => r.1.target = target).map fun r => (r.1.request, r.2)

def Loops.start (requests : List Incoming) : Loops :=
  ⟨requestsFor .session requests.zipIdx, requestsFor .connection requests.zipIdx, []⟩

def Effect.isReply : Effect → Bool
  | .reply _ => true
  | .setWinsize _ => false

def repliesTo (i : Nat) (effects : List Effect) : List Nat :=
  (effects.filter Effect.isReply).map fun _ => i

/-- One of the loops handles its next request. -/
def stepLoops (s : Except Panic Loops) (target : Target) : Except Panic Loops :=
  match s, target with
  | .error p, _ => .error p
  | .ok s, .session =>
      match s.session with
      | [] => .ok s
      | (req, i) :: rest => do
          let effects ← handleRequest req
          return { s with session := rest, replies := s.replies ++ repliesTo i effects }
  | .ok s, .connection =>
      match s.connection with
      | [] => .ok s
      | (req, i) :: rest =>
          .ok { s with
            connection := rest
            replies := s.replies ++ repliesTo i (handleOutOfBand req) }

def wanted (requests : List Incoming) : List Nat :=
  (requests.zipIdx.filter fun r => r.1.request.wantReply).map Prod.snd

/-- The requests that the loops have a reply for. -/
def Request.hasReply (req : Request) : Bool :=
  (req.type = ascii "shell" && req.payload.length = 0) || req.type = ascii "pty-req"

def Incoming.hasReply (r : Incoming) : Bool :=
  r.target = .session && r.request.hasReply

/-! ## What a request is answered -/

theorem payloadFits_of_wellFormed {req : Request}
    (h : Incoming.WellFormed ⟨.session, req⟩) : PayloadFits req := by
  obtain ⟨hpty, hwindow⟩ := h rfl
  constructor
  · intro htype
    obtain ⟨p, hpayload⟩ := hpty htype
    refine ⟨UInt8.ofNat p.term.length, by rw [hpayload]; rfl, ?_⟩
    rw [p.toNat_offset, hpayload]
    exact p.offset_le
  · intro htype
    obtain ⟨c, hpayload⟩ := hwindow htype
    rw [hpayload]
    simp [WindowChange.payload, uint32, uint16]

private theorem bind_eq_ok {α β : Type} {x : Except Panic α} {f : α → Except Panic β}
    {b : β} (h : x >>= f = .ok b) : ∃ a, x = .ok a ∧ f a = .ok b := by
  cases x with
  | ok a => exact ⟨a, rfl, h⟩
  | error p => cases h

private theorem repliesTo_reply (i : Nat) (req : Request) (ok : Bool) :
    repliesTo i (req.reply ok) = if req.wantReply then [i] else [] := by
  unfold Request.reply
  split <;> rfl

theorem repliesTo_of_handleRequest {req : Request} {effects : List Effect}
    (h : handleRequest req = .ok effects) (i : Nat) :
    repliesTo i effects = if req.wantReply && req.hasReply then [i] else [] := by
  unfold handleRequest at h
  split at h
  · rename_i hshell
    have hne : ascii "shell" ≠ ascii "pty-req" := by decide
    split at h
    · rename_i hempty
      cases h
      simp [repliesTo_reply, Request.hasReply, hshell, hempty]
    · rename_i hfull
      cases h
      simp [repliesTo, Request.hasReply, hshell, hfull, hne]
  rename_i hshell
  split at h
  · rename_i hpty
    obtain ⟨termLen, -, h⟩ := bind_eq_ok h
    obtain ⟨b, -, h⟩ := bind_eq_ok h
    obtain ⟨dims, -, h⟩ := bind_eq_ok h
    cases h
    have hsize : repliesTo i (.setWinsize (winsize dims.1 dims.2) :: req.reply true) =
        repliesTo i (req.reply true) := rfl
    rw [hsize, repliesTo_reply]
    simp [Request.hasReply, hpty]
  rename_i hpty
  have hnone : req.hasReply = false := by simp [Request.hasReply, hshell, hpty]
  rw [hnone, Bool.and_false]
  split at h
  · obtain ⟨dims, -, h⟩ := bind_eq_ok h
    cases h
    rfl
  · cases h
    rfl

/-! ## The two loops -/

def answerable (requests : List (Request × Nat)) : List Nat :=
  (requests.filter fun r => r.1.wantReply && r.1.hasReply).map Prod.snd

private theorem answerable_cons (req : Request) (i : Nat) (rest : List (Request × Nat)) :
    answerable ((req, i) :: rest) =
      (if req.wantReply && req.hasReply then [i] else []) ++ answerable rest := by
  unfold answerable
  rw [List.filter_cons]
  split <;> rfl

/-- What has been answered and what is going to be answered are all there is. -/
def Accounted (answers : List Nat) (s : Except Panic Loops) : Prop :=
  ∃ loops, s = .ok loops ∧ (∀ r ∈ loops.session, PayloadFits r.1) ∧
    loops.replies ++ answerable loops.session = answers

private theorem accounted_step {answers : List Nat} {s : Except Panic Loops}
    (h : Accounted answers s) (target : Target) : Accounted answers (stepLoops s target) := by
  obtain ⟨⟨session, connection, replies⟩, rfl, hfits, hreplies⟩ := h
  cases target with
  | session =>
      cases session with
      | nil => exact ⟨_, rfl, hfits, hreplies⟩
      | cons r rest =>
          obtain ⟨req, i⟩ := r
          obtain ⟨effects, heffects⟩ :=
            handleRequest_isOk_iff.mpr (hfits (req, i) List.mem_cons_self)
          refine ⟨⟨rest, connection, replies ++ repliesTo i effects⟩, ?_, ?_, ?_⟩
          · simp [stepLoops, heffects, bind, Except.bind, pure, Except.pure]
          · exact fun r hr => hfits r (List.mem_cons_of_mem _ hr)
          · rw [← hreplies, answerable_cons, repliesTo_of_handleRequest heffects,
              List.append_assoc]
  | connection =>
      cases connection with
      | nil => exact ⟨_, rfl, hfits, hreplies⟩
      | cons r rest => exact ⟨_, rfl, hfits, by simpa [repliesTo, handleOutOfBand] using hreplies⟩

private theorem answerable_requestsFor (requests : List (Incoming × Nat)) :
    answerable (requestsFor .session requests) =
      ((requests.filter fun r => r.1.request.wantReply).filter
        fun r => r.1.hasReply).map Prod.snd := by
  simp only [answerable, requestsFor, List.filter_map, List.map_map, List.filter_filter,
    Function.comp_def, Incoming.hasReply]
  refine congrArg _ (List.filter_congr fun r _ => ?_)
  cases r.1.request.wantReply <;> cases decide (r.1.target = .session) <;> simp

private theorem accounted_start {requests : List Incoming}
    (hwf : ∀ r ∈ requests, r.WellFormed) :
    Accounted (answerable (requestsFor .session requests.zipIdx))
      (.ok (Loops.start requests)) := by
  refine ⟨_, rfl, ?_, rfl⟩
  intro r hr
  obtain ⟨⟨incoming, i⟩, hincoming, rfl⟩ := List.mem_map.mp hr
  obtain ⟨hmem, htarget⟩ := List.mem_filter.mp hincoming
  obtain ⟨target, request⟩ := incoming
  obtain rfl : target = .session := by simpa using htarget
  exact payloadFits_of_wellFormed (hwf _ (List.fst_mem_of_mem_zipIdx hmem))

/--
Once both loops have handled everything, the replies answer exactly the requests that
wanted one, in their order, if and only if every such request is a `pty-req` or an
empty `shell` for the session.
-/
theorem replies_eq_wanted_iff (requests : List Incoming)
    (hwf : ∀ r ∈ requests, r.WellFormed) (schedule : List Target) :
    ∃ s, run stepLoops (.ok (Loops.start requests)) schedule = .ok s ∧
      (s.session = [] → s.connection = [] →
        (s.replies = wanted requests ↔
          ∀ r ∈ requests, r.request.wantReply = true → r.hasReply = true)) := by
  have hfinal : Accounted (answerable (requestsFor .session requests.zipIdx))
      (run stepLoops (.ok (Loops.start requests)) schedule) :=
    run_invariant (I := Accounted (answerable (requestsFor .session requests.zipIdx)))
      (fun _ target h => accounted_step h target) (accounted_start hwf) schedule
  obtain ⟨s, hrun, -, hreplies⟩ := hfinal
  refine ⟨s, hrun, fun hsession _ => ?_⟩
  have hanswered : s.replies = ((requests.zipIdx.filter fun r => r.1.request.wantReply).filter
      fun r => r.1.hasReply).map Prod.snd := by
    rw [← answerable_requestsFor, ← hreplies, hsession]
    exact (List.append_nil _).symm
  rw [hanswered, wanted]
  constructor
  · intro heq r hr hwant
    -- as many requests are answered as want it, so it is all of them
    have hlength := congrArg List.length heq
    rw [List.length_map, List.length_map, List.length_filter_eq_length_iff] at hlength
    obtain ⟨i, hi⟩ := List.getElem?_of_mem hr
    have hmem : (r, i) ∈ requests.zipIdx := List.mk_mem_zipIdx_iff_getElem?.mpr hi
    exact hlength (r, i) (List.mem_filter.mpr ⟨hmem, hwant⟩)
  · intro hall
    rw [List.filter_eq_self.mpr]
    intro r hr
    obtain ⟨hmem, hwant⟩ := List.mem_filter.mp hr
    exact hall r.1 (List.fst_mem_of_mem_zipIdx hmem) hwant

def shellRequest : Incoming := ⟨.session, ⟨ascii "shell", true, []⟩⟩

/-- What a client sends that asks for a terminal, resizes it and keeps the connection up. -/
def plainRequests : List Incoming :=
  [⟨.session, ⟨ascii "pty-req", true, xterm.payload⟩⟩,
   ⟨.connection, ⟨ascii "keepalive@openssh.com", false, []⟩⟩,
   ⟨.session, ⟨ascii "window-change", false, widened.payload⟩⟩,
   shellRequest]

theorem wellFormed_plainRequests : ∀ r ∈ plainRequests, r.WellFormed := by
  intro r hr _
  simp only [plainRequests, List.mem_cons, List.not_mem_nil, or_false] at hr
  rcases hr with rfl | rfl | rfl | rfl
  · exact ⟨fun _ => ⟨xterm, rfl⟩, fun htype => absurd htype (by decide)⟩
  · exact ⟨fun htype => absurd htype (by decide), fun htype => absurd htype (by decide)⟩
  · exact ⟨fun htype => absurd htype (by decide), fun _ => ⟨widened, rfl⟩⟩
  · exact ⟨fun htype => absurd htype (by decide), fun htype => absurd htype (by decide)⟩

theorem replies_plainRequests :
    ∃ s, run stepLoops (.ok (Loops.start plainRequests))
        [.session, .connection, .session, .session] = .ok s ∧
      s.replies = [0, 3] ∧ s.replies = wanted plainRequests := by
  obtain ⟨s, hrun, hreplies⟩ := replies_eq_wanted_iff plainRequests wellFormed_plainRequests
    [.session, .connection, .session, .session]
  have hend : run stepLoops (.ok (Loops.start plainRequests))
      [.session, .connection, .session, .session] = .ok ⟨[], [], [0, 3]⟩ := by
    rfl
  rw [hend] at hrun
  cases hrun
  refine ⟨_, hend, rfl, (hreplies rfl rfl).mpr ?_⟩
  decide

/-- A client that sets a variable first takes the reply to `shell` for the reply to it. -/
def envRequest : Incoming :=
  ⟨.session, ⟨ascii "env", true,
    uint32 4 ++ ascii "LANG" ++ uint32 1 ++ ascii "C"⟩⟩

theorem envRequest_not_answered :
    ∃ s, run stepLoops (.ok (Loops.start [envRequest, shellRequest]))
        [.session, .session] = .ok s ∧
      s.session = [] ∧ s.connection = [] ∧ s.replies ≠ wanted [envRequest, shellRequest] :=
  ⟨⟨[], [], [1]⟩, rfl, rfl, rfl, by decide⟩

end DockerBastion.Sshd

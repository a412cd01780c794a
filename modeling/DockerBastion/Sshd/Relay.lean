import DockerBastion.Foundation.Run
import DockerBastion.Sshd.Session

/-!
# The output of a session

What the process writes goes through the pty and the output loop to the channel.
`closeChannel` closes the channel whichever loop runs it.  While the channel is open
nothing is lost; what is under way when the input loop closes it, or is written
later, never arrives.  The terminal is taken as raw and adds nothing to the output.
-/

namespace DockerBastion.Sshd

open Foundation

def Loop.held : Loop → Bytes
  | .writing chunk => chunk
  | _ => []

/--
The input loop closes the channel only when the output is through, and the process
writes nothing after the channel is closed.
-/
def Delivered (s : ExecSession) : SessionEvent → Prop
  | .closes .input =>
      s.inLoop = .copied → s.once = .fresh → s.outLoop.held = [] ∧ s.screen = []
  | .processWrites bytes => s.closes ≠ 0 → s.process ≠ .exited → bytes = []
  | _ => True

instance (s : ExecSession) : (e : SessionEvent) → Decidable (Delivered s e)
  | .closes .input => inferInstanceAs (Decidable (_ → _ → _ ∧ _))
  | .processWrites _ => inferInstanceAs (Decidable (_ → _ → _))
  | .closes .output | .processReads _ | .processExits | .clientSends _ | .clientEnds
  | .clientLeaves | .request _ | .reads _ _ | .writes _ _ | .waited _ => .isTrue trivial

/-- While the channel is open, the output is in the channel, in the loop or on the screen. -/
structure Flow (s : ExecSession) : Prop where
  fresh : s.once = .fresh ↔ s.closes = 0
  once : s.closes ≤ 1
  present : s.left = false
  chunk : ∀ chunk, s.outLoop = .writing chunk → chunk ≠ []
  closing : ∀ d, s.loop d = .closing → s.closes ≠ 0
  copied : s.closes = 0 → s.outLoop = .copied → s.screen = [] ∧ s.process = .exited
  flow : s.closes = 0 → s.written ++ s.outLoop.held ++ s.screen = s.output

def Complete (s : ExecSession) : Prop := s.closes ≠ 0 → s.written = s.output

def Lost (s : ExecSession) : Prop := s.closes ≠ 0 ∧ s.written.length < s.output.length

/-! ## Events that have nothing to do with the output -/

structure SameOutput (s s' : ExecSession) : Prop where
  once : s'.once = s.once
  closes : s'.closes = s.closes
  left : s'.left = s.left
  outLoop : s'.outLoop = s.outLoop
  written : s'.written = s.written
  output : s'.output = s.output
  screen : s'.screen = s.screen
  exited : s.process = .exited → s'.process = .exited
  closing : s'.inLoop = .closing → s.inLoop = .closing

def SessionEvent.quiet : SessionEvent → Bool
  | .processReads _ | .processExits | .clientSends _ | .clientEnds | .request _
  | .reads .input _ | .writes .input _ => true
  | _ => false

theorem sameOutput_step (s : ExecSession) {e : SessionEvent} (h : e.quiet = true) :
    SameOutput s (s.step e) := by
  have hrefl : SameOutput s s := ⟨rfl, rfl, rfl, rfl, rfl, rfl, rfl, id, id⟩
  cases e with
  | processReads n =>
      simp only [ExecSession.step, ExecSession.processReads]
      split
      · exact hrefl
      · rename_i hrunning
        split <;> exact ⟨rfl, rfl, rfl, rfl, rfl, rfl, rfl, fun h => absurd h hrunning, id⟩
  | processExits => exact ⟨rfl, rfl, rfl, rfl, rfl, rfl, rfl, fun _ => rfl, id⟩
  | clientSends bytes =>
      simp only [ExecSession.step, ExecSession.clientSends]
      split
      · exact hrefl
      · exact ⟨rfl, rfl, rfl, rfl, rfl, rfl, rfl, id, id⟩
  | clientEnds => exact ⟨rfl, rfl, rfl, rfl, rfl, rfl, rfl, id, id⟩
  | request req =>
      simp only [ExecSession.step, ExecSession.request]
      split
      · exact hrefl
      · split
        · exact ⟨rfl, rfl, rfl, rfl, rfl, rfl, rfl, id, id⟩
        · exact hrefl
  | reads d n =>
      cases d with
      | output => cases h
      | input =>
          simp only [ExecSession.step, ExecSession.readInput]
          split
          · split
            · exact ⟨rfl, rfl, rfl, rfl, rfl, rfl, rfl, id, nofun⟩
            · split
              · exact ⟨rfl, rfl, rfl, rfl, rfl, rfl, rfl, id, nofun⟩
              · exact hrefl
          · exact hrefl
  | writes d fails =>
      cases d with
      | output => cases h
      | input =>
          simp only [ExecSession.step, ExecSession.writeInput]
          split
          · split <;> exact ⟨rfl, rfl, rfl, rfl, rfl, rfl, rfl, id, nofun⟩
          · exact hrefl
  | _ => cases h

private theorem Flow.of_same {s s' : ExecSession} (h : SameOutput s s') (hflow : Flow s) :
    Flow s' where
  fresh := by rw [h.once, h.closes]; exact hflow.fresh
  once := by rw [h.closes]; exact hflow.once
  present := by rw [h.left]; exact hflow.present
  chunk := by rw [h.outLoop]; exact hflow.chunk
  closing := by
    rw [h.closes]
    intro d hclosing
    cases d with
    | output => exact hflow.closing .output (h.outLoop.symm.trans hclosing)
    | input => exact hflow.closing .input (h.closing hclosing)
  copied := by
    rw [h.closes, h.outLoop, h.screen]
    exact fun hopen hcopied => (hflow.copied hopen hcopied).imp_right h.exited
  flow := by rw [h.closes, h.written, h.outLoop, h.screen, h.output]; exact hflow.flow

/-! ## The steps of the output -/

private theorem closing_of_input {s : ExecSession} {l : Loop} (h : Flow s) (hl : l ≠ .closing) :
    ∀ d, ({ s with outLoop := l } : ExecSession).loop d = .closing → s.closes ≠ 0
  | .output, hclosing => absurd hclosing hl
  | .input, hclosing => h.closing .input hclosing

private theorem flow_processWrites {s : ExecSession} (h : Flow s) (bytes : Bytes) :
    Flow (s.processWrites bytes) := by
  unfold ExecSession.processWrites
  split
  · exact h
  · rename_i hrunning
    refine ⟨h.fresh, h.once, h.present, h.chunk, h.closing, ?_, ?_⟩
    · exact fun hopen hcopied => absurd (h.copied hopen hcopied).2 hrunning
    · intro hopen
      have hflow := h.flow hopen
      simp only [← hflow, List.append_assoc]

private theorem flow_readOutput {s : ExecSession} (h : Flow s) (n : Nat) :
    Flow (s.readOutput n) := by
  unfold ExecSession.readOutput
  split
  · rename_i hreading
    split
    · rename_i hscreen
      refine ⟨h.fresh, h.once, h.present, ?_, closing_of_input h nofun, nofun, ?_⟩
      · rintro chunk hchunk
        cases hchunk
        simpa using hscreen
      · intro hopen
        have hflow := h.flow hopen
        simp only [hreading, Loop.held, List.append_nil] at hflow
        simp only [Loop.held, List.append_assoc, List.take_append_drop, hflow]
    · rename_i hscreen
      split
      · rename_i hexited
        refine ⟨h.fresh, h.once, h.present, nofun, closing_of_input h nofun, ?_, ?_⟩
        · exact fun _ _ => ⟨not_not.mp hscreen, hexited⟩
        · intro hopen
          have hflow := h.flow hopen
          rwa [hreading] at hflow
      · exact h
  · exact h

private theorem flow_writeOutput {s : ExecSession} (h : Flow s) : Flow s.writeOutput := by
  unfold ExecSession.writeOutput
  split
  · rename_i chunk hwriting
    split
    · rename_i hbroken
      have hclosed : s.closes ≠ 0 := by
        rcases hbroken with hclosed | hleft
        · exact hclosed
        · rw [h.present] at hleft
          cases hleft
      exact ⟨h.fresh, h.once, h.present, nofun, fun _ _ => hclosed,
        fun hopen _ => absurd hopen hclosed, fun hopen => absurd hopen hclosed⟩
    · refine ⟨h.fresh, h.once, h.present, nofun, closing_of_input h nofun, nofun, ?_⟩
      intro hopen
      have hflow := h.flow hopen
      rw [hwriting] at hflow
      simpa [Loop.held] using hflow
  · exact h

private theorem Flow.of_closed {s : ExecSession} (hclosed : s.closes = 1)
    (hfresh : s.once ≠ .fresh) (hleft : s.left = false)
    (hchunk : ∀ chunk, s.outLoop = .writing chunk → chunk ≠ []) : Flow s where
  fresh := iff_of_false hfresh (by omega)
  once := by omega
  present := hleft
  chunk := hchunk
  closing := fun _ _ => by omega
  copied := fun hopen => by omega
  flow := fun hopen => by omega

private theorem Flow.closes_eq_one {s : ExecSession} (h : Flow s) (hfresh : s.once ≠ .fresh) :
    s.closes = 1 := by
  have hclosed : s.closes ≠ 0 := fun hopen => hfresh (h.fresh.mpr hopen)
  have := h.once
  omega

private theorem chunk_setLoop {s : ExecSession} {l : Loop} (h : Flow s)
    (hl : ∀ chunk, l ≠ .writing chunk) (d : Direction) :
    ∀ chunk, (s.setLoop l d).outLoop = .writing chunk → chunk ≠ [] := by
  intro chunk hchunk
  cases d with
  | output => exact absurd hchunk (hl chunk)
  | input => exact h.chunk chunk hchunk

private theorem flow_close {s : ExecSession} (h : Flow s) (d : Direction) :
    Flow (s.close d) := by
  unfold ExecSession.close
  split
  · split
    · rename_i hfresh
      have hopen := h.fresh.mp hfresh
      refine .of_closed (by simp [hopen]) nofun ?_
        (chunk_setLoop (l := .closing) h (fun _ => nofun) d)
      cases d <;> exact h.present
    · exact h
    · rename_i hfinished
      have hfresh : s.once ≠ .fresh := by simp [hfinished]
      have hclosed := h.closes_eq_one hfresh
      refine .of_closed ?_ ?_ ?_ (chunk_setLoop (l := .done) h (fun _ => nofun) d)
      · cases d <;> exact hclosed
      · cases d <;> exact hfresh
      · cases d <;> exact h.present
  · exact h

private theorem flow_waited {s : ExecSession} (h : Flow s) (d : Direction) :
    Flow (s.waited d) := by
  unfold ExecSession.waited
  split
  · rename_i hwaiting
    have hclosed := h.closing d hwaiting.1
    have hone := h.closes_eq_one fun hfresh => hclosed (h.fresh.mp hfresh)
    refine .of_closed ?_ nofun ?_ (chunk_setLoop (l := .done) h (fun _ => nofun) d)
    · cases d <;> exact hone
    · cases d <;> exact h.present
  · exact h

theorem flow_step {s : ExecSession} {e : SessionEvent} (h : Flow s) (he : e ≠ .clientLeaves) :
    Flow (s.step e) := by
  cases hquiet : e.quiet with
  | true => exact h.of_same (sameOutput_step s hquiet)
  | false =>
      cases e with
      | processWrites bytes => exact flow_processWrites h bytes
      | clientLeaves => exact absurd rfl he
      | reads d n =>
          cases d with
          | output => exact flow_readOutput h n
          | input => cases hquiet
      | writes d fails =>
          cases d with
          | output => exact flow_writeOutput h
          | input => cases hquiet
      | closes d => exact flow_close h d
      | waited d => exact flow_waited h d
      | _ => cases hquiet

/-! ## What a step does to the channel -/

/-- The process writes, the output loop writes, a loop closes the channel, or nothing. -/
theorem step_cases (s : ExecSession) (e : SessionEvent) :
    ((s.step e).closes = s.closes ∧ (s.step e).written = s.written ∧
      (s.step e).output = s.output) ∨
    (∃ bytes, e = .processWrites bytes ∧ s.process ≠ .exited ∧
      (s.step e).closes = s.closes ∧ (s.step e).written = s.written ∧
        (s.step e).output = s.output ++ bytes) ∨
    (s.closes = 0 ∧ (s.step e).closes = 0) ∨
    (∃ d, e = .closes d ∧ s.loop d = .copied ∧ s.once = .fresh ∧
      (s.step e).closes = s.closes + 1 ∧ (s.step e).written = s.written ∧
        (s.step e).output = s.output) := by
  cases hquiet : e.quiet with
  | true =>
      have hsame := sameOutput_step s hquiet
      exact .inl ⟨hsame.closes, hsame.written, hsame.output⟩
  | false =>
      cases e with
      | processWrites bytes =>
          simp only [ExecSession.step, ExecSession.processWrites]
          split
          · exact .inl ⟨rfl, rfl, rfl⟩
          · rename_i hrunning
            exact .inr (.inl ⟨bytes, rfl, hrunning, rfl, rfl, rfl⟩)
      | clientLeaves => exact .inl ⟨rfl, rfl, rfl⟩
      | reads d n =>
          cases d with
          | input => cases hquiet
          | output =>
              simp only [ExecSession.step, ExecSession.readOutput]
              split
              · split
                · exact .inl ⟨rfl, rfl, rfl⟩
                · split <;> exact .inl ⟨rfl, rfl, rfl⟩
              · exact .inl ⟨rfl, rfl, rfl⟩
      | writes d fails =>
          cases d with
          | input => cases hquiet
          | output =>
              simp only [ExecSession.step, ExecSession.writeOutput]
              split
              · split
                · exact .inl ⟨rfl, rfl, rfl⟩
                · rename_i hbroken
                  have hopen := not_not.mp (not_or.mp hbroken).1
                  exact .inr (.inr (.inl ⟨hopen, hopen⟩))
              · exact .inl ⟨rfl, rfl, rfl⟩
      | closes d =>
          simp only [ExecSession.step, ExecSession.close]
          split
          · rename_i hcopied
            split
            · rename_i hfresh
              refine .inr (.inr (.inr ⟨d, rfl, hcopied, hfresh, rfl, ?_, ?_⟩)) <;>
                cases d <;> rfl
            · exact .inl ⟨rfl, rfl, rfl⟩
            · cases d <;> exact .inl ⟨rfl, rfl, rfl⟩
          · exact .inl ⟨rfl, rfl, rfl⟩
      | waited d =>
          simp only [ExecSession.step, ExecSession.waited]
          split
          · cases d <;> exact .inl ⟨rfl, rfl, rfl⟩
          · exact .inl ⟨rfl, rfl, rfl⟩
      | _ => cases hquiet

theorem step_of_closed {s : ExecSession} {e : SessionEvent} (h : s.closes ≠ 0) :
    (s.step e).closes ≠ 0 ∧ (s.step e).written = s.written ∧
      ((s.step e).output = s.output ∨ ∃ bytes, e = .processWrites bytes ∧
        s.process ≠ .exited ∧ (s.step e).output = s.output ++ bytes) := by
  rcases step_cases s e with ⟨hcloses, hwritten, houtput⟩ |
    ⟨bytes, he, hrunning, hcloses, hwritten, houtput⟩ | ⟨hopen, -⟩ |
    ⟨d, -, -, -, hcloses, hwritten, houtput⟩
  · exact ⟨hcloses ▸ h, hwritten, .inl houtput⟩
  · exact ⟨hcloses ▸ h, hwritten, .inr ⟨bytes, he, hrunning, houtput⟩⟩
  · exact absurd hopen h
  · exact ⟨by omega, hwritten, .inl houtput⟩

theorem closes_of_step {s : ExecSession} {e : SessionEvent} (hopen : s.closes = 0)
    (hclosed : (s.step e).closes ≠ 0) :
    ∃ d, e = .closes d ∧ s.loop d = .copied ∧ s.once = .fresh ∧
      (s.step e).written = s.written ∧ (s.step e).output = s.output := by
  rcases step_cases s e with ⟨hcloses, -, -⟩ | ⟨bytes, -, -, hcloses, -, -⟩ | ⟨-, hstill⟩ |
    ⟨d, he, hcopied, hfresh, -, hwritten, houtput⟩
  · exact absurd (hcloses.trans hopen) hclosed
  · exact absurd (hcloses.trans hopen) hclosed
  · exact absurd hstill hclosed
  · exact ⟨d, he, hcopied, hfresh, hwritten, houtput⟩

/-! ## Nothing is lost, or something is lost for good -/

theorem complete_step {s : ExecSession} {e : SessionEvent} (h : Flow s) (hs : Complete s)
    (he : Delivered s e) : Complete (s.step e) := by
  intro hclosed
  by_cases hopen : s.closes = 0
  · obtain ⟨d, rfl, hcopied, hfresh, hwritten, houtput⟩ := closes_of_step hopen hclosed
    have hthrough : s.outLoop.held = [] ∧ s.screen = [] := by
      cases d with
      | output =>
          have hout : s.outLoop = .copied := hcopied
          exact ⟨by rw [hout]; rfl, (h.copied hopen hout).1⟩
      | input => exact he hcopied hfresh
    have hflow := h.flow hopen
    rw [hthrough.1, hthrough.2, List.append_nil, List.append_nil] at hflow
    rw [hwritten, houtput, hflow]
  · obtain ⟨-, hwritten, houtput | ⟨bytes, rfl, hrunning, houtput⟩⟩ :=
      step_of_closed (e := e) hopen
    · rw [hwritten, houtput, hs hopen]
    · have hbytes : bytes = [] := he hopen hrunning
      rw [hwritten, houtput, hbytes, List.append_nil, hs hopen]

theorem lost_of_not_delivered {s : ExecSession} {e : SessionEvent} (h : Flow s)
    (hs : Complete s) (he : ¬ Delivered s e) : Lost (s.step e) := by
  cases e with
  | closes d =>
      cases d with
      | output => exact absurd trivial he
      | input =>
          simp only [Delivered, Classical.not_imp] at he
          obtain ⟨hcopied, hfresh, hunder⟩ := he
          have hopen := h.fresh.mp hfresh
          have hflow := congrArg List.length (h.flow hopen)
          simp only [List.length_append] at hflow
          have hstep : s.step (.closes .input) =
              { s with inLoop := .closing, once := .running, closes := s.closes + 1 } := by
            simp [ExecSession.step, ExecSession.close, ExecSession.loop, hcopied, hfresh,
              ExecSession.setLoop]
          rw [hstep]
          refine ⟨Nat.succ_ne_zero _, ?_⟩
          show s.written.length < s.output.length
          rw [not_and_or, ← List.length_eq_zero_iff, ← List.length_eq_zero_iff] at hunder
          omega
  | processWrites bytes =>
      simp only [Delivered, Classical.not_imp] at he
      obtain ⟨hclosed, hrunning, hbytes⟩ := he
      simp only [ExecSession.step, ExecSession.processWrites, if_neg hrunning]
      refine ⟨hclosed, ?_⟩
      show s.written.length < (s.output ++ bytes).length
      rw [hs hclosed, List.length_append]
      have := List.length_pos_iff.mpr hbytes
      omega
  | _ => exact absurd trivial he

theorem lost_step {s : ExecSession} {e : SessionEvent} (h : Lost s) : Lost (s.step e) := by
  obtain ⟨hclosed, hwritten, houtput | ⟨bytes, -, -, houtput⟩⟩ := step_of_closed (e := e) h.1
  · exact ⟨hclosed, by rw [hwritten, houtput]; exact h.2⟩
  · refine ⟨hclosed, ?_⟩
    rw [hwritten, houtput, List.length_append]
    exact Nat.lt_of_lt_of_le h.2 (Nat.le_add_right _ _)

private theorem flow_run {s : ExecSession} {events : List SessionEvent} (h : Flow s)
    (hpresent : ∀ e ∈ events, e ≠ .clientLeaves) : Flow (run ExecSession.step s events) := by
  induction events generalizing s with
  | nil => exact h
  | cons e events ih =>
      exact ih (flow_step h (hpresent e List.mem_cons_self))
        fun e he => hpresent e (List.mem_cons_of_mem _ he)

private theorem written_eq_output_iff {s : ExecSession} {events : List SessionEvent}
    (h : Flow s) (hs : Complete s) (hpresent : ∀ e ∈ events, e ≠ .clientLeaves)
    (hclosed : (run ExecSession.step s events).closes ≠ 0) :
    (run ExecSession.step s events).written = (run ExecSession.step s events).output ↔
      EachStep ExecSession.step Delivered s events := by
  induction events generalizing s with
  | nil => exact iff_of_true (hs hclosed) trivial
  | cons e events ih =>
      by_cases he : Delivered s e
      · have hiff := ih (flow_step h (hpresent e List.mem_cons_self)) (complete_step h hs he)
          (fun e he => hpresent e (List.mem_cons_of_mem _ he)) hclosed
        exact hiff.trans ⟨fun hall => ⟨he, hall⟩, fun hall => hall.2⟩
      · -- what is lost now is missing at the end
        have hlost : Lost (run ExecSession.step (s.step e) events) :=
          run_invariant (fun _ _ => lost_step) (lost_of_not_delivered h hs he) events
        refine iff_of_false ?_ fun hall => he hall.1
        intro heq
        have hlength := hlost.2
        rw [run_cons] at heq
        rw [heq] at hlength
        exact lt_irrefl _ hlength

theorem flow_start : Flow .start where
  fresh := iff_of_true rfl rfl
  once := Nat.zero_le 1
  present := rfl
  chunk := nofun
  closing := by
    intro d hclosing
    cases d <;> cases hclosing
  copied := nofun
  flow := fun _ => rfl

/--
In a session whose client stays and whose channel has been closed, the channel was
closed once, and what had been written to it is the whole output of the process,
exactly if the input loop did not close it too early.
-/
theorem written_iff_delivered (events : List SessionEvent)
    (hpresent : ∀ e ∈ events, e ≠ .clientLeaves)
    (hclosed : (run ExecSession.step .start events).closes ≠ 0) :
    ((run ExecSession.step .start events).written = (run ExecSession.step .start events).output ∧
      (run ExecSession.step .start events).closes = 1) ↔
      EachStep ExecSession.step Delivered .start events := by
  have hcomplete : Complete .start := fun h => absurd rfl h
  rw [written_eq_output_iff flow_start hcomplete hpresent hclosed |>.symm]
  have honce := (flow_run flow_start hpresent).once
  exact ⟨fun h => h.1, fun h => ⟨h, by omega⟩⟩

def exitRun : List SessionEvent :=
  [.processWrites (ascii "bye"), .processExits, .reads .output 7, .writes .output false,
   .reads .output 7, .closes .output, .waited .output]

theorem exitRun_delivered :
    ((run ExecSession.step .start exitRun).written = (run ExecSession.step .start exitRun).output ∧
      (run ExecSession.step .start exitRun).closes = 1) ↔
      EachStep ExecSession.step Delivered .start exitRun :=
  written_iff_delivered exitRun (by decide) (by decide)

/-- The client sends a command and ends its input before the process has answered. -/
def pipedRun : List SessionEvent :=
  [.clientSends (ascii "ls"), .clientEnds, .reads .input 7, .writes .input false,
   .reads .input 7, .closes .input, .processReads 7, .processWrites (ascii "web"),
   .processExits, .reads .output 7, .writes .output false, .waited .input,
   .closes .output]

theorem pipedRun_loses_output :
    (run ExecSession.step .start pipedRun).closes = 1 ∧
      (run ExecSession.step .start pipedRun).process = .exited ∧
      (run ExecSession.step .start pipedRun).written ≠
        (run ExecSession.step .start pipedRun).output := by
  decide

end DockerBastion.Sshd

import DockerBastion.Foundation.Run
import DockerBastion.Sshd.Session

/-!
# Sessions that hang

No goroutine closes the pty, and none signals the process.  When the client has gone
and the process then reads its terminal, the process waits for input, the output loop
for output, and `closeChannel` for the process.
-/

namespace DockerBastion.Sshd

open Foundation

def Loop.ended : Loop → Bool
  | .copied | .closing | .done => true
  | .reading | .writing _ => false

/-- The process reads from a terminal on which nothing has been typed. -/
def Starved (s : ExecSession) : Prop := s.process = .reading ∧ s.terminal = []

/--
The client's side has ended, the process waits for its terminal, the output loop for
the pty, `closeChannel` for the process, and no goroutine can do anything.
-/
structure Stuck (s : ExecSession) : Prop where
  ended : s.inputEnded = true
  starved : Starved s
  reading : s.outLoop = .reading ∧ s.screen = []
  waiting : s.outLoop = .closing ∨ s.inLoop = .closing
  idle : ∀ e : SessionEvent, e.ofProgram = true → s.step e = s

/--
The process does not wait for its terminal once the input loop has ended: it is not
in such a read when the loop ends, and starts none afterwards.
-/
def Fed (s : ExecSession) : SessionEvent → Prop
  | .processReads _ => s.process ≠ .exited → s.terminal = [] → s.inLoop.ended = false
  | .reads .input _ =>
      s.inLoop = .reading → s.input = [] → s.inputEnded = true → ¬ Starved s
  | _ => True

instance (s : ExecSession) : Decidable (Starved s) :=
  inferInstanceAs (Decidable (_ ∧ _))

instance (s : ExecSession) : (e : SessionEvent) → Decidable (Fed s e)
  | .processReads _ => inferInstanceAs (Decidable (_ → _ → _))
  | .reads .input _ => inferInstanceAs (Decidable (_ → _ → _ → ¬ _))
  | .reads .output _ | .processWrites _ | .processExits | .clientSends _ | .clientEnds
  | .clientLeaves | .request _ | .closes _ | .writes _ _ | .waited _ => .isTrue trivial

/-- A process that waits for its terminal is one that the input loop still serves. -/
def Served (s : ExecSession) : Prop := Starved s → s.inLoop.ended = false

private theorem served_setLoop {s : ExecSession} {d : Direction} {l : Loop} (h : Served s)
    (hl : s.loop d = l) (hended : l.ended = true) (next : Loop) :
    Served (s.setLoop next d) := by
  cases d with
  | output => exact h
  | input =>
      intro hstarved
      have hloop : s.inLoop.ended = false := h hstarved
      have hin : s.inLoop = l := hl
      rw [hin, hended] at hloop
      cases hloop

theorem served_step {s : ExecSession} {e : SessionEvent} (h : Served s) (he : Fed s e) :
    Served (s.step e) := by
  cases e with
  | processWrites bytes =>
      simp only [ExecSession.step, ExecSession.processWrites]
      split
      · exact h
      · exact h
  | processReads n =>
      simp only [ExecSession.step, ExecSession.processReads]
      split
      · exact h
      · rename_i hrunning
        split
        · rename_i hempty
          exact fun _ => he hrunning hempty
        · rintro ⟨hreading, -⟩
          cases hreading
  | processExits =>
      rintro ⟨hreading, -⟩
      cases hreading
  | clientSends bytes =>
      simp only [ExecSession.step, ExecSession.clientSends]
      split
      · exact h
      · exact h
  | clientEnds => exact h
  | clientLeaves => exact h
  | request req =>
      simp only [ExecSession.step, ExecSession.request]
      split
      · exact h
      · split
        · exact h
        · exact h
  | reads d n =>
      cases d with
      | output =>
          simp only [ExecSession.step, ExecSession.readOutput]
          split
          · split
            · exact h
            · split
              · exact h
              · exact h
          · exact h
      | input =>
          simp only [ExecSession.step, ExecSession.readInput]
          split
          · rename_i hreading
            split
            · exact fun _ => rfl
            · rename_i hinput
              split
              · rename_i hended
                exact fun hstarved => absurd hstarved (he hreading (not_not.mp hinput) hended)
              · exact h
          · exact h
  | writes d fails =>
      cases d with
      | output =>
          simp only [ExecSession.step, ExecSession.writeOutput]
          split
          · split
            · exact h
            · exact h
          · exact h
      | input =>
          simp only [ExecSession.step, ExecSession.writeInput]
          split
          · split
            · rename_i hexited
              rintro ⟨hreading, -⟩
              have hreading : s.process = .reading := hreading
              rw [hexited.2] at hreading
              cases hreading
            · exact fun _ => rfl
          · exact h
  | closes d =>
      simp only [ExecSession.step, ExecSession.close]
      split
      · rename_i hcopied
        split
        · exact served_setLoop h hcopied rfl .closing
        · exact h
        · exact served_setLoop h hcopied rfl .done
      · exact h
  | waited d =>
      simp only [ExecSession.step, ExecSession.waited]
      split
      · rename_i hwaiting
        exact served_setLoop h hwaiting.1 rfl .done
      · exact h

/--
In a run in which the process never waits for its terminal after the input loop has
ended, no state is stuck.
-/
theorem never_stuck_of_fed (events : List SessionEvent)
    (hfed : EachStep ExecSession.step Fed .start events) :
    Always ExecSession.step (fun s => ¬ Stuck s) .start events := by
  have hstart : Served .start := fun _ => rfl
  have hserved : Always ExecSession.step Served .start events :=
    always_of_step (fun _ _ => served_step) hstart hfed
  refine hserved.mono fun s hs hstuck => ?_
  -- the output loop reads, so it is the input loop that waits in `closeChannel`
  have hended := hs hstuck.starved
  rcases hstuck.waiting with hout | hin
  · rw [hstuck.reading.1] at hout
    cases hout
  · rw [hin] at hended
    cases hended

def fedRun : List SessionEvent :=
  [.processReads 0, .clientSends (ascii "exit"), .reads .input 7, .writes .input false,
   .processReads 7, .processExits, .clientEnds, .reads .input 7, .closes .input,
   .waited .input, .reads .output 7, .closes .output]

theorem fedRun_never_stuck :
    Always ExecSession.step (fun s => ¬ Stuck s) .start fedRun :=
  never_stuck_of_fed fedRun (by decide)

/-- The client of an idle shell ends its input. -/
def hungRun : List SessionEvent :=
  [.processReads 0, .clientEnds, .reads .input 7, .closes .input]

theorem hungRun_stuck : Stuck (run ExecSession.step .start hungRun) where
  ended := rfl
  starved := ⟨rfl, rfl⟩
  reading := ⟨rfl, rfl⟩
  waiting := .inr rfl
  idle := by
    intro e hprogram
    cases e with
    | request req => rfl
    | reads d n => cases d <;> rfl
    | writes d fails => cases d <;> rfl
    | closes d => cases d <;> rfl
    | waited d => cases d <;> rfl
    | _ => cases hprogram

end DockerBastion.Sshd

import Mathlib.Data.List.Induction
import Mathlib.Tactic.Common

/-!
# Runs of a total transition function

A system is a function `step : σ → ε → σ`.  An event that is not enabled leaves
the state unchanged, so every list of events is a run.  `Always` and `EachStep`
speak about the states and the steps of one run; the induction that carries an
invariant along a run, and the one that finds the step at which a fact became
true, are proved here once.
-/

namespace DockerBastion.Foundation

variable {σ ε : Type*} (step : σ → ε → σ)

def run : σ → List ε → σ
  | s, [] => s
  | s, e :: events => run (step s e) events

/-- Every state of the run, the first and the last included, satisfies `I`. -/
def Always (I : σ → Prop) : σ → List ε → Prop
  | s, [] => I s
  | s, e :: events => I s ∧ Always I (step s e) events

def Sometime (P : σ → Prop) : σ → List ε → Prop
  | s, [] => P s
  | s, e :: events => P s ∨ Sometime P (step s e) events

/-- Every event of the run satisfies `Q` in the state in which it happens. -/
def EachStep (Q : σ → ε → Prop) : σ → List ε → Prop
  | _, [] => True
  | s, e :: events => Q s e ∧ EachStep Q (step s e) events

instance decidableAlways (I : σ → Prop) [DecidablePred I] :
    (s : σ) → (events : List ε) → Decidable (Always step I s events)
  | s, [] => inferInstanceAs (Decidable (I s))
  | s, e :: events =>
      have := decidableAlways I (step s e) events
      inferInstanceAs (Decidable (I s ∧ Always step I (step s e) events))

instance decidableSometime (P : σ → Prop) [DecidablePred P] :
    (s : σ) → (events : List ε) → Decidable (Sometime step P s events)
  | s, [] => inferInstanceAs (Decidable (P s))
  | s, e :: events =>
      have := decidableSometime P (step s e) events
      inferInstanceAs (Decidable (P s ∨ Sometime step P (step s e) events))

instance decidableEachStep (Q : σ → ε → Prop) [∀ s e, Decidable (Q s e)] :
    (s : σ) → (events : List ε) → Decidable (EachStep step Q s events)
  | _, [] => inferInstanceAs (Decidable True)
  | s, e :: events =>
      have := decidableEachStep Q (step s e) events
      inferInstanceAs (Decidable (Q s e ∧ EachStep step Q (step s e) events))

@[simp] theorem run_nil (s : σ) : run step s [] = s := rfl

@[simp] theorem run_cons (s : σ) (e : ε) (events : List ε) :
    run step s (e :: events) = run step (step s e) events := rfl

@[simp] theorem run_append (s : σ) (before after : List ε) :
    run step s (before ++ after) = run step (run step s before) after := by
  induction before generalizing s with
  | nil => rfl
  | cons e before ih => exact ih (step s e)

variable {step}

/-! ## The states of a run -/

theorem always_append {I : σ → Prop} {s : σ} {before after : List ε} :
    Always step I s (before ++ after) ↔
      Always step I s before ∧ Always step I (run step s before) after := by
  induction before generalizing s with
  | nil =>
      constructor
      · intro h
        refine ⟨?_, h⟩
        cases after with
        | nil => exact h
        | cons e after => exact h.1
      · exact And.right
  | cons e before ih =>
      simp only [List.cons_append, Always, run_cons, ih, and_assoc]

theorem Always.first {I : σ → Prop} {s : σ} {events : List ε}
    (h : Always step I s events) : I s := by
  cases events with
  | nil => exact h
  | cons e events => exact h.1

theorem Always.last {I : σ → Prop} {s : σ} {events : List ε}
    (h : Always step I s events) : I (run step s events) := by
  have hsplit : Always step I s events ∧ Always step I (run step s events) [] :=
    always_append.mp (by simpa using h)
  exact hsplit.2

theorem Always.at {I : σ → Prop} {s : σ} {before after : List ε}
    (h : Always step I s (before ++ after)) : I (run step s before) :=
  (always_append.mp h).1.last

theorem always_iff {I : σ → Prop} {s : σ} {events : List ε} :
    Always step I s events ↔
      ∀ before after, events = before ++ after → I (run step s before) := by
  constructor
  · rintro h before after rfl
    exact h.at
  · intro h
    induction events generalizing s with
    | nil => exact h [] [] rfl
    | cons e events ih =>
        refine ⟨h [] (e :: events) rfl, ih ?_⟩
        rintro before after rfl
        exact h (e :: before) after rfl

theorem Always.mono {I J : σ → Prop} (hIJ : ∀ s, I s → J s) {s : σ}
    {events : List ε} (h : Always step I s events) : Always step J s events := by
  induction events generalizing s with
  | nil => exact hIJ s h
  | cons e events ih => exact ⟨hIJ s h.1, ih h.2⟩

theorem sometime_iff {P : σ → Prop} {s : σ} {events : List ε} :
    Sometime step P s events ↔
      ∃ before after, events = before ++ after ∧ P (run step s before) := by
  induction events generalizing s with
  | nil =>
      constructor
      · intro h
        exact ⟨[], [], rfl, h⟩
      · rintro ⟨before, after, heq, h⟩
        obtain ⟨rfl, rfl⟩ := List.append_eq_nil_iff.mp heq.symm
        exact h
  | cons e events ih =>
      constructor
      · rintro (h | h)
        · exact ⟨[], e :: events, rfl, h⟩
        · obtain ⟨before, after, rfl, hlater⟩ := ih.mp h
          exact ⟨e :: before, after, rfl, hlater⟩
      · rintro ⟨before, after, heq, h⟩
        cases before with
        | nil => exact .inl h
        | cons e' before =>
            obtain ⟨rfl, rfl⟩ := List.cons.inj heq
            exact .inr (ih.mpr ⟨before, after, rfl, h⟩)

/-! ## The steps of a run -/

theorem eachStep_append {Q : σ → ε → Prop} {s : σ} {before after : List ε} :
    EachStep step Q s (before ++ after) ↔
      EachStep step Q s before ∧ EachStep step Q (run step s before) after := by
  induction before generalizing s with
  | nil => simp [EachStep]
  | cons e before ih =>
      simp only [List.cons_append, EachStep, run_cons, ih, and_assoc]

theorem eachStep_event_iff {P : ε → Prop} {s : σ} {events : List ε} :
    EachStep step (fun _ e => P e) s events ↔ ∀ e ∈ events, P e := by
  induction events generalizing s with
  | nil => simp [EachStep]
  | cons e events ih => simp [EachStep, ih]

/-! ## Induction along a run -/

theorem always_of_step {I : σ → Prop} {Q : σ → ε → Prop}
    (hstep : ∀ s e, I s → Q s e → I (step s e)) {s : σ} {events : List ε}
    (h0 : I s) (hQ : EachStep step Q s events) : Always step I s events := by
  induction events generalizing s with
  | nil => exact h0
  | cons e events ih => exact ⟨h0, ih (hstep s e h0 hQ.1) hQ.2⟩

theorem run_invariant {I : σ → Prop} (hstep : ∀ s e, I s → I (step s e))
    {s : σ} (h0 : I s) (events : List ε) : I (run step s events) := by
  induction events generalizing s with
  | nil => exact h0
  | cons e events ih => exact ih (hstep s e h0)

theorem eachStep_of_always {I : σ → Prop} {Q : σ → ε → Prop}
    (hstep : ∀ s e, I s → I (step s e) → Q s e) {s : σ} {events : List ε}
    (h : Always step I s events) : EachStep step Q s events := by
  induction events generalizing s with
  | nil => trivial
  | cons e events ih => exact ⟨hstep s e h.1 h.2.first, ih h.2⟩

/-- Where an invariant says which steps keep `I`, a run keeps it by these steps alone. -/
theorem always_iff_eachStep {I J : σ → Prop} {Q : σ → ε → Prop}
    (hJ : ∀ s e, J s → J (step s e)) (hstep : ∀ s e, J s → I s → (I (step s e) ↔ Q s e))
    {s : σ} (h0 : J s) (events : List ε) :
    Always step I s events ↔ I s ∧ EachStep step Q s events := by
  induction events generalizing s with
  | nil => exact (and_iff_left trivial).symm
  | cons e events ih =>
      simp only [Always, EachStep]
      rw [ih (hJ s e h0)]
      refine and_congr_right fun hs => ?_
      rw [hstep s e h0 hs]

/--
A fact that holds at the end of a run and not at its start became true at some
step and has stayed true since.
-/
theorem exists_last_change {P : σ → Prop} {s : σ} {events : List ε}
    (h0 : ¬ P s) (h : P (run step s events)) :
    ∃ before e after, events = before ++ e :: after ∧
      ¬ P (run step s before) ∧
      Always step P (step (run step s before) e) after := by
  -- from the last event backwards, as long as the fact held before the event
  induction events using List.reverseRecOn with
  | nil => exact absurd h h0
  | append_singleton events e ih =>
      by_cases hprev : P (run step s events)
      · obtain ⟨before, e', after, rfl, hbefore, hafter⟩ := ih hprev
        refine ⟨before, e', after ++ [e], by simp, hbefore, ?_⟩
        refine always_append.mpr ⟨hafter, ?_⟩
        exact ⟨hafter.last, by simpa [Always] using h⟩
      · exact ⟨events, e, [], rfl, hprev, by simpa [Always] using h⟩

/-! ## Refinement -/

section Refinement

variable {ο α : Type*} (step) (observe : σ → ε → ο)

def trace : σ → List ε → List ο
  | _, [] => []
  | s, e :: events => observe s e :: trace (step s e) events

variable {step observe} {abstractStep : α → ο → α}

/-- A system that follows an abstract machine step by step follows it in every run. -/
theorem refines_run {R : σ → α → Prop}
    (hstep : ∀ s a e, R s a → R (step s e) (abstractStep a (observe s e)))
    {s : σ} {a : α} (h0 : R s a) (events : List ε) :
    R (run step s events) (run abstractStep a (trace step observe s events)) := by
  induction events generalizing s a with
  | nil => exact h0
  | cons e events ih => exact ih (hstep s a e h0)

end Refinement

section Following

variable {α : Type*} {abstractStep : α → ε → α}

/--
Where a system follows an abstract machine on the same events, a property of its
steps is one of the machine's steps.
-/
theorem eachStep_iff_of_follows {R : σ → α → Prop} {P : σ → ε → Prop} {Q : α → ε → Prop}
    (hstep : ∀ s a e, R s a → R (step s e) (abstractStep a e))
    (hPQ : ∀ s a e, R s a → (P s e ↔ Q a e)) {s : σ} {a : α} (h0 : R s a)
    (events : List ε) : EachStep step P s events ↔ EachStep abstractStep Q a events := by
  induction events generalizing s a with
  | nil => exact Iff.rfl
  | cons e events ih => exact and_congr (hPQ s a e h0) (ih (hstep s a e h0))

end Following

/-! ## Simulation -/

section Simulation

variable {τ δ : Type*} (step) (translate : σ → ε → List δ)

/-- The events of the abstract system that a run stands for. -/
def translated : σ → List ε → List δ
  | _, [] => []
  | s, e :: events => translate s e ++ translated (step s e) events

variable {step translate} {abstractStep : τ → δ → τ} {abs : σ → τ}

/-- A step may stand for any number of steps of the abstract system. -/
theorem run_translated
    (hstep : ∀ s e, abs (step s e) = run abstractStep (abs s) (translate s e))
    (s : σ) (events : List ε) :
    abs (run step s events) =
      run abstractStep (abs s) (translated step translate s events) := by
  induction events generalizing s with
  | nil => rfl
  | cons e events ih => rw [run_cons, ih, hstep, translated, run_append]

end Simulation

end DockerBastion.Foundation

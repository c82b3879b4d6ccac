import XMLPush.Lib.Run

/-!
# Machines that answer

A machine here is a step function `σ → ι → Except ε (α × σ)`: it answers each input, and
moves on or faults. What is seen of it from outside is `answers`: the answers up to the
fault, and the fault. Nothing in this file is about any particular machine.

**The simulation rule** (`Simulation.answers_eq`): two machines that answer alike out of
related states, and stay related, are seen alike — faults included — by every list of
inputs. Where the one comes to the end of its inputs the other does too, in a related state
(`Simulation.run_ok`), so what is known of the simple machine at the end of a run is known
of the other one.
-/

set_option autoImplicit false

namespace Machine

variable {σ τ α ι ε : Type}

/-- Two steps that end alike: with the same fault, or with the same answer in related
    states. -/
inductive Alike (R : σ → τ → Prop) : Except ε (α × σ) → Except ε (α × τ) → Prop where
  | error (fault : ε) : Alike R (.error fault) (.error fault)
  | ok (answer : α) {s : σ} {t : τ} (h : R s t) : Alike R (.ok (answer, s)) (.ok (answer, t))

/-- Related states stay related, and answer alike. -/
def Simulation (step : σ → ι → Except ε (α × σ)) (step' : τ → ι → Except ε (α × τ))
    (R : σ → τ → Prop) : Prop :=
  ∀ s t i, R s t → Alike R (step s i) (step' t i)

/-- The answers to the inputs in turn, and the fault that ends them. -/
def answers (step : σ → ι → Except ε (α × σ)) : σ → List ι → List α × Option ε
  | _, [] => ([], none)
  | s, i :: is =>
    match step s i with
    | .error fault => ([], some fault)
    | .ok (answer, t) =>
      (answer :: (answers step t is).1, (answers step t is).2)

/-- A machine whose answers nobody takes. -/
def unanswered (step : σ → ι → Except ε (α × σ)) (s : σ) (i : ι) : Except ε σ := do
  let (_, t) ← step s i
  return t

section Steps

variable {step : σ → ι → Except ε (α × σ)} {s t : σ} {i : ι}

theorem answers_cons_ok {answer : α} (h : step s i = .ok (answer, t)) (is : List ι) :
    answers step s (i :: is) = (answer :: (answers step t is).1, (answers step t is).2) := by
  simp only [answers, h]

theorem answers_cons_error {fault : ε} (h : step s i = .error fault) (is : List ι) :
    answers step s (i :: is) = ([], some fault) := by
  simp only [answers, h]

theorem unanswered_ok_iff :
    unanswered step s i = .ok t ↔ ∃ answer, step s i = .ok (answer, t) := by
  unfold unanswered
  cases h : step s i with
  | error fault =>
    constructor
    · intro hok
      cases hok
    · rintro ⟨answer, hok⟩
      cases hok
  | ok result =>
    obtain ⟨answer, u⟩ := result
    constructor
    · intro hok
      cases hok
      exact ⟨answer, rfl⟩
    · rintro ⟨answer', hok⟩
      cases hok
      rfl

end Steps

namespace Simulation

variable {step : σ → ι → Except ε (α × σ)} {step' : τ → ι → Except ε (α × τ)}
  {R : σ → τ → Prop} {s : σ} {t : τ}

/-- **The simulation rule.** -/
theorem answers_eq (h : Simulation step step' R) (hR : R s t) (is : List ι) :
    answers step s is = answers step' t is := by
  induction is generalizing s t with
  | nil => rfl
  | cons i is ih =>
    have halike := h s t i hR
    cases hs : step s i with
    | error fault =>
      rw [hs] at halike
      cases ht : step' t i with
      | error fault' =>
        rw [ht] at halike
        cases halike
        rw [answers_cons_error hs, answers_cons_error ht]
      | ok result =>
        rw [ht] at halike
        cases halike
    | ok result =>
      obtain ⟨answer, u⟩ := result
      rw [hs] at halike
      cases ht : step' t i with
      | error fault =>
        rw [ht] at halike
        cases halike
      | ok result =>
        obtain ⟨answer', v⟩ := result
        rw [ht] at halike
        cases halike with
        | ok _ hR' => rw [answers_cons_ok hs, answers_cons_ok ht, ih hR']

/-- A step the one machine takes, the other takes too. -/
theorem step_ok (h : Simulation step step' R) (hR : R s t) {i : ι} {answer : α} {u : σ}
    (hstep : step s i = .ok (answer, u)) : ∃ v, step' t i = .ok (answer, v) ∧ R u v := by
  have halike := h s t i hR
  rw [hstep] at halike
  cases ht : step' t i with
  | error fault =>
    rw [ht] at halike
    cases halike
  | ok result =>
    obtain ⟨answer', v⟩ := result
    rw [ht] at halike
    cases halike with
    | ok _ hR' => exact ⟨v, rfl, hR'⟩

/-- Where the one machine comes to the end, so does the other, and the ends are related. -/
theorem run_ok (h : Simulation step step' R) (hR : R s t) {is : List ι} {u : σ}
    (hrun : run (unanswered step) s is = .ok u) :
    ∃ v, run (unanswered step') t is = .ok v ∧ R u v := by
  induction is generalizing s t with
  | nil =>
    cases hrun
    exact ⟨t, rfl, hR⟩
  | cons i is ih =>
    obtain ⟨m, hm, hrest⟩ := run_cons_ok_iff.mp hrun
    obtain ⟨answer, hstep⟩ := unanswered_ok_iff.mp hm
    obtain ⟨m', hstep', hR'⟩ := h.step_ok hR hstep
    obtain ⟨v, hv, hRv⟩ := ih hR' hrest
    refine ⟨v, ?_, hRv⟩
    rw [run_cons_ok (unanswered_ok_iff.mpr ⟨answer, hstep'⟩)]
    exact hv

end Simulation

end Machine

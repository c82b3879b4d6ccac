import Mathlib.Data.List.Basic

/-!
# Runs of a machine that may fault

A machine here is a step function `σ → ι → Except ε σ`: it consumes one input at a
time and either moves on or faults, and a fault ends the run. `run` is that, over a list
of inputs. Nothing in this file is about any particular machine.

Four rules are what the file is for.

* **The invariant rule** (`run_invariant`): what one step preserves, a whole run
  preserves.
* **The fault rule** (`run_ne_error`): a fault no step it comes to can cause, a run cannot end
  in.
* **The erasure rule** (`run_map`): what no step looks at, a run does not look at.
* **The tracking rule** (`Tracks.run_eq`): a concrete machine whose states are the
  *image* of a total abstract machine, and whose faults are told by the abstract state
  alone, runs exactly as the abstract machine does — up to the first fault, and with
  that fault. This is stronger than a simulation relation: the concrete state is a
  *function* of the abstract one, so every question about a reachable concrete state is
  a computation on the abstract side.
-/

set_option autoImplicit false

namespace Machine

variable {σ α ι ε : Type*}

/-- Feed the inputs in order, stopping at the first fault. -/
def run (step : σ → ι → Except ε σ) : σ → List ι → Except ε σ
  | s, [] => .ok s
  | s, i :: is =>
    match step s i with
    | .ok t => run step t is
    | .error x => .error x

@[simp] theorem run_nil (step : σ → ι → Except ε σ) (s : σ) : run step s [] = .ok s := rfl

theorem run_cons_ok {step : σ → ι → Except ε σ} {s t : σ} {i : ι} (h : step s i = .ok t)
    (is : List ι) : run step s (i :: is) = run step t is := by
  simp only [run, h]

theorem run_cons_error {step : σ → ι → Except ε σ} {s : σ} {i : ι} {x : ε}
    (h : step s i = .error x) (is : List ι) : run step s (i :: is) = .error x := by
  simp only [run, h]

theorem run_cons_ok_iff {step : σ → ι → Except ε σ} {s u : σ} {i : ι} {is : List ι} :
    run step s (i :: is) = .ok u ↔ ∃ t, step s i = .ok t ∧ run step t is = .ok u := by
  cases h : step s i with
  | ok t => simp [run_cons_ok h]
  | error x => simp [run_cons_error h]

theorem run_append_ok {step : σ → ι → Except ε σ} {s t : σ} {is : List ι}
    (h : run step s is = .ok t) (js : List ι) : run step s (is ++ js) = run step t js := by
  induction is generalizing s with
  | nil =>
    cases h
    rfl
  | cons i is ih =>
    obtain ⟨m, hm, hrest⟩ := run_cons_ok_iff.mp h
    rw [List.cons_append, run_cons_ok hm]
    exact ih hrest

theorem run_append_error {step : σ → ι → Except ε σ} {s : σ} {x : ε} {is : List ι}
    (h : run step s is = .error x) (js : List ι) : run step s (is ++ js) = .error x := by
  induction is generalizing s with
  | nil => cases h
  | cons i is ih =>
    cases hstep : step s i with
    | error y =>
      rw [run_cons_error hstep] at h
      rw [List.cons_append, run_cons_error hstep, h]
    | ok t =>
      rw [run_cons_ok hstep] at h
      rw [List.cons_append, run_cons_ok hstep]
      exact ih h

theorem run_append_ok_iff {step : σ → ι → Except ε σ} {s u : σ} {is js : List ι} :
    run step s (is ++ js) = .ok u ↔ ∃ t, run step s is = .ok t ∧ run step t js = .ok u := by
  cases h : run step s is with
  | ok t => simp [run_append_ok h]
  | error x => simp [run_append_error h]

/-- Runs that come to the same end go on alike. -/
theorem run_append_congr {step : σ → ι → Except ε σ} {s : σ} {is js : List ι}
    (h : run step s is = run step s js) (ks : List ι) :
    run step s (is ++ ks) = run step s (js ++ ks) := by
  cases hj : run step s js with
  | ok t => rw [run_append_ok hj, run_append_ok (h.trans hj)]
  | error x => rw [run_append_error hj, run_append_error (h.trans hj)]

/-! ## The invariant rule -/

/-- What one step preserves, a run preserves. -/
theorem run_invariant {step : σ → ι → Except ε σ} {P : σ → Prop}
    (hstep : ∀ s i t, P s → step s i = .ok t → P t) {s u : σ} {is : List ι} (hs : P s)
    (h : run step s is = .ok u) : P u := by
  induction is generalizing s with
  | nil =>
    cases h
    exact hs
  | cons i is ih =>
    obtain ⟨t, ht, hrest⟩ := run_cons_ok_iff.mp h
    exact ih (hstep s i t hs ht) hrest

/-! ## The erasure rule -/

/-- **The erasure rule.** If a step on erased states and inputs is the step itself, erased, then a
    run is the run itself, erased: what erasing takes away has no effect on what is left. -/
theorem run_map {τ κ : Type*} {step : σ → ι → Except ε σ} {step' : τ → κ → Except ε τ}
    {f : σ → τ} {g : ι → κ} (hstep : ∀ s i, step' (f s) (g i) = (step s i).map f) (s : σ)
    (is : List ι) : run step' (f s) (is.map g) = (run step s is).map f := by
  induction is generalizing s with
  | nil => rfl
  | cons i is ih =>
    have hhead := hstep s i
    rw [List.map_cons]
    cases h : step s i with
    | ok t =>
      rw [h] at hhead
      rw [run_cons_ok hhead, run_cons_ok h]
      exact ih t
    | error x =>
      rw [h] at hhead
      rw [run_cons_error hhead, run_cons_error h]
      rfl

/-! ## Two computations in turn -/

/-- What two computations in turn return, the second returns, out of what the first did. -/
theorem bind_eq_ok {α β ε : Type} {m : Except ε α} {k : α → Except ε β} {b : β}
    (h : m >>= k = .ok b) : ∃ a, m = .ok a ∧ k a = .ok b := by
  cases m with
  | error x => cases h
  | ok a => exact ⟨a, rfl, h⟩

/-- What is left of a computation by a function is that function of what it returns. -/
theorem map_eq_ok {α β ε : Type} {m : Except ε α} {f : α → β} {b : β}
    (h : m.map f = .ok b) : ∃ a, m = .ok a ∧ f a = b := by
  cases m with
  | error x => cases h
  | ok a =>
    cases h
    exact ⟨a, rfl, rfl⟩

/-! ## Faults that cannot happen -/

theorem ok_ne_error {α ε : Type*} {a : α} {x : ε} : (.ok a : Except ε α) ≠ .error x := nofun

/-- A computation in two parts does not fault in a way neither part does. -/
theorem bind_ne_error {α β ε : Type} {m : Except ε α} {k : α → Except ε β} {x : ε}
    (hm : m ≠ .error x) (hk : ∀ a, k a ≠ .error x) : m >>= k ≠ .error x := by
  cases m with
  | error y => exact fun h => hm (congrArg Except.error (Except.error.inj h))
  | ok a => exact hk a

/-- A run does not fault in a way none of the steps it comes to does. -/
theorem run_ne_error {step : σ → ι → Except ε σ} {x : ε} {is : List ι} {s : σ}
    (hstep : ∀ earlier i later t, is = earlier ++ i :: later → run step s earlier = .ok t →
      step t i ≠ .error x) : run step s is ≠ .error x := by
  induction is generalizing s with
  | nil => exact ok_ne_error
  | cons i is ih =>
    cases hs : step s i with
    | error y =>
      rw [run_cons_error hs, ← hs]
      exact hstep [] i is s rfl rfl
    | ok t =>
      rw [run_cons_ok hs]
      apply ih
      rintro earlier j later u rfl hearlier
      exact hstep (i :: earlier) j later u rfl ((run_cons_ok hs earlier).trans hearlier)

/-! ## The tracking rule -/

/-- The concrete machine tracks the abstract one: out of the image of `a`, a step faults
    exactly when `fault a` says so, and otherwise lands on the image of `next a i`. -/
structure Tracks (step : σ → ι → Except ε σ) (image : α → σ) (next : α → ι → α)
    (fault : α → ι → Option ε) : Prop where
  faults : ∀ a i x, fault a i = some x → step (image a) i = .error x
  steps : ∀ a i, fault a i = none → step (image a) i = .ok (image (next a i))

/-- The first fault an abstract run meets, if it meets one. -/
def firstFault (next : α → ι → α) (fault : α → ι → Option ε) : α → List ι → Option ε
  | _, [] => none
  | a, i :: is =>
    match fault a i with
    | some x => some x
    | none => firstFault next fault (next a i) is

/-- **The tracking rule.** The concrete run is the image of the abstract one, up to the
    first fault the abstract state announces, and ends in that fault if there is one. -/
theorem Tracks.run_eq {step : σ → ι → Except ε σ} {image : α → σ} {next : α → ι → α}
    {fault : α → ι → Option ε} (h : Tracks step image next fault) (a : α) (is : List ι) :
    run step (image a) is =
      match firstFault next fault a is with
      | some x => .error x
      | none => .ok (image (is.foldl next a)) := by
  induction is generalizing a with
  | nil => rfl
  | cons i is ih =>
    cases hf : fault a i with
    | some x =>
      rw [run_cons_error (h.faults a i x hf)]
      simp only [firstFault, hf]
    | none =>
      rw [run_cons_ok (h.steps a i hf), ih]
      simp only [firstFault, hf, List.foldl_cons]

/-- Inputs in two parts meet no fault if neither part does. -/
theorem firstFault_append {next : α → ι → α} {fault : α → ι → Option ε} {a : α}
    {is js : List ι} : firstFault next fault a (is ++ js) = none ↔
      firstFault next fault a is = none ∧ firstFault next fault (is.foldl next a) js = none := by
  induction is generalizing a with
  | nil => exact ⟨fun h => ⟨rfl, h⟩, And.right⟩
  | cons i is ih =>
    cases hf : fault a i with
    | some x => simp [firstFault, hf]
    | none =>
      simp only [List.cons_append, firstFault, hf, List.foldl_cons]
      exact ih

/-- The first fault is the first event that is one. -/
theorem firstFault_eq_some_iff {next : α → ι → α} {fault : α → ι → Option ε} {a : α}
    {is : List ι} {x : ε} : firstFault next fault a is = some x ↔
      ∃ pre i post, is = pre ++ i :: post ∧ firstFault next fault a pre = none ∧
        fault (pre.foldl next a) i = some x := by
  induction is generalizing a with
  | nil =>
    constructor
    · intro h
      cases h
    · rintro ⟨pre, i, post, hsplit, -⟩
      simp at hsplit
  | cons i is ih =>
    cases hf : fault a i with
    | some y =>
      simp only [firstFault, hf]
      constructor
      · intro h
        exact ⟨[], i, is, rfl, rfl, hf.trans h⟩
      · rintro ⟨pre, j, post, hsplit, hnone, hfault⟩
        cases pre with
        | nil =>
          obtain ⟨rfl, -⟩ := List.cons.inj hsplit
          exact hf.symm.trans hfault
        | cons k pre =>
          obtain ⟨rfl, -⟩ := List.cons.inj hsplit
          simp only [firstFault, hf] at hnone
          cases hnone
    | none =>
      simp only [firstFault, hf]
      rw [ih]
      constructor
      · rintro ⟨pre, j, post, rfl, hnone, hfault⟩
        refine ⟨i :: pre, j, post, rfl, ?_, hfault⟩
        simp only [firstFault, hf]
        exact hnone
      · rintro ⟨pre, j, post, hsplit, hnone, hfault⟩
        cases pre with
        | nil =>
          obtain ⟨rfl, -⟩ := List.cons.inj hsplit
          rw [List.foldl_nil, hf] at hfault
          cases hfault
        | cons k pre =>
          obtain ⟨rfl, rfl⟩ := List.cons.inj hsplit
          simp only [firstFault, hf] at hnone
          exact ⟨pre, j, post, rfl, hnone, hfault⟩

theorem Tracks.run_ok_iff {step : σ → ι → Except ε σ} {image : α → σ} {next : α → ι → α}
    {fault : α → ι → Option ε} (h : Tracks step image next fault) {a : α} {is : List ι}
    {s : σ} : run step (image a) is = .ok s ↔
      firstFault next fault a is = none ∧ s = image (is.foldl next a) := by
  rw [h.run_eq]
  cases firstFault next fault a is with
  | some x => simp
  | none => simp [eq_comm]

end Machine

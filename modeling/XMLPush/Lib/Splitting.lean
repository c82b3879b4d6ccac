import XMLPush.Lib.Run

/-!
# Streams up to the splitting of their text

A reader that is fed a document in pieces may be handed one run of text as several
adjacent text tokens, cut anywhere. `Resplit text` is the relation that forgets it: the
least equivalence that lets one text token stand for two adjacent ones with the same
bytes, anywhere in the stream. Every other token has to be the same on both sides, in
the same order.

A machine that consumes a text in two halves as it consumes it whole cannot tell
resplit streams apart (`Resplit.run_eq`), and neither can anything read off the other
tokens (`Resplit.filterMap_eq`).
-/

set_option autoImplicit false

namespace Splitting

open Machine

variable {β τ τ' σ ε γ : Type*}

/-- Two streams differ only in where their runs of text are cut. -/
inductive Resplit (text : List β → τ) : List τ → List τ → Prop where
  | refl (xs : List τ) : Resplit text xs xs
  | symm {xs ys : List τ} : Resplit text xs ys → Resplit text ys xs
  | trans {xs ys zs : List τ} : Resplit text xs ys → Resplit text ys zs → Resplit text xs zs
  | split (pre post : List τ) (a b : List β) :
      Resplit text (pre ++ text (a ++ b) :: post) (pre ++ text a :: text b :: post)

/-- The step consumes a text in two halves as it consumes it whole. -/
def Additive (text : List β → τ) (step : σ → τ → Except ε σ) : Prop :=
  ∀ s a b, step s (text (a ++ b)) = run step s [text a, text b]

/-- **A machine that is additive in the text cannot tell resplit streams apart.** -/
theorem Resplit.run_eq {text : List β → τ} {step : σ → τ → Except ε σ}
    (hadd : Additive text step) {xs ys : List τ} (h : Resplit text xs ys) (s : σ) :
    run step s xs = run step s ys := by
  induction h with
  | refl xs => rfl
  | symm _ ih => exact ih.symm
  | trans _ _ ih₁ ih₂ => exact ih₁.trans ih₂
  | split pre post a b =>
    cases hpre : run step s pre with
    | error x => rw [run_append_error hpre, run_append_error hpre]
    | ok t =>
      rw [run_append_ok hpre, run_append_ok hpre]
      rw [show text a :: text b :: post = [text a, text b] ++ post from rfl]
      cases hab : run step t [text a, text b] with
      | ok u =>
        rw [run_append_ok hab, run_cons_ok ((hadd t a b).trans hab)]
      | error x =>
        rw [run_append_error hab, run_cons_error ((hadd t a b).trans hab)]

/-- What is read off the tokens that are no text is the same on both sides. -/
theorem Resplit.filterMap_eq {text : List β → τ} {f : τ → Option γ}
    (hf : ∀ a, f (text a) = none) {xs ys : List τ} (h : Resplit text xs ys) :
    xs.filterMap f = ys.filterMap f := by
  induction h with
  | refl xs => rfl
  | symm _ ih => exact ih.symm
  | trans _ _ ih₁ ih₂ => exact ih₁.trans ih₂
  | split pre post a b => simp [List.filterMap_append, hf]

/-- Reading the tokens one by one, with texts read as texts, keeps streams resplit. -/
theorem Resplit.filterMap {text : List β → τ} {text' : List β → τ'} {f : τ → Option τ'}
    (hf : ∀ a, f (text a) = some (text' a)) {xs ys : List τ} (h : Resplit text xs ys) :
    Resplit text' (xs.filterMap f) (ys.filterMap f) := by
  induction h with
  | refl xs => exact .refl _
  | symm _ ih => exact ih.symm
  | trans _ _ ih₁ ih₂ => exact ih₁.trans ih₂
  | split pre post a b =>
    simp only [List.filterMap_append, List.filterMap_cons, hf]
    exact .split _ _ a b

end Splitting

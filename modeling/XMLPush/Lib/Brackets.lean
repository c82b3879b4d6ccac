import Mathlib.Data.List.Basic

/-!
# Brackets that carry no name

A sequence of symbols some of which open and some of which close. Without names there is
nothing for a closing symbol to match but the innermost opening that is still unclosed, so
a reader needs a stack of those (`unclosed`), or, if all it wants to know is whether a closing
symbol ever finds none, their number (`depth`).

Pairs can be taken out of such a sequence: `kept` leaves out the openings that are marked
and what closes them, and what it leaves is balanced if the whole was.
-/

set_option autoImplicit false

namespace Brackets

variable {α : Type*}

/-- What a symbol is to the reader. -/
inductive Kind where
  | opening
  | closing
  | other
  deriving DecidableEq, Repr

/-- How far a symbol raises the depth. -/
def Kind.rise : Kind → Int
  | .opening => 1
  | .closing => -1
  | .other => 0

@[simp] theorem Kind.rise_opening : Kind.opening.rise = 1 := rfl
@[simp] theorem Kind.rise_closing : Kind.closing.rise = -1 := rfl
@[simp] theorem Kind.rise_other : Kind.other.rise = 0 := rfl

variable (kind : α → Kind)

/-- How far the symbols of a sequence raise the depth together. -/
def height : List α → Int
  | [] => 0
  | x :: xs => (kind x).rise + height xs

/-- The depth after a symbol. -/
def depthStep (n : Nat) (x : α) : Option Nat :=
  match kind x, n with
  | .opening, n => some (n + 1)
  | .closing, 0 => none
  | .closing, n + 1 => some n
  | .other, n => some n

/-- The depth after a sequence; `none` as soon as a closing symbol finds nothing to close. -/
def depth (n : Nat) (xs : List α) : Option Nat := xs.foldlM (depthStep kind) n

/-- The unclosed openings after a symbol. -/
def unclosedStep (opened : List α) (x : α) : Option (List α) :=
  match kind x with
  | .opening => some (x :: opened)
  | .closing => opened.tail?
  | .other => some opened

/-- The unclosed openings after a sequence, innermost first. -/
def unclosed (opened xs : List α) : Option (List α) := xs.foldlM (unclosedStep kind) opened

/-- Every closing symbol closes something. -/
def Balanced (xs : List α) : Prop := (depth kind 0 xs).isSome

/-- …and nothing is left unclosed. -/
def Complete (xs : List α) : Prop := unclosed kind [] xs = some []

instance (xs : List α) : Decidable (Balanced kind xs) := inferInstanceAs (Decidable (_ = true))

instance [DecidableEq α] (xs : List α) : Decidable (Complete kind xs) :=
  inferInstanceAs (Decidable (_ = _))

variable {kind}

/-! ## Depth -/

@[simp] theorem height_nil : height kind [] = 0 := rfl
@[simp] theorem height_cons (x : α) (xs : List α) :
    height kind (x :: xs) = (kind x).rise + height kind xs := rfl

theorem height_append (xs ys : List α) :
    height kind (xs ++ ys) = height kind xs + height kind ys := by
  induction xs with
  | nil => simp
  | cons x xs ih =>
    rw [List.cons_append, height_cons, height_cons, ih, Int.add_assoc]

theorem depth_cons (n : Nat) (x : α) (xs : List α) :
    depth kind n (x :: xs) = (depthStep kind n x).bind (depth kind · xs) := rfl

theorem depth_append (n : Nat) (xs ys : List α) :
    depth kind n (xs ++ ys) = (depth kind n xs).bind (depth kind · ys) := List.foldlM_append

theorem depthStep_rise {n m : Nat} {x : α} (h : depthStep kind n x = some m) :
    (m : Int) = n + (kind x).rise := by
  unfold depthStep at h
  cases hkind : kind x with
  | opening =>
    rw [hkind] at h
    cases h
    rfl
  | closing =>
    rw [hkind] at h
    cases n with
    | zero => cases h
    | succ n =>
      cases h
      rw [Kind.rise_closing]
      omega
  | other =>
    rw [hkind] at h
    cases h
    exact (Int.add_zero _).symm

/-- The depth is raised by what the symbols raise it. -/
theorem depth_height {n m : Nat} {xs : List α} (h : depth kind n xs = some m) :
    (m : Int) = n + height kind xs := by
  induction xs generalizing n with
  | nil =>
    cases h
    simp
  | cons x xs ih =>
    rw [depth_cons] at h
    obtain ⟨k, hstep, hrest⟩ := Option.bind_eq_some_iff.mp h
    rw [ih hrest, depthStep_rise hstep, height_cons, Int.add_assoc]

/-! ## Unclosed openings -/

theorem unclosed_append (opened xs ys : List α) :
    unclosed kind opened (xs ++ ys) = (unclosed kind opened xs).bind (unclosed kind · ys) :=
  List.foldlM_append

theorem unclosed_concat (opened xs : List α) (x : α) :
    unclosed kind opened (xs ++ [x]) = (unclosed kind opened xs).bind (unclosedStep kind · x) := by
  rw [unclosed_append]
  refine congrArg (Option.bind _) (funext fun us => ?_)
  simp [unclosed]

theorem depthStep_length (opened : List α) (x : α) :
    depthStep kind opened.length x = (unclosedStep kind opened x).map List.length := by
  unfold depthStep unclosedStep
  cases kind x with
  | opening => rfl
  | closing => cases opened <;> rfl
  | other => rfl

/-- The depth is the number of unclosed openings. -/
theorem depth_length (opened xs : List α) :
    depth kind opened.length xs = (unclosed kind opened xs).map List.length := by
  induction xs generalizing opened with
  | nil => rfl
  | cons x xs ih =>
    rw [depth_cons, depthStep_length, unclosed, List.foldlM_cons]
    cases unclosedStep kind opened x with
    | none => rfl
    | some us => exact ih us

theorem depth_of_unclosed {opened opened' xs : List α}
    (h : unclosed kind opened xs = some opened') :
    depth kind opened.length xs = some opened'.length := by
  rw [depth_length, h]
  rfl

theorem balanced_iff {xs : List α} :
    Balanced kind xs ↔ ∃ opened, unclosed kind [] xs = some opened := by
  have h : depth kind 0 xs = _ := depth_length [] xs
  unfold Balanced
  rw [h, Option.isSome_map]
  exact Option.isSome_iff_exists

theorem Balanced.of_append {xs ys : List α} (h : Balanced kind (xs ++ ys)) : Balanced kind xs := by
  unfold Balanced at h ⊢
  rw [depth_append] at h
  cases hx : depth kind 0 xs with
  | none =>
    rw [hx] at h
    cases h
  | some n => rfl

theorem Balanced.of_isPrefix {xs ys : List α} (h : Balanced kind ys) (hpart : xs <+: ys) :
    Balanced kind xs := by
  obtain ⟨zs, rfl⟩ := hpart
  exact h.of_append

/-- A complete sequence raises the depth by nothing. -/
theorem Complete.height {xs : List α} (h : Complete kind xs) : height kind xs = 0 := by
  have hdepth := depth_height (depth_of_unclosed h)
  rw [List.length_nil] at hdepth
  omega

theorem unclosedStep_frame {opened us : List α} (base : List α) {x : α}
    (h : unclosedStep kind opened x = some us) :
    unclosedStep kind (opened ++ base) x = some (us ++ base) := by
  unfold unclosedStep at h ⊢
  cases hkind : kind x with
  | opening =>
    rw [hkind] at h
    cases h
    rfl
  | closing =>
    rw [hkind] at h
    cases opened with
    | nil => cases h
    | cons top opened =>
      cases h
      rfl
  | other =>
    rw [hkind] at h
    cases h
    rfl

/-- What is unclosed around a sequence stays so, if the sequence closes only its own. -/
theorem unclosed_frame {opened us xs : List α} (base : List α)
    (h : unclosed kind opened xs = some us) :
    unclosed kind (opened ++ base) xs = some (us ++ base) := by
  induction xs generalizing opened with
  | nil =>
    cases h
    rfl
  | cons x xs ih =>
    rw [unclosed, List.foldlM_cons] at h ⊢
    obtain ⟨vs, hstep, hrest⟩ := Option.bind_eq_some_iff.mp h
    rw [unclosedStep_frame base hstep]
    exact ih hrest

theorem Complete.unclosed {xs : List α} (h : Complete kind xs) (opened : List α) :
    unclosed kind opened xs = some opened := unclosed_frame opened h

theorem Complete.append {xs ys : List α} (hx : Complete kind xs) (hy : Complete kind ys) :
    Complete kind (xs ++ ys) := by
  unfold Complete
  rw [unclosed_append, hx]
  exact hy

/-- A pair of brackets around a complete sequence. -/
theorem Complete.pair {xs : List α} (h : Complete kind xs) {x y : α} (hx : kind x = .opening)
    (hy : kind y = .closing) : Complete kind (x :: (xs ++ [y])) := by
  have hopen : Brackets.unclosed kind [] [x] = some [x] := by
    simp [Brackets.unclosed, unclosedStep, hx]
  unfold Complete
  rw [← List.singleton_append, unclosed_append, hopen, Option.bind_some, unclosed_concat, h.unclosed]
  simp [unclosedStep, hy]

/-- An opening stays the innermost unclosed one over a complete sequence. -/
theorem unclosed_opening {xs ys opened : List α} {x : α} (h : unclosed kind [] xs = some opened)
    (hx : kind x = .opening) (hys : Complete kind ys) :
    unclosed kind [] (xs ++ x :: ys) = some (x :: opened) := by
  rw [unclosed_append, h, Option.bind_some, unclosed, List.foldlM_cons]
  have hstep : unclosedStep kind opened x = some (x :: opened) := by
    simp only [unclosedStep, hx]
  rw [hstep]
  exact hys.unclosed (x :: opened)

/-- The innermost unclosed opening takes the sequence apart: what stands before it, and what
    stands behind it, all closed. The induction is on the length, since a closing symbol at the
    end uncovers an opening further to the left. -/
theorem exists_of_unclosed {xs opened : List α} {x : α}
    (h : unclosed kind [] xs = some (x :: opened)) :
    ∃ before inner, xs = before ++ x :: inner ∧ kind x = .opening ∧
      unclosed kind [] before = some opened ∧ Complete kind inner := by
  induction hn : xs.length using Nat.strongRecOn generalizing xs opened x with
  | ind n ih =>
    rcases List.eq_nil_or_concat xs with rfl | ⟨ys, y, rfl⟩
    · cases h
    · rw [List.concat_eq_append] at h hn ⊢
      rw [List.length_append] at hn
      rw [unclosed_concat] at h
      obtain ⟨us, hus, hstep⟩ := Option.bind_eq_some_iff.mp h
      unfold unclosedStep at hstep
      cases hkind : kind y with
      | opening =>
        rw [hkind] at hstep
        cases hstep
        exact ⟨ys, [], rfl, hkind, hus, rfl⟩
      | other =>
        rw [hkind] at hstep
        cases hstep
        obtain ⟨before, inner, rfl, hopening, hbefore, hinner⟩ := ih _ (by simp at hn; omega) hus rfl
        refine ⟨before, inner ++ [y], by simp, hopening, hbefore, ?_⟩
        unfold Complete at hinner ⊢
        rw [unclosed_concat, hinner]
        simp [unclosedStep, hkind]
      | closing =>
        rw [hkind] at hstep
        cases us with
        | nil => cases hstep
        | cons top us =>
          cases hstep
          -- `y` closes `top`; `x` is the innermost opening that was unclosed before it.
          obtain ⟨before₁, inner₁, rfl, htop, hbefore₁, hinner₁⟩ :=
            ih _ (by simp at hn; omega) hus rfl
          obtain ⟨before, inner, rfl, hopening, hbefore, hinner⟩ :=
            ih _ (by simp at hn; omega) hbefore₁ rfl
          exact ⟨before, inner ++ top :: (inner₁ ++ [y]), by simp, hopening, hbefore,
            hinner.append (hinner₁.pair htop hkind)⟩

/-! ## Leaving pairs out -/

variable (kind) (marked : α → Bool)

/-- The symbol is an opening that is marked, or closes one. -/
def drops (opened : List α) (x : α) : Bool :=
  match kind x with
  | .opening => marked x
  | .closing => opened.head?.any marked
  | .other => false

/-- The sequence without the marked openings and the symbols that close them. -/
def kept : List α → List α → List α
  | _, [] => []
  | opened, x :: xs =>
    let rest := kept ((unclosedStep kind opened x).getD opened) xs
    if drops kind marked opened x then rest else x :: rest

variable {kind marked}

theorem kept_cons_of_drops {opened us xs : List α} {x : α}
    (hstep : unclosedStep kind opened x = some us) (hdrops : drops kind marked opened x = true) :
    kept kind marked opened (x :: xs) = kept kind marked us xs := by
  simp only [kept, if_pos hdrops, hstep, Option.getD_some]

theorem kept_cons_of_not_drops {opened us xs : List α} {x : α}
    (hstep : unclosedStep kind opened x = some us) (hdrops : ¬ drops kind marked opened x = true) :
    kept kind marked opened (x :: xs) = x :: kept kind marked us xs := by
  simp only [kept, if_neg hdrops, hstep, Option.getD_some]

theorem kept_append {opened us xs : List α} (h : unclosed kind opened xs = some us)
    (ys : List α) :
    kept kind marked opened (xs ++ ys) = kept kind marked opened xs ++ kept kind marked us ys := by
  induction xs generalizing opened with
  | nil =>
    cases h
    rfl
  | cons x xs ih =>
    rw [unclosed, List.foldlM_cons] at h
    obtain ⟨vs, hstep, hrest⟩ := Option.bind_eq_some_iff.mp h
    rw [List.cons_append]
    by_cases hdrops : drops kind marked opened x = true
    · rw [kept_cons_of_drops hstep hdrops, kept_cons_of_drops hstep hdrops]
      exact ih hrest
    · rw [kept_cons_of_not_drops hstep hdrops, kept_cons_of_not_drops hstep hdrops]
      exact congrArg _ (ih hrest)

theorem kept_concat {opened us vs xs : List α} {x : α} (h : unclosed kind opened xs = some us)
    (hstep : unclosedStep kind us x = some vs) :
    kept kind marked opened (xs ++ [x]) =
      kept kind marked opened xs ++ if drops kind marked us x then [] else [x] := by
  rw [kept_append h]
  by_cases hdrops : drops kind marked us x = true
  · rw [kept_cons_of_drops hstep hdrops, if_pos hdrops]
    rfl
  · rw [kept_cons_of_not_drops hstep hdrops, if_neg hdrops]
    rfl

/-- What is dropped is a marked opening, or closes one. -/
theorem drops_cases {opened : List α} {x : α} (h : drops kind marked opened x = true) :
    (kind x = .opening ∧ marked x = true) ∨
      kind x = .closing ∧ ∃ top outer, opened = top :: outer ∧ marked top = true := by
  unfold drops at h
  cases hkind : kind x with
  | opening =>
    rw [hkind] at h
    exact Or.inl ⟨rfl, h⟩
  | closing =>
    rw [hkind] at h
    cases opened with
    | nil => cases h
    | cons top outer => exact Or.inr ⟨rfl, top, outer, rfl, h⟩
  | other =>
    rw [hkind] at h
    cases h

/-- One symbol does to the openings that are not marked what it does to all of them, or
    nothing if it is dropped. -/
theorem unclosedStep_filter (marked : α → Bool) {opened us : List α} {x : α}
    (hstep : unclosedStep kind opened x = some us) :
    if drops kind marked opened x then
      us.filter (!marked ·) = opened.filter (!marked ·)
    else unclosedStep kind (opened.filter (!marked ·)) x = some (us.filter (!marked ·)) := by
  unfold unclosedStep drops at *
  cases hkind : kind x with
  | opening =>
    rw [hkind] at hstep
    cases hstep
    by_cases hmark : marked x = true
    · simp [hmark]
    · simp [hmark]
  | closing =>
    rw [hkind] at hstep
    cases opened with
    | nil => cases hstep
    | cons top opened =>
      -- `x` closes `top`: if that is marked, neither is seen.
      cases hstep
      by_cases hmark : marked top = true
      · simp [hmark]
      · simp [hmark]
  | other =>
    rw [hkind] at hstep
    cases hstep
    simp

/-- What is kept leaves unclosed what the whole does, but for the marked openings. -/
theorem unclosed_kept {opened us xs : List α} (h : unclosed kind opened xs = some us) :
    unclosed kind (opened.filter (!marked ·)) (kept kind marked opened xs) =
      some (us.filter (!marked ·)) := by
  induction xs generalizing opened with
  | nil =>
    cases h
    rfl
  | cons x xs ih =>
    rw [unclosed, List.foldlM_cons] at h
    obtain ⟨vs, hstep, hrest⟩ := Option.bind_eq_some_iff.mp h
    have hfilter := unclosedStep_filter marked hstep
    by_cases hdrops : drops kind marked opened x = true
    · rw [if_pos hdrops] at hfilter
      rw [kept_cons_of_drops hstep hdrops, ← hfilter]
      exact ih hrest
    · rw [if_neg hdrops] at hfilter
      rw [kept_cons_of_not_drops hstep hdrops, unclosed, List.foldlM_cons, hfilter]
      exact ih hrest

/-- No marked opening is kept. -/
theorem not_marked_of_mem_kept {opened xs : List α} {x : α} (h : x ∈ kept kind marked opened xs)
    (hx : kind x = .opening) : marked x = false := by
  induction xs generalizing opened with
  | nil => cases h
  | cons y xs ih =>
    simp only [kept] at h
    split at h
    · exact ih h
    · rename_i hdrops
      rcases List.mem_cons.mp h with rfl | h
      · simpa [drops, hx] using hdrops
      · exact ih h

end Brackets

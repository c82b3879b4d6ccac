import Mathlib.Data.List.Basic
import XMLPush.Lib.Brackets

/-!
# Tagged streams and the trees they spell

A tagged stream is a list of tokens: a tag opens under a name, text arrives, a tag
closes. Read left to right, the only thing that has to be remembered is the list of
names still open; `openNames` is that reader, and it refuses a closing tag that does
not match the innermost open one.

The same streams have a second description, as the token lists of ordered forests.
`complete_iff_exists_forest` says the two agree: a stream the reader accepts with
nothing left open *is* the serialisation of a forest. So a property of every complete
stream may be proved by induction on the forest, and one of every prefix by induction
on the stream.
-/

set_option autoImplicit false

namespace Nesting

variable {N A B : Type*}

/-- One token of a tagged stream. -/
inductive Token (N A B : Type*) where
  | opening (name : N) (attributes : A)
  | text (bytes : List B)
  | closing (name : N)
  deriving DecidableEq, Repr

/-- The text of a stream, in order. -/
def textOf : List (Token N A B) → List B
  | [] => []
  | .text bytes :: ts => bytes ++ textOf ts
  | .opening _ _ :: ts => textOf ts
  | .closing _ :: ts => textOf ts

theorem textOf_append (xs ys : List (Token N A B)) :
    textOf (xs ++ ys) = textOf xs ++ textOf ys := by
  induction xs with
  | nil => rfl
  | cons t ts ih => cases t <;> simp [textOf, ih]

/-- An ordered forest: text and named nodes, first child and next sibling. -/
inductive Forest (N A B : Type*) where
  | nil
  | text (bytes : List B) (rest : Forest N A B)
  | node (name : N) (attributes : A) (content rest : Forest N A B)
  deriving DecidableEq, Repr

namespace Forest

/-- The stream that spells a forest. -/
def tokens : Forest N A B → List (Token N A B)
  | .nil => []
  | .text bytes rest => .text bytes :: rest.tokens
  | .node name attributes content rest =>
    .opening name attributes :: (content.tokens ++ .closing name :: rest.tokens)

/-- All the text of a forest, at every depth, in order. -/
def allText : Forest N A B → List B
  | .nil => []
  | .text bytes rest => bytes ++ rest.allText
  | .node _ _ content rest => content.allText ++ rest.allText

end Forest

/-! ## The reader of open names -/

variable [DecidableEq N]

/-- The names open after a stream, innermost first; `none` as soon as a closing tag does
    not match the innermost open one. -/
def openNames : List N → List (Token N A B) → Option (List N)
  | opened, [] => some opened
  | opened, .opening name _ :: ts => openNames (name :: opened) ts
  | opened, .text _ :: ts => openNames opened ts
  | [], .closing _ :: _ => none
  | top :: opened, .closing name :: ts => if name = top then openNames opened ts else none

/-- Every closing tag matches: the stream is a complete one, cut off anywhere. -/
def WellNested (ts : List (Token N A B)) : Prop := (openNames [] ts).isSome

/-- Every closing tag matches and none is missing. -/
def Complete (ts : List (Token N A B)) : Prop := openNames [] ts = some []

instance (ts : List (Token N A B)) : Decidable (WellNested ts) :=
  inferInstanceAs (Decidable (_ = true))

instance (ts : List (Token N A B)) : Decidable (Complete ts) :=
  inferInstanceAs (Decidable (_ = _))

theorem Complete.wellNested {ts : List (Token N A B)} (h : Complete ts) : WellNested ts := by
  unfold WellNested
  rw [h]
  rfl

theorem openNames_append (opened : List N) (xs ys : List (Token N A B)) :
    openNames opened (xs ++ ys) = (openNames opened xs).bind (openNames · ys) := by
  fun_induction openNames opened xs with
  | case1 opened => rfl
  | case2 opened name attributes ts ih => simpa [openNames] using ih
  | case3 opened bytes ts ih => simpa [openNames] using ih
  | case4 name ts => rfl
  | case5 opened name ts ih => simpa [openNames] using ih
  | case6 top opened name ts hne => simp [openNames, hne]

/-- What is well nested is well nested at every earlier point. -/
theorem WellNested.of_append {xs ys : List (Token N A B)} (h : WellNested (xs ++ ys)) :
    WellNested xs := by
  unfold WellNested at h ⊢
  rw [openNames_append] at h
  cases hx : openNames [] xs with
  | none => rw [hx] at h; simp at h
  | some opened => rfl

/-! ### Without the names -/

/-- What a token is, whatever its name. -/
def Token.kind : Token N A B → Brackets.Kind
  | .opening _ _ => .opening
  | .text _ => .other
  | .closing _ => .closing

omit [DecidableEq N] in
theorem depth_opening (n : Nat) (name : N) (attributes : A) (ts : List (Token N A B)) :
    Brackets.depth Token.kind n (.opening name attributes :: ts) =
      Brackets.depth Token.kind (n + 1) ts := rfl

omit [DecidableEq N] in
theorem depth_text (n : Nat) (bytes : List B) (ts : List (Token N A B)) :
    Brackets.depth Token.kind n (.text bytes :: ts) = Brackets.depth Token.kind n ts := rfl

omit [DecidableEq N] in
theorem depth_closing_zero (name : N) (ts : List (Token N A B)) :
    Brackets.depth Token.kind 0 (.closing name :: ts) = none := rfl

omit [DecidableEq N] in
theorem depth_closing_succ (n : Nat) (name : N) (ts : List (Token N A B)) :
    Brackets.depth Token.kind (n + 1) (.closing name :: ts) = Brackets.depth Token.kind n ts := rfl

/-- Tags that match by their names match as brackets. -/
theorem depth_of_openNames {opened opened' : List N} {ts : List (Token N A B)}
    (h : openNames opened ts = some opened') :
    Brackets.depth Token.kind opened.length ts = some opened'.length := by
  fun_induction openNames opened ts with
  | case1 opened =>
    cases h
    rfl
  | case2 opened name attributes ts ih => exact ih h
  | case3 opened bytes ts ih => exact ih h
  | case4 name ts => cases h
  | case5 opened name ts ih => exact ih h
  | case6 top opened name ts hne => cases h

theorem WellNested.balanced {ts : List (Token N A B)} (h : WellNested ts) :
    Brackets.Balanced Token.kind ts := by
  obtain ⟨opened, hopened⟩ := Option.isSome_iff_exists.mp h
  exact Option.isSome_iff_exists.mpr ⟨_, depth_of_openNames hopened⟩

/-! ### Forests -/

/-- A forest's stream leaves the open names as it found them. -/
theorem openNames_tokens (f : Forest N A B) (opened : List N) (ts : List (Token N A B)) :
    openNames opened (f.tokens ++ ts) = openNames opened ts := by
  induction f generalizing opened ts with
  | nil => rfl
  | text bytes rest ih => simpa [Forest.tokens, openNames] using ih opened ts
  | node name attributes content rest ihc ihr =>
    rw [Forest.tokens, List.cons_append, List.append_assoc, List.cons_append, openNames, ihc,
      openNames, if_pos rfl, ihr]

theorem Forest.complete_tokens (f : Forest N A B) : Complete f.tokens := by
  have h := openNames_tokens f [] []
  rw [List.append_nil] at h
  exact h

/-- The stream read from the names `opened` splits at the tags that close them: a forest
    before each, and, if nothing is left open at the end, a forest after the last. The
    induction is on the stream, and `opened` is what it needs to be about. -/
theorem exists_forest_of_openNames : ∀ (ts : List (Token N A B)) (opened : List N),
    openNames opened ts = some [] →
      (opened = [] → ∃ f : Forest N A B, ts = f.tokens) ∧
      ∀ top rest, opened = top :: rest → ∃ (f : Forest N A B) (us : List (Token N A B)),
        ts = f.tokens ++ .closing top :: us ∧ openNames rest us = some [] := by
  intro ts
  induction h : ts.length using Nat.strongRecOn generalizing ts with
  | ind n ih =>
    intro opened hopen
    cases ts with
    | nil =>
      simp only [openNames, Option.some.injEq] at hopen
      subst hopen
      exact ⟨fun _ => ⟨.nil, rfl⟩, fun top rest heq => absurd heq (by simp)⟩
    | cons t ts =>
      have hlen : ts.length < n := by rw [← h]; simp
      cases t with
      | text bytes =>
        simp only [openNames] at hopen
        obtain ⟨hnil, hcons⟩ := ih _ hlen ts rfl opened hopen
        refine ⟨fun heq => ?_, fun top rest heq => ?_⟩
        · obtain ⟨f, hf⟩ := hnil heq
          exact ⟨.text bytes f, by rw [hf, Forest.tokens]⟩
        · obtain ⟨f, us, hf, hus⟩ := hcons top rest heq
          exact ⟨.text bytes f, us, by rw [hf, Forest.tokens, List.cons_append], hus⟩
      | closing name =>
        cases opened with
        | nil => simp [openNames] at hopen
        | cons top rest =>
          simp only [openNames] at hopen
          by_cases hname : name = top
          · rw [if_pos hname] at hopen
            refine ⟨fun heq => absurd heq (by simp), fun top' rest' heq => ?_⟩
            obtain ⟨rfl, rfl⟩ := List.cons.inj heq
            exact ⟨.nil, ts, by rw [hname]; rfl, hopen⟩
          · rw [if_neg hname] at hopen
            exact absurd hopen (by simp)
      | opening name attributes =>
        simp only [openNames] at hopen
        -- The node's own content ends at the first tag that closes it; what follows is read
        -- from the names that were open before it.
        obtain ⟨content, us, hts, hus⟩ := (ih _ hlen ts rfl (name :: opened) hopen).2 name opened rfl
        have huslen : us.length < n := by
          have : us.length < ts.length := by rw [hts]; simp; omega
          omega
        obtain ⟨hnil, hcons⟩ := ih _ huslen us rfl opened hus
        refine ⟨fun heq => ?_, fun top rest heq => ?_⟩
        · obtain ⟨f, hf⟩ := hnil heq
          exact ⟨.node name attributes content f, by rw [hts, hf, Forest.tokens]⟩
        · obtain ⟨f, vs, hf, hvs⟩ := hcons top rest heq
          exact ⟨.node name attributes content f, vs, by
            rw [hts, hf, Forest.tokens]
            simp, hvs⟩

/-- **The two descriptions agree**: a complete stream is the stream of a forest. -/
theorem complete_iff_exists_forest {ts : List (Token N A B)} :
    Complete ts ↔ ∃ f : Forest N A B, ts = f.tokens := by
  constructor
  · intro h
    exact (exists_forest_of_openNames ts [] h).1 rfl
  · rintro ⟨f, rfl⟩
    exact f.complete_tokens

end Nesting

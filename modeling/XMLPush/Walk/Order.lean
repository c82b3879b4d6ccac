import Mathlib.Data.List.Sort
import XMLPush.Walk.Numbering

/-!
# Document order and closing order

Closed elements are kept in the order they closed, and a document is in the order its
elements start. The two differ in one way only: an element closes before the ones it stands
in, and starts after them. So elements of which none stands in another are in the same
place in both orders, and whatever is collected from them as they close is in document
order (`filterMap_documentOrder`).
-/

set_option autoImplicit false

namespace XMLPush

open Nesting

variable {W P : Type}

/-- Each open element stands in exactly the ones around it. -/
def Chained : List (Element P) → Prop
  | [] => True
  | e :: outer => e.ancestors = outer.map (·.ordinal) ∧ Chained outer

theorem map_ordinal_settle (bytes : Data) (marks : Bool) (opened : List (Element P)) :
    (opened.map (·.settle bytes marks)).map (·.ordinal) = opened.map (·.ordinal) := by
  simp [Element.settle, Function.comp_def]

theorem Chained.settle {opened : List (Element P)} (bytes : Data) (marks : Bool)
    (h : Chained opened) : Chained (opened.map (·.settle bytes marks)) := by
  induction opened with
  | nil => trivial
  | cons e outer ih =>
    refine ⟨?_, ih h.2⟩
    rw [map_ordinal_settle]
    exact h.1

namespace Walk

/-- The closed elements are in order, but for those that stand in one another. -/
structure InOrder (a : Walk W P) : Prop where
  chained : Chained a.opened
  /-- A closed element started before an open one, or stands in it. -/
  before : ∀ e ∈ a.closed, ∀ d ∈ a.opened, e.ordinal < d.ordinal ∨ e.StandsIn d
  sorted : a.closed.Pairwise fun e d => e.ordinal < d.ordinal ∨ e.StandsIn d

/-- Settling the open elements keeps the order. -/
theorem InOrder.of_settle {a b : Walk W P} (h : InOrder a) (bytes : Data) (marks : Bool)
    (hopened : b.opened = a.opened.map (·.settle bytes marks)) (hclosed : b.closed = a.closed) :
    InOrder b := by
  refine ⟨?_, ?_, ?_⟩
  · rw [hopened]
    exact h.chained.settle bytes marks
  · intro e he d hd
    rw [hclosed] at he
    rw [hopened] at hd
    obtain ⟨c, hc, rfl⟩ := List.mem_map.mp hd
    exact h.before e he c hc
  · rw [hclosed]
    exact h.sorted

theorem inOrder_next (D : SAXParsable W P) (event : Event) {a : Walk W P} (h : InOrder a)
    (hnumbered : Numbered a.elements) : InOrder (a.next D event) := by
  cases event with
  | text bytes =>
    refine h.of_settle bytes false ?_ rfl
    exact List.map_congr_left fun e _ => e.receive_eq_settle bytes
  | opening name attributes =>
    have hopened : (a.startElement D name attributes).opened =
        a.fresh name attributes (a.offer D name attributes).1 ::
          a.opened.map (·.settle [] (a.fresh name attributes (a.offer D name attributes).1).isData) :=
      congrArg _ (around_eq_settle _ a.opened)
    refine ⟨?_, ?_, h.sorted⟩
    · rw [next, hopened]
      refine ⟨?_, h.chained.settle _ _⟩
      rw [map_ordinal_settle]
      rfl
    · intro e he d hd
      rw [next, hopened] at hd
      rcases List.mem_cons.mp hd with rfl | hd
      · exact Or.inl (hnumbered.bounded e (List.mem_append_right _ he))
      · obtain ⟨c, hc, rfl⟩ := List.mem_map.mp hd
        exact h.before e he c hc
  | closing name =>
    cases hopened : a.opened with
    | nil =>
      rw [next, endElement_of_nil D name hopened]
      exact h
    | cons top outer =>
      obtain ⟨hopened', -, hclosed', -⟩ := endElement_of_opened D name hopened
      have hchained := h.chained
      have hbefore := h.before
      rw [hopened] at hchained hbefore
      refine ⟨?_, ?_, ?_⟩
      · rw [next, hopened']
        exact hchained.2
      · intro e he d hd
        rw [next, hclosed'] at he
        rw [next, hopened'] at hd
        rcases List.mem_append.mp he with he | he
        · exact hbefore e he d (List.mem_cons_of_mem _ hd)
        · rw [List.mem_singleton.mp he]
          apply Or.inr
          show d.ordinal ∈ top.ancestors
          rw [hchained.1]
          exact List.mem_map_of_mem hd
      · rw [next, hclosed']
        refine List.pairwise_append.mpr ⟨h.sorted, List.pairwise_singleton _ _, ?_⟩
        intro e he d hd
        rw [List.mem_singleton.mp hd]
        exact hbefore e he top List.mem_cons_self

theorem inOrder_follow (D : SAXParsable W P) (events : List Event) {a : Walk W P} (h : InOrder a)
    (hnumbered : Numbered a.elements) : InOrder (a.follow D events) := by
  induction events generalizing a with
  | nil => exact h
  | cons event events ih =>
    exact ih (inOrder_next D event h hnumbered) (numbered_next D event hnumbered)

theorem inOrder_after (D : SAXParsable W P) (root : P) (world : W) (events : List Event) :
    InOrder (after D root world events) := by
  apply inOrder_follow D events
  · exact ⟨trivial, fun e he => absurd he (by simp [init]), List.Pairwise.nil⟩
  · exact numbered_after D root world []

end Walk

/-- Elements in the order they start. -/
def documentOrder (elements : List (Element P)) : List (Element P) :=
  elements.insertionSort fun d e => d.ordinal ≤ e.ordinal

theorem mem_documentOrder {elements : List (Element P)} {e : Element P} :
    e ∈ documentOrder elements ↔ e ∈ elements := List.mem_insertionSort _

/-- **What is collected from elements that do not stand in one another, as they close, is in
    document order.** -/
theorem filterMap_documentOrder {β : Type} {a : Walk W P} (f : Element P → Option β)
    (horder : a.InOrder) (hnumbered : Numbered a.elements)
    (hapart : ∀ e ∈ a.closed, ∀ d ∈ a.closed, (f e).isSome = true → (f d).isSome = true →
      ¬ e.StandsIn d) :
    (documentOrder a.closed).filterMap f = a.closed.filterMap f := by
  have hfilter : ∀ xs : List (Element P),
      (xs.filter fun e => (f e).isSome).filterMap f = xs.filterMap f := by
    intro xs
    rw [List.filterMap_filter]
    refine List.filterMap_congr fun e _ => ?_
    cases f e <;> rfl
  have hsorted : (a.closed.filter fun e => (f e).isSome).Pairwise
      fun d e => d.ordinal ≤ e.ordinal := by
    refine (horder.sorted.filter _).imp_of_mem ?_
    intro e d he hd hor
    obtain ⟨hec, hef⟩ := List.mem_filter.mp he
    obtain ⟨hdc, hdf⟩ := List.mem_filter.mp hd
    rcases hor with hlt | hin
    · exact Nat.le_of_lt hlt
    · exact absurd hin (hapart e hec d hdc hef hdf)
  have hperm : ((documentOrder a.closed).filter fun e => (f e).isSome).Perm
      (a.closed.filter fun e => (f e).isSome) := (List.perm_insertionSort _ _).filter _
  have hdocument : ((documentOrder a.closed).filter fun e => (f e).isSome).Pairwise
      fun d e => d.ordinal ≤ e.ordinal := by
    apply List.Pairwise.filter
    exact List.pairwise_insertionSort _ _
  have heq : (documentOrder a.closed).filter (fun e => (f e).isSome) =
      a.closed.filter fun e => (f e).isSome := by
    refine hperm.eq_of_pairwise ?_ hdocument hsorted
    intro d e hd he hle hge
    have hdc := mem_documentOrder.mp (List.mem_filter.mp hd).1
    have hec := (List.mem_filter.mp he).1
    exact hnumbered.eq_of_ordinal (List.mem_append_right _ hdc) (List.mem_append_right _ hec)
      (Nat.le_antisymm hle hge)
  rw [← hfilter, heq, hfilter]

end XMLPush

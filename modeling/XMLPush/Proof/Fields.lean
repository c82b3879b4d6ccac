import Mathlib.Data.List.Induction
import XMLPush.Proof.Safety

/-!
# What the private fields are

`Walk.parser` says it as one function; this file says it field by field, in the words of
the source: which elements the stack holds and at which levels, what the ignore level is
the level of, whose attributes and whose characters the slot keeps. Every statement is
about the list of open elements and the answers they got, and holds after every
well-nested stream that has not crashed the parser.
-/

set_option autoImplicit false

namespace XMLPush

open Nesting
open Machine

variable {W P : Type}

/-! ## The open elements, and where they are in the stream -/

namespace Walk

theorem after_append_singleton (D : SAXParsable W P) (root : P) (world : W)
    (events : List Event) (event : Event) :
    after D root world (events ++ [event]) = (after D root world events).next D event := by
  rw [after, follow_append, follow_cons, follow_nil]
  rfl

/-- The open element at a depth was started by an event of the stream, with its name and its
    attributes, and its contents are the characters received since. -/
def StartedAt (D : SAXParsable W P) (root : P) (world : W) (events : List Event)
    (e : Element P) (depth : Nat) : Prop :=
  ∃ pre post, events = pre ++ .opening e.name e.attributes :: post ∧
    (after D root world pre).opened.length = depth ∧ e.contents = textOf post

/-- …which one more event inside it does not change. -/
theorem StartedAt.settle {D : SAXParsable W P} {root : P} {world : W} {events : List Event}
    {e : Element P} {depth : Nat} (h : StartedAt D root world events e depth) (event : Event)
    (marks : Bool) :
    StartedAt D root world (events ++ [event]) (e.settle (textOf [event]) marks) depth := by
  obtain ⟨pre, post, hevents, hdepth, hcontents⟩ := h
  refine ⟨pre, post ++ [event], by rw [hevents]; simp [Element.settle], hdepth, ?_⟩
  rw [textOf_append, ← hcontents]
  rfl

theorem started_at (D : SAXParsable W P) (root : P) (world : W) (events : List Event) :
    ∀ inner e outer, (after D root world events).opened = inner ++ e :: outer →
      StartedAt D root world events e outer.length := by
  induction events using List.reverseRecOn with
  | nil =>
    intro inner e outer h
    exact absurd h (by simp [after, follow, init])
  | append_singleton events event ih =>
    intro inner e outer h
    rw [after_append_singleton] at h
    -- The elements that stay open differ from what they were by a settling.
    have hsettled : ∀ (marks : Bool) (inner' : List (Element P)),
        (after D root world events).opened.map (·.settle (textOf [event]) marks) =
          inner' ++ e :: outer →
        StartedAt D root world (events ++ [event]) e outer.length := by
      intro marks inner' hmap
      obtain ⟨xs, ys, hopened, -, hys⟩ := List.map_eq_append_iff.mp hmap
      obtain ⟨c, zs, rfl, rfl, rfl⟩ := List.map_eq_cons_iff.mp hys
      rw [List.length_map]
      exact (ih xs c zs hopened).settle event marks
    cases event with
    | opening name attributes =>
      simp only [next, startElement, around_eq_settle] at h
      cases inner with
      | nil =>
        obtain ⟨rfl, rfl⟩ := List.cons.inj h
        exact ⟨events, [], rfl, by simp, rfl⟩
      | cons x inner => exact hsettled _ inner (List.cons.inj h).2
    | text bytes =>
      refine hsettled false inner ?_
      rw [← h, next, characters]
      refine List.map_congr_left fun c _ => ?_
      rw [c.receive_eq_settle]
      simp [textOf]
    | closing name =>
      cases hopened : (after D root world events).opened with
      | nil =>
        rw [next, endElement_of_nil D name hopened, hopened] at h
        exact absurd h (by simp)
      | cons top rest =>
        rw [next, (endElement_of_opened D name hopened).1] at h
        -- `e` was open before, with `top` inside it as well; an end tag brings no text.
        obtain ⟨pre, post, hevents, hdepth, hcontents⟩ :=
          ih (top :: inner) e outer (by rw [hopened, h]; rfl)
        refine ⟨pre, post ++ [.closing name], by rw [hevents]; simp, hdepth, ?_⟩
        rw [textOf_append, hcontents]
        simp [textOf]

end Walk

/-! ## The stack -/

/-- The items of the child elements among `elements`, outermost first, the first of which is at
    depth `depth`. -/
def childItems : List (Element P) → Int → List (SAXParsableStackItem P)
  | [], _ => []
  | e :: inner, depth =>
    match e.child? with
    | some child => ⟨child, depth⟩ :: childItems inner (depth + 1)
    | none => childItems inner (depth + 1)

theorem childItems_append (xs ys : List (Element P)) (depth : Int) :
    childItems (xs ++ ys) depth = childItems xs depth ++ childItems ys (depth + xs.length) := by
  induction xs generalizing depth with
  | nil => simp [childItems]
  | cons e xs ih =>
    have hdepth : depth + 1 + (xs.length : Int) = depth + ((e :: xs).length : Int) := by
      rw [List.length_cons]
      omega
    simp only [List.cons_append, childItems, ih, hdepth]
    split
    · rfl
    · rfl

theorem stackOf_reverse (root : P) (opened : List (Element P)) :
    (stackOf root opened).reverse = ⟨root, 0⟩ :: childItems opened.reverse 1 := by
  induction opened with
  | nil => rfl
  | cons e outer ih =>
    have hdepth : (1 : Int) + outer.reverse.length = outer.length + 1 := by
      rw [List.length_reverse]
      omega
    rw [List.reverse_cons, childItems_append, hdepth]
    cases hchild : e.child? with
    | some child => simp [stackOf, childItems, hchild, ih]
    | none => simp [stackOf, childItems, hchild, ih]

/-- No item is deeper than the walk. -/
theorem level_le_of_mem_stackOf {root : P} {opened : List (Element P)}
    {item : SAXParsableStackItem P} (h : item ∈ stackOf root opened) :
    item.level ≤ opened.length := by
  induction opened with
  | nil =>
    rw [stackOf, List.mem_singleton] at h
    rw [h]
    simp
  | cons e outer ih =>
    rw [stackOf] at h
    rw [List.length_cons]
    split at h
    · rcases List.mem_cons.mp h with rfl | h
      · simp
      · have := ih h
        omega
    · have := ih h
      omega

theorem stackOf_pairwise (root : P) (opened : List (Element P)) :
    (stackOf root opened).Pairwise fun x y => y.level < x.level := by
  induction opened with
  | nil => simp [stackOf]
  | cons e outer ih =>
    rw [stackOf]
    split
    · refine List.pairwise_cons.mpr ⟨fun item hitem => ?_, ih⟩
      have := level_le_of_mem_stackOf hitem
      show item.level < (outer.length : Int) + 1
      omega
    · exact ih

/-! ## The ignore level -/

/-- At most one open element was answered `ignore`: nothing is offered below it. -/
theorem filter_isIgnored_length {root : P} {opened : List (Element P)}
    (h : Nested root opened) : (opened.filter (·.isIgnored)).length ≤ 1 := by
  induction opened with
  | nil => simp
  | cons e outer ih =>
    by_cases hignored : e.isIgnored = true
    · obtain ⟨p, hoffer⟩ := Element.isIgnored_iff.mp hignored
      have hnone : outer.filter (·.isIgnored) = [] := by
        have hnot := h.1.not_ignoring hoffer
        rw [ignoring, List.any_eq_false] at hnot
        exact List.filter_eq_nil_iff.mpr hnot
      rw [List.filter_cons_of_pos hignored, hnone]
      simp
    · rw [List.filter_cons_of_neg hignored]
      exact ih h.2

/-- The ignore level is the depth of the open ignored element. -/
theorem ignoreLevelOf_eq_some_iff {root : P} {opened : List (Element P)}
    (h : Nested root opened) {level : Int} : ignoreLevelOf opened = some level ↔
      ∃ inner e outer, opened = inner ++ e :: outer ∧ e.isIgnored = true ∧
        level = outer.length + 1 := by
  induction opened with
  | nil => simp [ignoreLevelOf]
  | cons d rest ih =>
    by_cases hignored : d.isIgnored = true
    · have hself : ignoreLevelOf (d :: rest) = some ((rest.length : Int) + 1) := by
        simp only [ignoreLevelOf, hignored, if_true]
      rw [hself, Option.some.injEq]
      constructor
      · intro heq
        exact ⟨[], d, rest, rfl, hignored, heq.symm⟩
      · rintro ⟨inner, e, outer, heq, he, rfl⟩
        cases inner with
        | nil =>
          obtain ⟨rfl, rfl⟩ := List.cons.inj heq
          rfl
        | cons c inner =>
          -- A second ignored element would have been offered below the first.
          obtain ⟨rfl, rfl⟩ := List.cons.inj heq
          obtain ⟨p, hoffer⟩ := Element.isIgnored_iff.mp hignored
          have hnot := h.1.not_ignoring hoffer
          simp [ignoring, he] at hnot
    · have hskip : ignoreLevelOf (d :: rest) = ignoreLevelOf rest := by
        simp only [ignoreLevelOf, hignored, Bool.false_eq_true, if_false]
      rw [hskip, ih h.2]
      constructor
      · rintro ⟨inner, e, outer, rfl, he, hlevel⟩
        exact ⟨d :: inner, e, outer, rfl, he, hlevel⟩
      · rintro ⟨inner, e, outer, heq, he, hlevel⟩
        cases inner with
        | nil =>
          obtain ⟨rfl, rfl⟩ := List.cons.inj heq
          exact absurd he hignored
        | cons c inner =>
          obtain ⟨rfl, rfl⟩ := List.cons.inj heq
          exact ⟨inner, e, outer, rfl, he, hlevel⟩

/-- Every item of the stack is above the open ignored element. -/
theorem level_lt_ignoreLevelOf {root : P} {opened : List (Element P)} (h : Nested root opened)
    {level : Int} (hlevel : ignoreLevelOf opened = some level) :
    ∀ item ∈ stackOf root opened, item.level < level := by
  induction opened with
  | nil => exact absurd hlevel (by simp [ignoreLevelOf])
  | cons e outer ih =>
    intro item hitem
    by_cases hignored : e.isIgnored = true
    · obtain ⟨p, hoffer⟩ := Element.isIgnored_iff.mp hignored
      simp only [ignoreLevelOf, hignored, if_true, Option.some.injEq] at hlevel
      simp only [stackOf, Element.child?, hoffer] at hitem
      have := level_le_of_mem_stackOf hitem
      omega
    · simp only [ignoreLevelOf, hignored, Bool.false_eq_true, if_false] at hlevel
      have hig : ignoring outer = true := by
        by_contra hnot
        rw [ignoreLevelOf_eq_none (by simpa using hnot)] at hlevel
        exact absurd hlevel (by simp)
      have hoffer := h.1.offered.mpr hig
      simp only [stackOf, Element.child?, hoffer] at hitem
      exact ih h.2 hlevel item hitem

/-! ## The slot -/

/-- A filled slot is that of the innermost open data element. -/
theorem slotOf_eq_some {opened : List (Element P)} {slot : Attributes × Data}
    (h : slotOf opened = some slot) : ∃ inner e outer, opened = inner ++ e :: outer ∧
      e.isData = true ∧ (∀ d ∈ inner, d.isData = false) ∧ slot = (e.attributes, e.contents) := by
  induction opened with
  | nil => exact absurd h (by simp [slotOf])
  | cons e outer ih =>
    by_cases hdata : e.isData = true
    · simp only [slotOf, hdata, if_true] at h
      split at h
      · exact absurd h (by simp)
      · exact ⟨[], e, outer, rfl, hdata, by simp, (Option.some.inj h).symm⟩
    · simp only [slotOf, hdata, Bool.false_eq_true, if_false] at h
      obtain ⟨inner, d, outer', rfl, hd, hinner, hslot⟩ := ih h
      refine ⟨e :: inner, d, outer', rfl, hd, ?_, hslot⟩
      rintro c (_ | ⟨_, hc⟩)
      · simpa using hdata
      · exact hinner c hc

/-! ## The fields after a stream -/

/-- The private fields of a parser, as the list of open elements of a stream determines them. -/
structure FieldsFollow (D : SAXParsable W P) (root : P) (world : W) (events : List Event)
    (opened : List (Element P)) (s : XMLPushParser W P) : Prop where
  /-- `level` counts the open elements. -/
  level : s.level = opened.length
  /-- `stack`, bottom first, is the root at level 0 and then the delegate of each open child
      element, outermost first, at the depth of that element. -/
  stack : s.stack.reverse = ⟨root, 0⟩ :: childItems opened.reverse 1
  increasing : (s.stack.reverse.map (·.level)).Pairwise (· < ·)
  ignoredOnce : (opened.filter (·.isIgnored)).length ≤ 1
  /-- `ignoreElementsUntilLevel` is the depth of the open ignored element, and nil without one. -/
  ignoreLevel : ∀ level, s.ignoreElementsUntilLevel = some level ↔
    ∃ inner e outer, opened = inner ++ e :: outer ∧ e.isIgnored = true ∧
      level = outer.length + 1
  stackAbove : ∀ level, s.ignoreElementsUntilLevel = some level →
    ∀ item ∈ s.stack, item.level < level
  /-- `ignoringElements` as an end event evaluates it… -/
  ignoringAtEnd : s.ignoringElements = true ↔ ∃ e ∈ opened, e.isIgnored = true
  /-- …and as a start event does, which has raised the level first. -/
  ignoringAtStart : ({ s with level := s.level + 1 } : XMLPushParser W P).ignoringElements = true ↔
    ∃ e ∈ opened, e.isIgnored = true
  slot : s.buffer = none ↔ s.dataAttributes = none
  /-- A filled slot keeps the start attributes of the innermost open data element and the
      characters received since its start. -/
  filled : ∀ contents, s.buffer = some contents → ∃ inner e outer,
    opened = inner ++ e :: outer ∧ e.isData = true ∧ (∀ d ∈ inner, d.isData = false) ∧
      s.dataAttributes = some e.attributes ∧ contents = e.contents ∧
        Walk.StartedAt D root world events e outer.length

theorem root_after (D : SAXParsable W P) (root : P) (world : W) (events : List Event) :
    (Walk.after D root world events).root = root := by
  induction events using List.reverseRecOn with
  | nil => rfl
  | append_singleton events event ih =>
    rw [Walk.after_append_singleton]
    cases event with
    | opening name attributes => exact ih
    | text bytes => exact ih
    | closing name =>
      cases hopened : (Walk.after D root world events).opened with
      | nil => rw [Walk.next, Walk.endElement_of_nil D name hopened, ih]
      | cons e outer => rw [Walk.next, (Walk.endElement_of_opened D name hopened).2.2.2, ih]

/-- **The private state is determined by the open elements and the answers they got**, after
    every well-nested stream that does not crash the parser. -/
theorem fields_follow (D : SAXParsable W P) (root : P) (world : W) (events : List Event)
    (s : XMLPushParser W P) (h : WellNested events)
    (hrun : run (XMLPushParser.handle D) (.init root world) events = .ok s) :
    FieldsFollow D root world events (Walk.after D root world events).opened s ∧
      s.host = (Walk.after D root world events).host := by
  obtain ⟨-, rfl⟩ := (run_wellNested_iff D root world h).mp hrun
  have hroot := root_after D root world events
  have hstarted := Walk.started_at D root world events
  revert hroot hstarted
  generalize Walk.after D root world events = a
  intro hroot hstarted
  have hany : ignoring a.opened = true ↔ ∃ e ∈ a.opened, e.isIgnored = true := by
    simp [ignoring]
  refine ⟨⟨rfl, ?_, ?_, filter_isIgnored_length a.nested, fun level =>
    ignoreLevelOf_eq_some_iff a.nested, fun level => level_lt_ignoreLevelOf a.nested, ?_, ?_, ?_,
    ?_⟩, rfl⟩
  · rw [← hroot]
    exact stackOf_reverse a.root a.opened
  · rw [List.map_reverse, List.pairwise_reverse, List.pairwise_map]
    exact stackOf_pairwise a.root a.opened
  · rw [ignoringElements_eq a.opened rfl (by simp [Walk.parser]), hany]
  · rw [ignoringElements_eq a.opened rfl (by simp only [Walk.parser]; omega), hany]
  · simp [Walk.parser]
  · intro contents hcontents
    obtain ⟨⟨attributes, contents'⟩, hslot, rfl⟩ := Option.map_eq_some_iff.mp hcontents
    obtain ⟨inner, e, outer, hopened, hdata, hinner, heq⟩ := slotOf_eq_some hslot
    obtain ⟨rfl, rfl⟩ := Prod.mk.inj heq
    exact ⟨inner, e, outer, hopened, hdata, hinner, by simp [Walk.parser, hslot], rfl,
      hstarted inner e outer hopened⟩

/-- `<c><d>h<x>`, cut off there: the child's delegate on the stack, the data element's slot
    filled, the ignored element's depth as the ignore level. -/
theorem fields_follow_cut_off :
    FieldsFollow lettered 0 () [startTag "c", startTag "d", .text [104], startTag "x"]
      (Walk.after lettered 0 () [startTag "c", startTag "d", .text [104], startTag "x"]).opened
      { root := 0
        stack := [⟨1, 1⟩, ⟨0, 0⟩]
        level := 3
        buffer := some [104]
        dataAttributes := some ∅
        ignoreElementsUntilLevel := some 3
        host := (Walk.after lettered 0 ()
          [startTag "c", startTag "d", .text [104], startTag "x"]).host } :=
  (fields_follow lettered 0 () [startTag "c", startTag "d", .text [104], startTag "x"] _
    (by decide) rfl).1

end XMLPush

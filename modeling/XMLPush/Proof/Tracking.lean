import XMLPush.Lib.Run
import XMLPush.Source.PushParser
import XMLPush.Walk.Basic

/-!
# The parser tracks the walk

The five private fields of `XMLPushParser` are a *function* of the walk: `Walk.parser`
computes them, and `parser_tracks_walk` says that no handler ever leaves its image. So the
invariant of the parser is not a list of facts to be found and preserved; it is that one
function, and every fact about the fields is read off it.

What the function shows at a glance is what the source shares. `stackOf` and `ignoreLevelOf`
keep what every open element needs. `slotOf` does not: it looks at the innermost open
data element alone, and that element's contents are in the slot only while no data
element has started below it. Once one has, and has closed, the slot is empty — and the
outer element's own end, when it comes, unwraps nil. `Walk.fault` is that case, and it is
the only one a well-nested stream can reach.
-/

set_option autoImplicit false

namespace XMLPush

open Nesting
open Machine

variable {W P : Type}

/-! ## The fields, as functions of the open elements -/

/-- `stack`: one item for each open child element, at its depth, over the root at level 0. -/
def stackOf (root : P) : List (Element P) → List (SAXParsableStackItem P)
  | [] => [⟨root, 0⟩]
  | e :: outer =>
    match e.child? with
    | some child => ⟨child, outer.length + 1⟩ :: stackOf root outer
    | none => stackOf root outer

/-- `ignoreElementsUntilLevel`: the depth of the open ignored element. -/
def ignoreLevelOf : List (Element P) → Option Int
  | [] => none
  | e :: outer => if e.isIgnored then some (outer.length + 1) else ignoreLevelOf outer

/-- `dataAttributes` and `buffer`: those of the innermost open data element, unless another
    one has started below it. -/
def slotOf : List (Element P) → Option (Attributes × Data)
  | [] => none
  | e :: outer =>
    if e.isData then
      if e.innerData then none else some (e.attributes, e.contents)
    else slotOf outer

/-- The parser a walk stands for. -/
def Walk.parser (a : Walk W P) : XMLPushParser W P where
  root := a.root
  stack := stackOf a.root a.opened
  level := a.opened.length
  buffer := (slotOf a.opened).map (·.2)
  dataAttributes := (slotOf a.opened).map (·.1)
  ignoreElementsUntilLevel := ignoreLevelOf a.opened
  host := a.host

/-- The event the parser crashes on: an end with nothing open, and the end of a data element
    another data element has started below. -/
def Walk.fault (a : Walk W P) : Event → Option Trap
  | .closing _ =>
    match a.opened with
    | [] => some .emptyStack
    | e :: _ => if e.isData && e.innerData then some .nilDataAttributes else none
  | _ => none

/-! ### Each field reads the offers and nothing else -/

theorem stackOf_map (root : P) (f : Element P → Element P) (hf : ∀ e, (f e).offer = e.offer)
    (opened : List (Element P)) : stackOf root (opened.map f) = stackOf root opened := by
  induction opened with
  | nil => rfl
  | cons e outer ih =>
    have hchild : (f e).child? = e.child? := Element.child?_congr (hf e)
    simp only [List.map_cons, stackOf, hchild, ih, List.length_map]

/-- The items of the stack are the children of the open elements, over the root. -/
theorem map_parseItem_stackOf (root : P) (opened : List (Element P)) :
    (stackOf root opened).map (·.parseItem) = opened.filterMap Element.child? ++ [root] := by
  induction opened with
  | nil => rfl
  | cons e outer ih =>
    cases hchild : e.child? with
    | none =>
      rw [List.filterMap_cons_none hchild, ← ih]
      simp only [stackOf, hchild]
    | some child =>
      rw [List.filterMap_cons_some hchild, List.cons_append, ← ih]
      simp only [stackOf, hchild, List.map_cons]

theorem ignoreLevelOf_map (f : Element P → Element P) (hf : ∀ e, (f e).offer = e.offer)
    (opened : List (Element P)) : ignoreLevelOf (opened.map f) = ignoreLevelOf opened := by
  induction opened with
  | nil => rfl
  | cons e outer ih =>
    have hignored : (f e).isIgnored = e.isIgnored := Element.isIgnored_congr (hf e)
    simp only [List.map_cons, ignoreLevelOf, hignored, ih, List.length_map]

theorem slotOf_receive (bytes : Data) (opened : List (Element P)) :
    slotOf (opened.map (·.receive bytes)) =
      (slotOf opened).map fun slot => (slot.1, slot.2 ++ bytes) := by
  induction opened with
  | nil => rfl
  | cons e outer ih =>
    simp only [List.map_cons, slotOf, Element.receive_isData, Element.receive_innerData, ih]
    by_cases hdata : e.isData = true
    · by_cases hinner : e.innerData = true
      · simp only [hdata, hinner, if_true, Option.map_none]
      · simp only [hdata, hinner, if_true]
        rfl
    · simp only [if_neg hdata]

/-- With a mark on every open element the slot is empty. -/
theorem slotOf_of_innerData {opened : List (Element P)}
    (h : ∀ d ∈ opened, d.innerData = true) : slotOf opened = none := by
  induction opened with
  | nil => rfl
  | cons e outer ih =>
    have houter := ih fun d hd => h d (List.mem_cons_of_mem _ hd)
    simp [slotOf, h e List.mem_cons_self, houter]

/-! ### What the handlers ask of the fields -/

/-- The top of the stack is the current delegate, at a level no deeper than the walk. -/
theorem stackOf_eq_cons (root : P) (opened : List (Element P)) :
    ∃ (level : Int) (below : List (SAXParsableStackItem P)),
      stackOf root opened = ⟨delegate root opened, level⟩ :: below ∧ level ≤ opened.length := by
  induction opened with
  | nil => exact ⟨0, [], rfl, by simp⟩
  | cons e outer ih =>
    cases hchild : e.child? with
    | some child =>
      refine ⟨outer.length + 1, stackOf root outer, ?_, by simp⟩
      simp only [stackOf, delegate, hchild]
    | none =>
      obtain ⟨level, below, hstack, hlevel⟩ := ih
      refine ⟨level, below, ?_, ?_⟩
      · simp only [stackOf, delegate, hchild]
        exact hstack
      · rw [List.length_cons]
        omega

theorem ignoreLevelOf_eq_none {opened : List (Element P)} (h : ignoring opened = false) :
    ignoreLevelOf opened = none := by
  induction opened with
  | nil => rfl
  | cons e outer ih =>
    rw [ignoring_cons, Bool.or_eq_false_iff] at h
    simp only [ignoreLevelOf, h.1, Bool.false_eq_true, if_false]
    exact ih h.2

theorem ignoreLevelOf_eq_some {opened : List (Element P)} (h : ignoring opened = true) :
    ∃ level, ignoreLevelOf opened = some level ∧ level ≤ opened.length := by
  induction opened with
  | nil => exact absurd h (by simp [ignoring])
  | cons e outer ih =>
    by_cases hignored : e.isIgnored = true
    · exact ⟨outer.length + 1, by simp only [ignoreLevelOf, hignored, if_true], by simp⟩
    · rw [ignoring_cons, Bool.or_eq_true] at h
      obtain ⟨level, hlevel, hle⟩ := ih (h.resolve_left hignored)
      refine ⟨level, ?_, ?_⟩
      · simpa only [ignoreLevelOf, if_neg hignored] using hlevel
      · rw [List.length_cons]
        omega

/-- `ignoringElements` holds at or below the depth of the walk exactly when an ignored
    element is open. -/
theorem ignoringElements_eq {s : XMLPushParser W P} (opened : List (Element P))
    (hignore : s.ignoreElementsUntilLevel = ignoreLevelOf opened)
    (hlevel : (opened.length : Int) ≤ s.level) : s.ignoringElements = ignoring opened := by
  unfold XMLPushParser.ignoringElements
  rw [hignore]
  cases h : ignoring opened with
  | false => rw [ignoreLevelOf_eq_none h]
  | true =>
    obtain ⟨level, hsome, hle⟩ := ignoreLevelOf_eq_some h
    rw [hsome]
    simp only [ge_iff_le, decide_eq_true_eq]
    omega

theorem current_eq {s : XMLPushParser W P} {root : P} {opened : List (Element P)}
    (hstack : s.stack = stackOf root opened) : s.current = .ok (delegate root opened) := by
  obtain ⟨level, below, hcons, -⟩ := stackOf_eq_cons root opened
  unfold XMLPushParser.current
  rw [hstack, hcons]

/-! ## One step -/

variable (D : SAXParsable W P)

/-- A start below an ignored element raises the level and does nothing else. -/
theorem start_of_ignoring {a : Walk W P} (name : ElementName) (attributes : Attributes)
    (hig : ignoring a.opened = true) :
    a.parser.startElementWithPrefix D name attributes =
      .ok (a.startElement D name attributes).parser := by
  have hask : ({ a.parser with level := a.parser.level + 1 } : XMLPushParser W P).ignoringElements
      = true := by
    rw [ignoringElements_eq a.opened rfl (by simp only [Walk.parser]; omega), hig]
  unfold XMLPushParser.startElementWithPrefix
  simp only [hask, if_true]
  refine congrArg Except.ok ?_
  apply XMLPushParser.ext
  all_goals simp [Walk.parser, Walk.startElement, Walk.offer_of_ignoring D name attributes hig,
    Walk.around, Walk.fresh, Element.isData, stackOf, slotOf, ignoreLevelOf, Element.child?,
    Element.isIgnored]

/-- What the `switch` does to the fields is what the new record does to the functions above. -/
theorem parser_answered {a b : Walk W P} (name : ElementName) (attributes : Attributes)
    (target : P) (answer : SAXStartElement P) {host : Host W P} (hroot : b.root = a.root)
    (hhost : b.host = host)
    (hopened : b.opened = a.fresh name attributes (some (target, answer)) ::
      Walk.around (a.fresh name attributes (some (target, answer))) a.opened) :
    ({ a.parser with level := a.parser.level + 1, host := host } : XMLPushParser W P).answered
      attributes answer = b.parser := by
  have hoffer : ∀ d : Element P, d.encloseData.offer = d.offer := fun _ => rfl
  have hstack := stackOf_map a.root (·.encloseData) hoffer a.opened
  have hignore := ignoreLevelOf_map (·.encloseData) hoffer a.opened
  unfold Walk.parser
  rw [hroot, hhost, hopened]
  cases answer with
  | ignore => rfl
  | handleAsData =>
    simp [XMLPushParser.answered, Walk.around, Walk.fresh, Element.isData, Element.child?,
      Element.isIgnored, stackOf, ignoreLevelOf, slotOf, hstack, hignore]
  | handleWithChild child => rfl

/-- Any other start is offered to the current delegate, and the answer decides which of the
    fields takes the element in. -/
theorem start_of_not_ignoring {a : Walk W P} (name : ElementName) (attributes : Attributes)
    (hig : ignoring a.opened = false) :
    a.parser.startElementWithPrefix D name attributes =
      .ok (a.startElement D name attributes).parser := by
  have hask : ({ a.parser with level := a.parser.level + 1 } : XMLPushParser W P).ignoringElements
      = false := by
    rw [ignoringElements_eq a.opened rfl (by simp only [Walk.parser]; omega), hig]
  have hcur : ({ a.parser with level := a.parser.level + 1 } : XMLPushParser W P).current
      = .ok (delegate a.root a.opened) := current_eq rfl
  have hoffer := Walk.offer_of_not_ignoring D name attributes hig
  unfold XMLPushParser.startElementWithPrefix
  simp only [hask, Bool.false_eq_true, if_false, hcur]
  refine congrArg Except.ok
    (parser_answered name attributes (delegate a.root a.opened) _ rfl ?_ ?_)
  · simp only [Walk.startElement, hoffer]
    rfl
  · simp only [Walk.startElement, hoffer]
    rfl

theorem parser_characters (a : Walk W P) (bytes : Data) :
    a.parser.charactersFound bytes = (a.characters bytes).parser := by
  have hoffer : ∀ e : Element P, (e.receive bytes).offer = e.offer := fun _ => rfl
  apply XMLPushParser.ext
  · rfl
  · exact (stackOf_map a.root (·.receive bytes) hoffer a.opened).symm
  · simp [XMLPushParser.charactersFound, Walk.parser, Walk.characters]
  · simp only [XMLPushParser.charactersFound, Walk.parser, Walk.characters, slotOf_receive,
      Option.map_map]
    rfl
  · simp only [XMLPushParser.charactersFound, Walk.parser, Walk.characters, slotOf_receive,
      Option.map_map]
    rfl
  · exact (ignoreLevelOf_map (·.receive bytes) hoffer a.opened).symm
  · rfl

/-! ### The end of an element

Four cases, one for each thing an open element can be. Each is the same two steps: which
branch of the body the fields select, and what the `defer` block makes of the rest. -/

/-- The parser of a walk, given the stack of open elements it is computed from. -/
theorem parser_endElement {a : Walk W P} {e : Element P} {outer : List (Element P)}
    (hopened : a.opened = e :: outer) (name : ElementName) :
    (a.endElement D name).parser =
      { root := a.root
        stack := stackOf a.root outer
        level := outer.length
        buffer := (slotOf outer).map (·.2)
        dataAttributes := (slotOf outer).map (·.1)
        ignoreElementsUntilLevel := ignoreLevelOf outer
        host := Walk.endCallback D name e a.host } := by
  unfold Walk.endElement
  split
  · rename_i hnil
    rw [hopened] at hnil
    exact absurd hnil (by simp)
  · rename_i e' outer' hcons
    rw [hopened] at hcons
    obtain ⟨rfl, rfl⟩ := List.cons.inj hcons
    rfl

/-- The `defer` block leaves the ignore level of the elements that stay open. -/
theorem ignoreLevelOf_defer {root : P} {e : Element P} {outer : List (Element P)}
    (h : NestedIn root outer e) :
    (if ignoreLevelOf (e :: outer) = some ((e :: outer).length : Int) then none
      else ignoreLevelOf (e :: outer)) = ignoreLevelOf outer := by
  by_cases hignored : e.isIgnored = true
  · obtain ⟨p, hoffer⟩ := Element.isIgnored_iff.mp hignored
    have hnot := h.not_ignoring hoffer
    have hself : ignoreLevelOf (e :: outer) = some ((e :: outer).length : Int) := by
      simp [ignoreLevelOf, hignored]
    rw [if_pos hself, ignoreLevelOf_eq_none hnot]
  · have hskip : ignoreLevelOf (e :: outer) = ignoreLevelOf outer := by
      simp [ignoreLevelOf, hignored]
    rw [hskip]
    refine if_neg fun heq => ?_
    cases hig : ignoring outer with
    | false => rw [ignoreLevelOf_eq_none hig] at heq; exact absurd heq (by simp)
    | true =>
      obtain ⟨level, hlevel, hle⟩ := ignoreLevelOf_eq_some hig
      rw [hlevel, Option.some.injEq, List.length_cons] at heq
      omega

/-- What the `defer` block leaves, once the body has left the fields of the elements that
    stay open. -/
theorem endElementDefer_eq {a : Walk W P} {e : Element P} {outer : List (Element P)}
    (hopened : a.opened = e :: outer) {name : ElementName} {s : XMLPushParser W P}
    (hroot : s.root = a.root) (hstack : s.stack = stackOf a.root outer)
    (hlevel : s.level = a.parser.level)
    (hbuffer : s.buffer = (slotOf outer).map (·.2))
    (hattributes : s.dataAttributes = (slotOf outer).map (·.1))
    (hignore : s.ignoreElementsUntilLevel = a.parser.ignoreElementsUntilLevel)
    (hhost : s.host = Walk.endCallback D name e a.host) :
    s.endElementDefer = (a.endElement D name).parser := by
  have hnested := a.nestedIn hopened
  rw [parser_endElement D hopened]
  apply XMLPushParser.ext
  · exact hroot
  · exact hstack
  · simp only [XMLPushParser.endElementDefer, hlevel, Walk.parser, hopened, List.length_cons]
    omega
  · exact hbuffer
  · exact hattributes
  · simp only [XMLPushParser.endElementDefer, hlevel, hignore, Walk.parser, hopened]
    exact ignoreLevelOf_defer hnested
  · exact hhost

/-- The end of an ignored element, or of one below it, makes no callback. -/
theorem end_of_ignoring {a : Walk W P} {e : Element P} {outer : List (Element P)}
    (hopened : a.opened = e :: outer) (name : ElementName)
    (hig : ignoring (e :: outer) = true) :
    a.parser.endElementWithPrefix D name = .ok (a.endElement D name).parser := by
  have hnested := a.nestedIn hopened
  have hask : a.parser.ignoringElements = true := by
    rw [ignoringElements_eq a.opened rfl (by simp [Walk.parser]), hopened, hig]
  have hoffer : e.offer = none ∨ ∃ p, e.offer = some (p, .ignore) := by
    rw [ignoring_cons, Bool.or_eq_true] at hig
    rcases hig with hignored | houter
    · exact Or.inr (Element.isIgnored_iff.mp hignored)
    · exact Or.inl (hnested.offered.mpr houter)
  unfold XMLPushParser.endElementWithPrefix XMLPushParser.endElementBody
  simp only [hask, if_true]
  refine congrArg Except.ok (endElementDefer_eq D hopened rfl ?_ rfl ?_ ?_ rfl ?_)
  all_goals
    rcases hoffer with hnone | ⟨p, hsome⟩
    · simp [Walk.parser, hopened, stackOf, slotOf, Walk.endCallback, Element.child?,
        Element.isData, hnone]
    · simp [Walk.parser, hopened, stackOf, slotOf, Walk.endCallback, Element.child?,
        Element.isData, hsome]

/-- The end of a child element pops the item its start pushed, and reports to the delegate
    below it. -/
theorem end_of_child {a : Walk W P} {e : Element P} {outer : List (Element P)} {p child : P}
    (hopened : a.opened = e :: outer) (name : ElementName)
    (hoffer : e.offer = some (p, .handleWithChild child)) :
    a.parser.endElementWithPrefix D name = .ok (a.endElement D name).parser := by
  have hnested := a.nestedIn hopened
  have hig : ignoring a.opened = false := by
    rw [hopened, ignoring_cons, hnested.not_ignoring hoffer]
    simp [Element.isIgnored, hoffer]
  have hask : a.parser.ignoringElements = false := by
    rw [ignoringElements_eq a.opened rfl (by simp [Walk.parser]), hig]
  have hstack : a.parser.stack = ⟨child, a.parser.level⟩ :: stackOf a.root outer := by
    simp [Walk.parser, hopened, stackOf, Element.child?, hoffer]
  have hcur : ({ a.parser with stack := stackOf a.root outer } : XMLPushParser W P).current
      = .ok p := by
    rw [current_eq rfl, hnested.target p _ hoffer]
  unfold XMLPushParser.endElementWithPrefix XMLPushParser.endElementBody
  simp only [hask, Bool.false_eq_true, if_false, hstack, if_true, hcur]
  refine congrArg Except.ok (endElementDefer_eq D hopened rfl rfl rfl ?_ ?_ rfl ?_)
  all_goals simp [Walk.parser, hopened, slotOf, Walk.endCallback, Element.isData, hoffer]

/-- The end of a data element hands over the slot and clears it, if the slot is still its
    own; otherwise it unwraps nil. -/
theorem end_of_data {a : Walk W P} {e : Element P} {outer : List (Element P)} {p : P}
    (hopened : a.opened = e :: outer) (name : ElementName)
    (hoffer : e.offer = some (p, .handleAsData)) :
    a.parser.endElementWithPrefix D name =
      if e.innerData then .error .nilDataAttributes else .ok (a.endElement D name).parser := by
  have hnested := a.nestedIn hopened
  have hdata : e.isData = true := Element.isData_iff.mpr ⟨p, hoffer⟩
  have hig : ignoring a.opened = false := by
    rw [hopened, ignoring_cons, hnested.not_ignoring hoffer]
    simp [Element.isIgnored, hoffer]
  have hask : a.parser.ignoringElements = false := by
    rw [ignoringElements_eq a.opened rfl (by simp [Walk.parser]), hig]
  -- The item on top is an enclosing element's, so its level is above this one's.
  obtain ⟨level, below, hcons, hle⟩ := stackOf_eq_cons a.root outer
  have hstack : a.parser.stack = ⟨delegate a.root outer, level⟩ :: below := by
    simp [Walk.parser, hopened, stackOf, Element.child?, hoffer, hcons]
  have hlevel : ¬ level = a.parser.level := by
    simp only [Walk.parser, hopened, List.length_cons]
    omega
  have hcur : a.parser.current = .ok p := by
    unfold XMLPushParser.current
    rw [hstack, hnested.target p _ hoffer]
  unfold XMLPushParser.endElementWithPrefix XMLPushParser.endElementBody
  simp only [hask, Bool.false_eq_true, if_false, hstack, hlevel, hcur]
  cases hinner : e.innerData with
  | true => simp [Walk.parser, hopened, slotOf, hdata, hinner]; rfl
  | false =>
    have houter : slotOf outer = none := slotOf_of_innerData (hnested.inner (Or.inl hdata))
    have hattributes : a.parser.dataAttributes = some e.attributes := by
      simp [Walk.parser, hopened, slotOf, hdata, hinner]
    have hbuffer : a.parser.buffer = some e.contents := by
      simp [Walk.parser, hopened, slotOf, hdata, hinner]
    simp only [hattributes, hbuffer, Bool.false_eq_true, if_false]
    refine congrArg Except.ok (endElementDefer_eq D hopened rfl ?_ rfl ?_ ?_ rfl ?_)
    · rw [hcons]
    · simp [houter]
    · simp [houter]
    · simp [Walk.endCallback, hoffer, Walk.parser]

/-! ## Every step -/

/-- **The parser tracks the walk.** Out of the image of a walk every handler lands on the
    image of the next one, except on the events `Walk.fault` names, where it traps. No
    assumption is made about the delegates or about the stream. -/
theorem parser_tracks_walk :
    Tracks (XMLPushParser.handle D) Walk.parser (Walk.next D) Walk.fault where
  faults a event trap hfault := by
    cases event with
    | opening name attributes => exact absurd hfault (by simp [Walk.fault])
    | text bytes => exact absurd hfault (by simp [Walk.fault])
    | closing name =>
      cases hopened : a.opened with
      | nil =>
        -- Level 0 is the root's own, so its item is popped and nothing is left to report to.
        simp only [Walk.fault, hopened, Option.some.injEq] at hfault
        subst hfault
        simp [XMLPushParser.handle, XMLPushParser.endElementWithPrefix,
          XMLPushParser.endElementBody, XMLPushParser.ignoringElements, XMLPushParser.current,
          Walk.parser, hopened, stackOf, ignoreLevelOf]
      | cons e outer =>
        simp only [Walk.fault, hopened] at hfault
        split at hfault
        · rename_i hboth
          obtain ⟨hdata, hinner⟩ := Bool.and_eq_true _ _ |>.mp hboth
          obtain ⟨p, hoffer⟩ := Element.isData_iff.mp hdata
          have hend := end_of_data D hopened name hoffer
          rw [if_pos hinner] at hend
          rw [Option.some.injEq] at hfault
          rw [← hfault]
          exact hend
        · exact absurd hfault (by simp)
  steps a event hfault := by
    cases event with
    | opening name attributes =>
      cases hig : ignoring a.opened with
      | true => exact start_of_ignoring D name attributes hig
      | false => exact start_of_not_ignoring D name attributes hig
    | text bytes => exact congrArg Except.ok (parser_characters a bytes)
    | closing name =>
      cases hopened : a.opened with
      | nil => simp [Walk.fault, hopened] at hfault
      | cons e outer =>
        simp only [Walk.fault, hopened] at hfault
        cases hoffer : e.offer with
        | none =>
          have hig : ignoring (e :: outer) = true := by
            rw [ignoring_cons, (a.nestedIn hopened).offered.mp hoffer, Bool.or_true]
          exact end_of_ignoring D hopened name hig
        | some offer =>
          obtain ⟨p, answer⟩ := offer
          cases answer with
          | ignore =>
            have hignored : e.isIgnored = true := Element.isIgnored_iff.mpr ⟨p, hoffer⟩
            exact end_of_ignoring D hopened name (by rw [ignoring_cons, hignored, Bool.true_or])
          | handleWithChild child => exact end_of_child D hopened name hoffer
          | handleAsData =>
            have hdata : e.isData = true := Element.isData_iff.mpr ⟨p, hoffer⟩
            have hinner : ¬ e.innerData = true := fun h => by simp [hdata, h] at hfault
            have hend := end_of_data D hopened name hoffer
            rw [if_neg hinner] at hend
            exact hend

theorem parser_init (root : P) (world : W) :
    (Walk.init root world).parser = XMLPushParser.init root world := rfl

/-- A run that ends has ended in the image of the walk over the same stream. -/
theorem run_ok_iff {root : P} {world : W} {events : List Event} {s : XMLPushParser W P} :
    run (XMLPushParser.handle D) (.init root world) events = .ok s ↔
      firstFault (Walk.next D) Walk.fault (.init root world) events = none ∧
        s = (Walk.after D root world events).parser := by
  rw [← parser_init]
  exact (parser_tracks_walk D).run_ok_iff

end XMLPush

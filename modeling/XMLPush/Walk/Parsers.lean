import XMLPush.Source.ElementParser
import XMLPush.Walk.Order

/-!
# The parsers a walk builds

When every delegate is an `XMLSAXElementParser`, the world of a walk is the list of the
parsers built so far. It only grows, no parser changes its class, and the answer each
element got is the one its parser's element types give for its name (`Answered`).

The references say more. A child's parser is built when the child starts, so its reference
is beyond that of the parser the child was offered to, and whatever stands in the child is
offered to that parser or to one built later. Hence nothing that stands in a child element
is offered to the parser the child itself was offered to (`Built.not_standsIn`).
-/

set_option autoImplicit false

namespace XMLPush

open Nesting

variable {S : Schema}

/-! ## Objects -/

/-- The class of the object at a reference. -/
def classAt (objects : List (XMLSAXElementParser S)) (p : Reference) : Option S.Class :=
  objects[p]?.map (·.parserClass)

theorem lt_length_of_classAt {objects : List (XMLSAXElementParser S)} {p : Reference}
    {c : S.Class} (h : classAt objects p = some c) : p < objects.length := by
  obtain ⟨self, hself, -⟩ := Option.map_eq_some_iff.mp h
  exact (List.getElem?_eq_some_iff.mp hself).1

/-- Objects stay where they are and keep their class. -/
def Grown (objects objects' : List (XMLSAXElementParser S)) : Prop :=
  ∀ p c, classAt objects p = some c → classAt objects' p = some c

theorem Grown.append (objects : List (XMLSAXElementParser S)) (self : XMLSAXElementParser S) :
    Grown objects (objects ++ [self]) := by
  intro p c h
  have hlt := lt_length_of_classAt h
  unfold classAt
  rw [List.getElem?_append_left hlt]
  exact h

theorem Grown.modify {f : XMLSAXElementParser S → XMLSAXElementParser S}
    (hf : ∀ self, (f self).parserClass = self.parserClass)
    (objects : List (XMLSAXElementParser S)) (q : Reference) :
    Grown objects (objects.modify q f) := by
  intro p c h
  obtain ⟨self, hself, hclass⟩ := Option.map_eq_some_iff.mp h
  unfold classAt
  rw [List.getElem?_modify, hself]
  by_cases hq : q = p
  · simp [hq, hf, hclass]
  · simp [hq, hclass]

namespace XMLSAXElementParser

theorem parserClass_endDataElement (name : ElementName) (attributes : Attributes)
    (contents : Data) (self : XMLSAXElementParser S) :
    (self.endDataElement name attributes contents).parserClass = self.parserClass := by
  unfold endDataElement
  split <;> rfl

theorem parserClass_endChildElement (name : ElementName) (child : Reference)
    (self : XMLSAXElementParser S) :
    (self.endChildElement name child).parserClass = self.parserClass := by
  unfold endChildElement
  split <;> rfl

end XMLSAXElementParser

/-! ## Answers -/

/-- The answer is the one the element types of class `c` give for the name. -/
def Answered (objects : List (XMLSAXElementParser S)) (p : Reference) (c : S.Class)
    (name : ElementName) : SAXStartElement Reference → Prop
  | .handleAsData => (S.dataElement c name).isSome = true
  | .handleWithChild r => S.dataElement c name = none ∧ p < r ∧
      ∃ k, S.childElement c name = some k ∧ classAt objects r = some (S.type c k)
  | .ignore => S.dataElement c name = none ∧ S.childElement c name = none

theorem Answered.grown {objects objects' : List (XMLSAXElementParser S)} {p : Reference}
    {c : S.Class} {name : ElementName} {answer : SAXStartElement Reference}
    (h : Answered objects p c name answer) (hgrown : Grown objects objects') :
    Answered objects' p c name answer := by
  cases answer with
  | ignore => exact h
  | handleAsData => exact h
  | handleWithChild r =>
    obtain ⟨hdata, hlt, k, hchild, hclass⟩ := h
    exact ⟨hdata, hlt, k, hchild, hgrown r _ hclass⟩

/-- What `startElement` does: it answers by the element types, and builds at most one parser,
    which has filed nothing. -/
theorem XMLSAXElementParser.startElement_spec {objects : List (XMLSAXElementParser S)}
    {target : Reference} {c : S.Class} (hclass : classAt objects target = some c)
    (name : ElementName) :
    Answered (startElement target name objects).2 target c name (startElement target name objects).1 ∧
      Grown objects (startElement target name objects).2 ∧
      ∀ p self, (startElement target name objects).2[p]? = some self →
        objects[p]? = some self ∨ (p = objects.length ∧ ∃ c', self = init c') := by
  obtain ⟨self, hself, rfl⟩ := Option.map_eq_some_iff.mp hclass
  cases hdata : S.dataElement self.parserClass name with
  | some k =>
    simp only [startElement, hself, hdata]
    exact ⟨by simp [Answered, hdata], fun _ _ h => h, fun _ _ h => Or.inl h⟩
  | none =>
    cases hchild : S.childElement self.parserClass name with
    | none =>
      simp only [startElement, hself, hdata, hchild]
      exact ⟨⟨hdata, hchild⟩, fun _ _ h => h, fun _ _ h => Or.inl h⟩
    | some k =>
      simp only [startElement, hself, hdata, hchild]
      refine ⟨⟨hdata, lt_length_of_classAt hclass, k, hchild, ?_⟩, Grown.append _ _, ?_⟩
      · simp [classAt, init]
      · intro p other hother
        by_cases hlt : p < objects.length
        · rw [List.getElem?_append_left hlt] at hother
          exact Or.inl hother
        · rw [List.getElem?_append_right (Nat.le_of_not_lt hlt), List.getElem?_singleton] at hother
          split at hother
          · rename_i hzero
            refine Or.inr ⟨Nat.le_antisymm (Nat.sub_eq_zero_iff_le.mp hzero)
              (Nat.le_of_not_lt hlt), S.type self.parserClass k, ?_⟩
            exact (Option.some.inj hother).symm
          · cases hother

/-! ## Over a walk -/

/-- A record after an event is the record of the element that starts there, or an old one that
    has settled. -/
theorem Walk.mem_elements_next {W P : Type} (D : SAXParsable W P) {event : Event} {a : Walk W P}
    {x : Element P} (hx : x ∈ (a.next D event).elements) :
    (∃ name attributes, event = .opening name attributes ∧
      x = a.fresh name attributes (a.offer D name attributes).1) ∨
    ∃ c ∈ a.elements, ∃ bytes marks, x = c.settle bytes marks := by
  have hkept : ∀ {c : Element P}, c ∈ a.elements →
      ∃ c' ∈ a.elements, ∃ bytes marks, c = c'.settle bytes marks :=
    fun hc => ⟨_, hc, [], false, (Element.settle_nil_false _).symm⟩
  cases event with
  | opening name attributes =>
    have hmem : x ∈ a.fresh name attributes (a.offer D name attributes).1 ::
        (Walk.around (a.fresh name attributes (a.offer D name attributes).1) a.opened ++ a.closed) :=
      hx
    rw [around_eq_settle] at hmem
    rcases List.mem_cons.mp hmem with rfl | hmem
    · exact Or.inl ⟨name, attributes, rfl, rfl⟩
    · rcases List.mem_append.mp hmem with hmem | hmem
      · obtain ⟨c, hc, rfl⟩ := List.mem_map.mp hmem
        exact Or.inr ⟨c, List.mem_append_left _ hc, _, _, rfl⟩
      · exact Or.inr (hkept (List.mem_append_right _ hmem))
  | text bytes =>
    rcases List.mem_append.mp hx with hmem | hmem
    · obtain ⟨c, hc, rfl⟩ := List.mem_map.mp hmem
      exact Or.inr ⟨c, List.mem_append_left _ hc, _, _, c.receive_eq_settle bytes⟩
    · exact Or.inr (hkept (List.mem_append_right _ hmem))
  | closing name =>
    refine Or.inr (hkept ?_)
    cases hopened : a.opened with
    | nil =>
      rw [next, endElement_of_nil D name hopened] at hx
      exact hx
    | cons top outer =>
      obtain ⟨hopened', -, hclosed', -⟩ := endElement_of_opened D name hopened
      rw [elements, next, hopened', hclosed', ← List.append_assoc] at hx
      rw [elements, hopened]
      rcases List.mem_append.mp hx with hmem | hmem
      · rcases List.mem_append.mp hmem with hmem | hmem
        · exact List.mem_append_left _ (List.mem_cons_of_mem _ hmem)
        · exact List.mem_append_right _ hmem
      · rw [List.mem_singleton.mp hmem]
        exact List.mem_append_left _ List.mem_cons_self

/-- A walk over these delegates, from a root of one of the classes. -/
abbrev ParserWalk (S : Schema) := Walk (List (XMLSAXElementParser S)) Reference

namespace ParserWalk

open XMLSAXElementParser

/-- What holds of the parsers built so far. -/
structure Built (a : ParserWalk S) : Prop where
  root : ∃ c, classAt a.host.world a.root = some c
  answered : ∀ e ∈ a.elements, ∀ p answer, e.offer = some (p, answer) →
    ∃ c, classAt a.host.world p = some c ∧ Answered a.host.world p c e.name answer
  /-- What stands in a child element is offered to its parser or a later one. -/
  below : ∀ e ∈ a.elements, ∀ d ∈ a.elements, e.StandsIn d →
    ∀ r q, d.child? = some r → e.target? = some q → r ≤ q

theorem offer_of_child? {e : Element Reference} {r : Reference} (h : e.child? = some r) :
    ∃ p, e.offer = some (p, .handleWithChild r) := by
  unfold Element.child? at h
  split at h
  · rename_i p child hoffer
    cases h
    exact ⟨p, hoffer⟩
  · cases h

theorem offer_of_target? {e : Element Reference} {p : Reference} (h : e.target? = some p) :
    ∃ answer, e.offer = some (p, answer) := by
  obtain ⟨⟨q, answer⟩, hoffer, rfl⟩ := Option.map_eq_some_iff.mp h
  exact ⟨answer, hoffer⟩

namespace Built

variable {a : ParserWalk S}

/-- The child of an element is built, and later than the parser the element was offered to. -/
theorem child_spec (h : Built a) {e : Element Reference} (he : e ∈ a.elements)
    {p r : Reference} (hoffer : e.offer = some (p, .handleWithChild r)) :
    p < r ∧ ∃ c, classAt a.host.world r = some c := by
  obtain ⟨c, -, -, hlt, k, -, hclass⟩ := h.answered e he p _ hoffer
  exact ⟨hlt, _, hclass⟩

/-- The delegate of the next element is built. -/
theorem delegate_spec (h : Built a) : ∃ c, classAt a.host.world (delegate a.root a.opened) = some c := by
  have hall : ∀ opened : List (Element Reference), (∀ e ∈ opened, e ∈ a.elements) →
      ∃ c, classAt a.host.world (delegate a.root opened) = some c := by
    intro opened
    induction opened with
    | nil => exact fun _ => h.root
    | cons e outer ih =>
      intro hmem
      cases hchild : e.child? with
      | none =>
        simp only [delegate, hchild]
        exact ih fun d hd => hmem d (List.mem_cons_of_mem _ hd)
      | some r =>
        simp only [delegate, hchild]
        obtain ⟨p, hoffer⟩ := offer_of_child? hchild
        exact (h.child_spec (hmem e List.mem_cons_self) hoffer).2
  exact hall a.opened fun e he => List.mem_append_left _ he

/-- The delegate of the next element is the parser of every open child, or a later one. -/
theorem child_le_delegate (h : Built a) {d : Element Reference} (hd : d ∈ a.opened)
    {r : Reference} (hchild : d.child? = some r) : r ≤ delegate a.root a.opened := by
  have hall : ∀ opened : List (Element Reference), Nested a.root opened →
      (∀ e ∈ opened, e ∈ a.elements) → ∀ d ∈ opened, ∀ r, d.child? = some r →
        r ≤ delegate a.root opened := by
    intro opened
    induction opened with
    | nil => exact fun _ _ d hd => absurd hd (by simp)
    | cons e outer ih =>
      intro hnested hmem d hd r hchild
      have hrest := ih hnested.2 fun x hx => hmem x (List.mem_cons_of_mem _ hx)
      cases hechild : e.child? with
      | none =>
        simp only [delegate, hechild]
        rcases List.mem_cons.mp hd with rfl | hd
        · rw [hchild] at hechild
          cases hechild
        · exact hrest d hd r hchild
      | some c =>
        simp only [delegate, hechild]
        rcases List.mem_cons.mp hd with rfl | hd
        · rw [hchild] at hechild
          exact Nat.le_of_eq (Option.some.inj hechild)
        · -- `e` was offered to the delegate of the elements around it, and its child is later.
          obtain ⟨p, hoffer⟩ := offer_of_child? hechild
          have hlt := (h.child_spec (hmem e List.mem_cons_self) hoffer).1
          rw [hnested.1.target p _ hoffer] at hlt
          exact Nat.le_of_lt (Nat.lt_of_le_of_lt (hrest d hd r hchild) hlt)
  exact hall a.opened a.nested (fun e he => List.mem_append_left _ he) d hd r hchild

/-- Nothing that stands in a child element is offered to the parser the child was offered to. -/
theorem not_standsIn (h : Built a) {e d : Element Reference} (he : e ∈ a.elements)
    (hd : d ∈ a.elements) {p r : Reference} (hoffer : d.offer = some (p, .handleWithChild r))
    (htarget : e.target? = some p) : ¬ e.StandsIn d := by
  intro hin
  have hchild : d.child? = some r := by
    unfold Element.child?
    rw [hoffer]
  have hle := h.below e he d hd hin r p hchild htarget
  exact Nat.not_le.mpr (h.child_spec hd hoffer).1 hle

/-! ### Every event keeps it -/

/-- The callback of an end changes no class. -/
theorem grown_endCallback (name : ElementName) (e : Element Reference)
    (host : Host (List (XMLSAXElementParser S)) Reference) :
    Grown host.world (Walk.endCallback (parsable S) name e host).world := by
  unfold Walk.endCallback
  split
  · exact Grown.modify (parserClass_endDataElement name _ _) _ _
  · exact Grown.modify (parserClass_endChildElement name _) _ _
  · exact fun _ _ h => h
  · exact fun _ _ h => h

theorem grown_next (h : Built a) (event : Event) :
    Grown a.host.world (a.next (parsable S) event).host.world := by
  cases event with
  | opening name attributes =>
    cases hig : ignoring a.opened with
    | true =>
      have hhost : (a.next (parsable S) (.opening name attributes)).host = a.host :=
        congrArg Prod.snd (Walk.offer_of_ignoring (parsable S) name attributes hig)
      rw [hhost]
      exact fun _ _ h => h
    | false =>
      have hhost : (a.next (parsable S) (.opening name attributes)).host = _ :=
        congrArg Prod.snd (Walk.offer_of_not_ignoring (parsable S) name attributes hig)
      rw [hhost]
      obtain ⟨c, hc⟩ := h.delegate_spec
      exact (startElement_spec hc name).2.1
  | text bytes => exact fun _ _ h => h
  | closing name =>
    cases hopened : a.opened with
    | nil =>
      rw [Walk.next, Walk.endElement_of_nil _ name hopened]
      exact fun _ _ h => h
    | cons top outer =>
      rw [Walk.next, (Walk.endElement_of_opened _ name hopened).2.1]
      exact grown_endCallback name top a.host

/-- The offer of a new element, if it is not below an ignored one, is answered by the delegate
    of its place. -/
theorem offer_spec (h : Built a) (name : ElementName) (attributes : Attributes)
    {p : Reference} {answer : SAXStartElement Reference}
    (hoffer : (a.offer (parsable S) name attributes).1 = some (p, answer)) :
    p = delegate a.root a.opened ∧
      ∃ c, classAt (a.offer (parsable S) name attributes).2.world p = some c ∧
        Answered (a.offer (parsable S) name attributes).2.world p c name answer := by
  cases hig : ignoring a.opened with
  | true =>
    rw [Walk.offer_of_ignoring _ name attributes hig] at hoffer
    cases hoffer
  | false =>
    rw [Walk.offer_of_not_ignoring _ name attributes hig] at hoffer ⊢
    cases hoffer
    obtain ⟨c, hc⟩ := h.delegate_spec
    obtain ⟨hanswered, hgrown, -⟩ := startElement_spec hc name
    exact ⟨rfl, c, hgrown _ _ hc, hanswered⟩

theorem next (h : Built a) (hnumbered : Numbered a.elements) (event : Event) :
    Built (a.next (parsable S) event) := by
  have hgrown := h.grown_next event
  have hroot : (a.next (parsable S) event).root = a.root := by
    cases event with
    | opening name attributes => rfl
    | text bytes => rfl
    | closing name =>
      cases hopened : a.opened with
      | nil => rw [Walk.next, Walk.endElement_of_nil _ name hopened]
      | cons top outer => exact (Walk.endElement_of_opened _ name hopened).2.2.2
  refine ⟨?_, ?_, ?_⟩
  · obtain ⟨c, hc⟩ := h.root
    exact ⟨c, hroot ▸ hgrown _ _ hc⟩
  · intro e he p answer hoffer
    rcases Walk.mem_elements_next _ he with ⟨name, attributes, rfl, rfl⟩ | ⟨c, hc, bytes, marks, rfl⟩
    · exact (h.offer_spec name attributes hoffer).2
    · obtain ⟨cls, hclass, hanswered⟩ := h.answered c hc p answer hoffer
      exact ⟨cls, hgrown _ _ hclass, hanswered.grown hgrown⟩
  · intro e he d hd hin r q hchild htarget
    rcases Walk.mem_elements_next _ he with ⟨name, attributes, rfl, rfl⟩ | ⟨x, hx, _, _, rfl⟩
    · rcases Walk.mem_elements_next _ hd with ⟨_, _, _, rfl⟩ | ⟨y, hy, _, _, rfl⟩
      · obtain ⟨x, hx, hordinal⟩ := List.mem_map.mp hin
        have hlt := hnumbered.bounded x (List.mem_append_left _ hx)
        exact absurd hordinal (Nat.ne_of_lt hlt)
      · -- The new element stands in the open ones, and is offered to their delegate.
        have hopen : y ∈ a.opened := (hnumbered.mem_opened_iff hy).mp hin
        obtain ⟨answer, hoffer⟩ := offer_of_target? htarget
        rw [(h.offer_spec name attributes hoffer).1]
        exact h.child_le_delegate hopen hchild
    · rcases Walk.mem_elements_next _ hd with ⟨name, attributes, rfl, rfl⟩ | ⟨y, hy, _, _, rfl⟩
      · -- What started earlier does not stand in the new element.
        have hearlier := hnumbered.earlier x hx _ hin
        exact absurd (Nat.lt_trans hearlier (hnumbered.bounded x hx)) (Nat.lt_irrefl _)
      · exact h.below x hx y hy hin r q hchild htarget

end Built

end ParserWalk

end XMLPush

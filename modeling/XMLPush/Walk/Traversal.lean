import XMLPush.Walk.Basic

/-!
# The recursive traversal a walk performs

`traverse` is the meaning of a document for a family of delegates: an element is offered
to the delegate of the place it stands in; an ignored one ends there; the children of a
data element stay with the same delegate, and then it gets its own text, at every depth;
the children of a child element go to the delegate that came with the answer. It is a
structural recursion on the document, with no stack and no level.

`follow_tokens` connects it to the walk, which sees the document only as a stream: over the
stream of a document, the walk makes the callbacks of the traversal, and leaves the
elements that were open as it found them, except for the text they received.
-/

set_option autoImplicit false

namespace XMLPush

open Nesting

variable {W P : Type}

/-- The callbacks of a document, made on `target` and the delegates its answers bring. -/
def traverse (D : SAXParsable W P) : P → Content → Host W P → Host W P
  | _, .nil, h => h
  | target, .text _ rest, h => traverse D target rest h
  | target, .node name attributes content rest, h =>
    let (answer, h) := h.startElement D target name attributes
    let h :=
      match answer with
      | .ignore => h
      | .handleAsData =>
        (traverse D target content h).endDataElement D target name attributes content.allText
      | .handleWithChild child =>
        (traverse D child content h).endChildElement D target name child
    traverse D target rest h

/-- An open element after `bytes` have arrived and, if `marks`, a data element has started
    below it. -/
def Element.settle (bytes : Data) (marks : Bool) (e : Element P) : Element P :=
  { e with contents := e.contents ++ bytes, innerData := e.innerData || marks }

namespace Element

theorem settle_nil_false (e : Element P) : e.settle [] false = e := by
  simp [settle]

theorem settle_settle (bytes bytes' : Data) (marks marks' : Bool) (e : Element P) :
    (e.settle bytes marks).settle bytes' marks' =
      e.settle (bytes ++ bytes') (marks || marks') := by
  simp [settle, Bool.or_assoc]

theorem receive_eq_settle (bytes : Data) (e : Element P) :
    e.receive bytes = e.settle bytes false := by
  simp [settle, receive]

theorem encloseData_eq_settle (e : Element P) : e.encloseData = e.settle [] true := by
  simp [settle, encloseData]

end Element

namespace Walk

theorem follow_nil (D : SAXParsable W P) (a : Walk W P) : a.follow D [] = a := rfl

theorem follow_cons (D : SAXParsable W P) (a : Walk W P) (event : Event) (events : List Event) :
    a.follow D (event :: events) = (a.next D event).follow D events := rfl

theorem follow_append (D : SAXParsable W P) (a : Walk W P) (xs ys : List Event) :
    a.follow D (xs ++ ys) = (a.follow D xs).follow D ys := by
  simp [follow]

theorem around_eq_settle (e : Element P) (opened : List (Element P)) :
    around e opened = opened.map (·.settle [] e.isData) := by
  unfold around
  cases e.isData with
  | true =>
    rw [if_pos rfl]
    exact List.map_congr_left fun d _ => d.encloseData_eq_settle
  | false =>
    rw [if_neg (by simp)]
    simp [Element.settle_nil_false]

theorem map_settle_settle (bytes bytes' : Data) (marks marks' : Bool)
    (opened : List (Element P)) :
    (opened.map (·.settle bytes marks)).map (·.settle bytes' marks') =
      opened.map (·.settle (bytes ++ bytes') (marks || marks')) := by
  rw [List.map_map]
  exact List.map_congr_left fun e _ => e.settle_settle bytes bytes' marks marks'

theorem endElement_of_nil (D : SAXParsable W P) (name : ElementName) {a : Walk W P}
    (hopened : a.opened = []) : a.endElement D name = a := by
  unfold endElement
  split
  · rfl
  · rename_i hcons
    rw [hopened] at hcons
    exact absurd hcons (by simp)

theorem endElement_of_opened (D : SAXParsable W P) (name : ElementName) {a : Walk W P}
    {e : Element P} {outer : List (Element P)} (hopened : a.opened = e :: outer) :
    (a.endElement D name).opened = outer ∧
      (a.endElement D name).host = endCallback D name e a.host ∧
      (a.endElement D name).closed = a.closed ++ [e] ∧
      (a.endElement D name).root = a.root := by
  unfold endElement
  split
  · rename_i hnil
    rw [hopened] at hnil
    exact absurd hnil (by simp)
  · rename_i e' outer' hcons
    rw [hopened] at hcons
    obtain ⟨rfl, rfl⟩ := List.cons.inj hcons
    exact ⟨rfl, rfl, rfl, rfl⟩

/-- What a document leaves of a walk that was somewhere before it. -/
structure Passed (D : SAXParsable W P) (c : Content) (a b : Walk W P) : Prop where
  root : b.root = a.root
  opened : ∃ marks, b.opened = a.opened.map (·.settle c.allText marks)
  host : b.host =
    if ignoring a.opened then a.host else traverse D (delegate a.root a.opened) c a.host

/-- One element, given what its content leaves: the induction step of `follow_tokens`, with the
    four things the element can be. -/
theorem passed_element (D : SAXParsable W P) (name : ElementName) (attributes : Attributes)
    (content : Content) {a b : Walk W P}
    (h : Passed D content (a.startElement D name attributes) b) :
    Passed D (.node name attributes content .nil) a (b.endElement D name) := by
  obtain ⟨hroot, ⟨marks, hopened⟩, hhost⟩ := h
  have htext : (Forest.node name attributes content .nil : Content).allText = content.allText := by
    simp [Forest.allText]
  simp only [startElement, List.map_cons, around_eq_settle, map_settle_settle,
    List.nil_append] at hopened
  obtain ⟨hopened', hhost', -, hroot'⟩ := endElement_of_opened D name hopened
  refine ⟨hroot'.trans hroot, ⟨_, by rw [hopened', htext]⟩, ?_⟩
  rw [hhost', hhost]
  cases hig : ignoring a.opened with
  | true =>
    have hoffer := offer_of_ignoring D name attributes hig
    simp [endCallback, startElement, hoffer, fresh, Element.settle, ignoring_cons,
      ignoring_around, hig]
  | false =>
    have hoffer := offer_of_not_ignoring D name attributes hig
    cases hanswer : (a.host.startElement D (delegate a.root a.opened) name attributes).1 with
    | ignore =>
      simp [endCallback, startElement, hoffer, fresh, Element.settle, ignoring_cons, hanswer,
        Element.isIgnored, traverse]
    | handleAsData =>
      simp [endCallback, startElement, hoffer, fresh, Element.settle, ignoring_cons, hanswer,
        Element.isIgnored, ignoring_around, hig, delegate, delegate_around, Element.child?,
        traverse]
    | handleWithChild child =>
      simp [endCallback, startElement, hoffer, fresh, Element.settle, ignoring_cons, hanswer,
        Element.isIgnored, ignoring_around, hig, delegate, Element.child?, traverse]

/-- **The walk over the stream of a document performs its traversal.** -/
theorem follow_tokens (D : SAXParsable W P) (c : Content) (a : Walk W P) :
    Passed D c a (a.follow D c.tokens) := by
  induction c generalizing a with
  | nil =>
    refine ⟨rfl, ⟨false, ?_⟩, ?_⟩
    · simp [Forest.tokens, Forest.allText, follow_nil, Element.settle_nil_false]
    · simp [Forest.tokens, follow_nil, traverse]
  | text bytes rest ih =>
    obtain ⟨hroot, ⟨marks, hopened⟩, hhost⟩ := ih (a.characters bytes)
    have hfield : ∀ e : Element P, (e.receive bytes).offer = e.offer := fun _ => rfl
    refine ⟨hroot, ⟨marks, ?_⟩, ?_⟩
    · rw [Forest.tokens, follow_cons, next, hopened]
      simp only [characters, Forest.allText]
      rw [show (a.opened.map (·.receive bytes)) = a.opened.map (·.settle bytes false) from
        List.map_congr_left fun e _ => e.receive_eq_settle bytes, map_settle_settle,
        Bool.false_or]
    · rw [Forest.tokens, follow_cons, next, hhost]
      simp only [characters, ignoring_map (·.receive bytes) hfield,
        delegate_map a.root (·.receive bytes) hfield, traverse]
  | node name attributes content rest ihc ihr =>
    have helement := passed_element D name attributes content
      (ihc (a.startElement D name attributes))
    obtain ⟨hroot, ⟨marks, hopened⟩, hhost⟩ := helement
    obtain ⟨hroot', ⟨marks', hopened'⟩, hhost'⟩ :=
      ihr (((a.startElement D name attributes).follow D content.tokens).endElement D name)
    have hfield : ∀ e : Element P, (e.settle content.allText marks).offer = e.offer :=
      fun _ => rfl
    have htext : (Forest.node name attributes content .nil : Content).allText =
        content.allText := by simp [Forest.allText]
    rw [htext] at hopened
    -- The walk over a node is the walk over its content, its end, and the walk over the rest.
    have hover : a.follow D (Forest.node name attributes content rest).tokens =
        (((a.startElement D name attributes).follow D content.tokens).endElement D name).follow D
          rest.tokens := by
      rw [Forest.tokens, follow_cons, follow_append, follow_cons]
      rfl
    rw [hover]
    refine ⟨hroot'.trans hroot, ⟨marks || marks', ?_⟩, ?_⟩
    · rw [hopened', hopened, map_settle_settle, Forest.allText]
    · rw [hhost', hopened, hroot, hhost, ignoring_map _ hfield, delegate_map a.root _ hfield]
      cases hig : ignoring a.opened with
      | true => simp
      | false => simp [traverse]

end Walk

end XMLPush

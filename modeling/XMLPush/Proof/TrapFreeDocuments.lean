import XMLPush.Proof.Streams

/-!
# Documents a parser comes through

Which documents trap is a question about the answers they get, and the answers are those of
the traversal. `dataApart` follows it: no element answered `handleAsData` may have another
one below it that is answered so too. What is ignored, and what stands in different
children, does not matter.

`document_runs_iff` says that this is all. The walk is asked the same question event by
event (`firstFault_tokens`), with the induction on the document: the one event of an element
that can fault is its end, and whether it does is told by the mark its content has left.
-/

set_option autoImplicit false

namespace XMLPush

open Nesting
open Machine

variable {W P : Type}

/-- No element the traversal answers `handleAsData` holds another. -/
def dataApart (D : SAXParsable W P) : P → Content → Host W P → Bool
  | _, .nil, _ => true
  | target, .text _ rest, h => dataApart D target rest h
  | target, .node name attributes content rest, h =>
    (match h.startElement D target name attributes with
      | (.ignore, _) => true
      | (.handleAsData, h) => !takesData D target content h
      | (.handleWithChild child, h) => dataApart D child content h) &&
    dataApart D target rest (visited D target name attributes content h)

/-- What is not answered `handleAsData` at all is apart. -/
theorem dataApart_of_takesData (D : SAXParsable W P) (target : P) (content : Content)
    (h : Host W P) (hnone : takesData D target content h = false) :
    dataApart D target content h = true := by
  induction content generalizing target h with
  | nil => rfl
  | text bytes rest ih => exact ih target h hnone
  | node name attributes content rest ihc ihr =>
    simp only [takesData, Bool.or_eq_false_iff] at hnone
    obtain ⟨hcontent, hrest⟩ := hnone
    simp only [dataApart, Bool.and_eq_true]
    refine ⟨?_, ihr target _ hrest⟩
    cases hstart : h.startElement D target name attributes with
    | mk answer h₁ =>
      rw [hstart] at hcontent
      cases answer with
      | ignore => rfl
      | handleAsData => cases hcontent
      | handleWithChild child => exact ihc child h₁ hcontent

namespace Walk

/-- The end of an element after its content: it faults if the element is data and holds data. -/
theorem fault_closing_iff (D : SAXParsable W P) (name : ElementName) (attributes : Attributes)
    (content : Content) (a : Walk W P) :
    ((a.startElement D name attributes).follow D content.tokens).fault (.closing name) = none ↔
      ¬ ((a.fresh name attributes (a.offer D name attributes).1).isData = true ∧
        ignoring (a.startElement D name attributes).opened = false ∧
          takesData D (delegate a.root (a.startElement D name attributes).opened) content
            (a.startElement D name attributes).host = true) := by
  have hopened := follow_opened D content (a.startElement D name attributes)
  have hcons : (a.startElement D name attributes).opened =
      a.fresh name attributes (a.offer D name attributes).1 ::
        around (a.fresh name attributes (a.offer D name attributes).1) a.opened := rfl
  rw [hcons, List.map_cons] at hopened
  rw [fault, hopened]
  simp only [Element.settle, Element.isData, fresh, Bool.false_or, ite_eq_right_iff,
    reduceCtorEq, imp_false, Bool.and_eq_true, Bool.not_eq_eq_eq_not, Bool.not_true]
  rfl

/-- An element meets no fault, from its start to its end, if its content meets none and it is not
    data around data. -/
theorem firstFault_element (D : SAXParsable W P) (name : ElementName) (attributes : Attributes)
    (content : Content) (a : Walk W P) :
    firstFault (next D) fault a
        (.opening name attributes :: (content.tokens ++ [.closing name])) = none ↔
      firstFault (next D) fault (a.startElement D name attributes) content.tokens = none ∧
        ((a.startElement D name attributes).follow D content.tokens).fault (.closing name) =
          none := by
  have hopening : a.fault (.opening name attributes) = none := rfl
  have hone : ∀ b : Walk W P,
      firstFault (next D) fault b [.closing name] = none ↔ b.fault (.closing name) = none := by
    intro b
    cases hfault : b.fault (.closing name) with
    | none => simp [firstFault, hfault]
    | some trap => simp [firstFault, hfault]
  simp only [firstFault, hopening]
  rw [firstFault_append, hone]
  rfl

/-- One element, given what its content does: the three answers, and none. -/
theorem apart_element (D : SAXParsable W P) (name : ElementName) (attributes : Attributes)
    (content : Content) (a : Walk W P)
    (ih : ∀ a : Walk W P, firstFault (next D) fault a content.tokens = none ↔
      (ignoring a.opened = true ∨
        dataApart D (delegate a.root a.opened) content a.host = true)) :
    firstFault (next D) fault a
        (.opening name attributes :: (content.tokens ++ [.closing name])) = none ↔
      (ignoring a.opened = true ∨ dataApart D (delegate a.root a.opened)
        (.node name attributes content .nil) a.host = true) := by
  rw [firstFault_element, fault_closing_iff, ih]
  have hroot : (a.startElement D name attributes).root = a.root := rfl
  rw [hroot]
  cases hig : ignoring a.opened with
  | true =>
    have hoffer := offer_of_ignoring D name attributes hig
    simp [startElement, hoffer, fresh, Element.isData, ignoring_cons, ignoring_around, hig]
  | false =>
    have hoffer := offer_of_not_ignoring D name attributes hig
    cases hstart : a.host.startElement D (delegate a.root a.opened) name attributes with
    | mk answer h₁ =>
      cases answer with
      | ignore =>
        simp [startElement, hoffer, hstart, fresh, Element.isData, Element.isIgnored,
          ignoring_cons, dataApart]
      | handleAsData =>
        have hapart := dataApart_of_takesData D (delegate a.root a.opened) content h₁
        simp [startElement, hoffer, hstart, fresh, Element.isData, Element.isIgnored,
          ignoring_cons, ignoring_around, delegate_around, hig, delegate, Element.child?, dataApart]
        exact hapart
      | handleWithChild child =>
        simp [startElement, hoffer, hstart, fresh, Element.isData, Element.isIgnored,
          ignoring_cons, ignoring_around, hig, delegate, Element.child?, dataApart]

/-- **The stream of a document meets no fault exactly when the document's data is apart**, or
    below an element that is ignored. -/
theorem firstFault_tokens (D : SAXParsable W P) (content : Content) (a : Walk W P) :
    firstFault (next D) fault a content.tokens = none ↔
      (ignoring a.opened = true ∨
        dataApart D (delegate a.root a.opened) content a.host = true) := by
  induction content generalizing a with
  | nil => exact ⟨fun _ => Or.inr rfl, fun _ => rfl⟩
  | text bytes rest ih =>
    have hoffer : ∀ e : Element P, (e.receive bytes).offer = e.offer := fun _ => rfl
    have htext : a.fault (.text bytes) = none := rfl
    simp only [Forest.tokens, firstFault, htext]
    rw [ih, next]
    simp only [characters, ignoring_map _ hoffer, delegate_map a.root _ hoffer]
    rfl
  | node name attributes content rest ihc ihr =>
    obtain ⟨hroot, ⟨marks, hopened⟩, hhost⟩ := passed_element D name attributes content
      (follow_tokens D content (a.startElement D name attributes))
    have hoffer : ∀ e : Element P,
        (e.settle (Forest.node name attributes content .nil : Content).allText marks).offer =
          e.offer := fun _ => rfl
    have hsplit : (Forest.node name attributes content rest : Content).tokens =
        (.opening name attributes :: (content.tokens ++ [.closing name])) ++ rest.tokens := by
      simp [Forest.tokens]
    have hover : (.opening name attributes :: (content.tokens ++ [.closing name])).foldl
        (next D) a =
          ((a.startElement D name attributes).follow D content.tokens).endElement D name := by
      rw [List.foldl_cons, List.foldl_append]
      rfl
    rw [hsplit, firstFault_append, apart_element D name attributes content a ihc, hover, ihr,
      hopened, hroot, hhost, ignoring_map _ hoffer, delegate_map a.root _ hoffer]
    cases hig : ignoring a.opened with
    | true => simp
    | false =>
      simp only [Bool.false_eq_true, false_or, if_false, dataApart, Bool.and_true, Bool.and_eq_true]
      rfl

end Walk

/-- **A document is parsed without a trap if and only if its data is apart**, and then the parser
    has performed its traversal and is as it was made. -/
theorem document_runs_iff (D : SAXParsable W P) (root : P) (world : W) (doc : Content)
    (s : XMLPushParser W P) :
    run (XMLPushParser.handle D) (.init root world) doc.tokens = .ok s ↔
      dataApart D root doc (.start world) = true ∧
        s = { XMLPushParser.init root world with host := traverse D root doc (.start world) } := by
  have hapart : firstFault (Walk.next D) Walk.fault (Walk.init root world) doc.tokens = none ↔
      dataApart D root doc (.start world) = true := by
    refine (Walk.firstFault_tokens D doc (Walk.init root world)).trans ?_
    constructor
    · intro h
      exact h.resolve_left (by simp [Walk.init, ignoring])
    · exact Or.inr
  rw [run_ok_iff, hapart, after_tokens]

/-- `<d>t<c><d></d></c></d>`: the inner data element stands in a child of the outer one. -/
example : dataApart lettered 0
    (.node { localName := "d" } ∅ (.text [116] (.node { localName := "c" } ∅
      (.node { localName := "d" } ∅ .nil .nil) .nil)) .nil) (.start ()) = false := by decide

/-- `<d>t<x><d></d></x></d>`: what would be one is ignored. -/
example : dataApart lettered 0
    (.node { localName := "d" } ∅ (.text [116] (.node { localName := "x" } ∅
      (.node { localName := "d" } ∅ .nil .nil) .nil)) .nil) (.start ()) = true := by decide

end XMLPush

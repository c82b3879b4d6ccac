import XMLPush.Proof.Documents

/-!
# Any stream

Three results that ask nothing of the stream, not even that its tags nest.

* **Which event traps** (`traps_iff`): the first end with nothing open, or the first end of
  a data element that another one stands in. Everything before it is balanced, and no other
  unwrapping of the source fails on any stream.
* **A document in any context** (`document_in_context`): out of any state a run can be in,
  the stream of a complete run of sibling nodes does what its traversal does on the current
  delegate and leaves every field as it was, but for the slot of the data element around it.
* **Callbacks are never taken back** (`calls_online`): after any part of a document the
  callbacks made are the first ones of its traversal, also where a later part traps.
-/

set_option autoImplicit false

namespace XMLPush

open Nesting
open Machine

variable {W P : Type}

namespace Walk

/-! ## Which event traps -/

/-- A stream that meets no fault is balanced. -/
theorem depth_of_firstFault (D : SAXParsable W P) {events : List Event} {a : Walk W P}
    (h : firstFault (next D) fault a events = none) :
    (Brackets.depth Token.kind a.opened.length events).isSome := by
  induction events generalizing a with
  | nil => rfl
  | cons event events ih =>
    cases hfault : a.fault event with
    | some trap =>
      simp only [firstFault, hfault] at h
      cases h
    | none =>
      simp only [firstFault, hfault] at h
      rw [← depth_next D (opened_ne_nil_of_fault hfault)]
      exact ih h

/-- No fault is met exactly by a balanced stream that closes no data element around another. -/
theorem firstFault_eq_none_iff (D : SAXParsable W P) (root : P) (world : W) (events : List Event) :
    firstFault (next D) fault (init root world) events = none ↔
      Brackets.Balanced Token.kind events ∧ (after D root world events).NoDataInClosedData := by
  have hclosed : ∀ e ∈ (init root world : Walk W P).closed,
      ¬ (e.isData = true ∧ e.innerData = true) := fun e he => absurd he (by simp [init])
  rw [noDataInClosedData_iff (numbered_after D root world events)]
  constructor
  · intro h
    have hdepth := depth_of_firstFault D h
    exact ⟨hdepth, (firstFault_eq_none_iff_closed D hdepth hclosed).mp h⟩
  · rintro ⟨hbalanced, hno⟩
    exact (firstFault_eq_none_iff_closed D (a := .init root world) hbalanced hclosed).mpr hno

/-- The end comes with nothing open, or ends a data element that another one stands in. -/
def ClosesBadly (a : Walk W P) (trap : Trap) : Prop :=
  (trap = .emptyStack ∧ a.opened = []) ∨
  (trap = .nilDataAttributes ∧ ∃ e outer, a.opened = e :: outer ∧ e.isData = true ∧
    ∃ d ∈ a.elements, d.isData = true ∧ d.StandsIn e)

theorem fault_eq_some_iff {a : Walk W P} (hnumbered : Numbered a.elements) {event : Event}
    {trap : Trap} : a.fault event = some trap ↔
      ∃ name, event = .closing name ∧ a.ClosesBadly trap := by
  cases event with
  | opening name attributes => simp [fault]
  | text bytes => simp [fault]
  | closing name =>
    cases hopened : a.opened with
    | nil =>
      simp only [fault, hopened, Option.some.injEq]
      constructor
      · rintro rfl
        exact ⟨name, rfl, Or.inl ⟨rfl, hopened⟩⟩
      · rintro ⟨-, -, ⟨rfl, -⟩ | ⟨-, e, outer, hcons, -⟩⟩
        · rfl
        · rw [hopened] at hcons
          cases hcons
    | cons e outer =>
      have hmem : e ∈ a.elements := by
        rw [elements, hopened]
        exact List.mem_append_left _ List.mem_cons_self
      have hmarked := hnumbered.marked e hmem
      simp only [fault, hopened]
      constructor
      · intro h
        split at h
        · rename_i hboth
          obtain ⟨hdata, hinner⟩ := Bool.and_eq_true _ _ |>.mp hboth
          refine ⟨name, rfl, Or.inr ⟨(Option.some.inj h).symm, e, outer, hopened, hdata, ?_⟩⟩
          exact hmarked.mp hinner
        · cases h
      · rintro ⟨-, -, ⟨-, hnil⟩ | ⟨rfl, e', outer', hcons, hdata, hin⟩⟩
        · rw [hopened] at hnil
          cases hnil
        · rw [hopened] at hcons
          obtain ⟨rfl, rfl⟩ := List.cons.inj hcons
          rw [hdata, hmarked.mpr hin]
          rfl

end Walk

/-- **A run traps on the first end that closes badly**, in a stream that is balanced up to it: with
    nothing open the empty stack is unwrapped, and at the end of a data element that another one
    stands in the cleared attributes. It traps in no other way and on no other stream. -/
theorem traps_iff (D : SAXParsable W P) (root : P) (world : W) (events : List Event)
    (trap : Trap) : run (XMLPushParser.handle D) (.init root world) events = .error trap ↔
      ∃ pre name post, events = pre ++ .closing name :: post ∧
        Brackets.Balanced Token.kind pre ∧ (Walk.after D root world pre).NoDataInClosedData ∧
        (Walk.after D root world pre).ClosesBadly trap := by
  rw [← parser_init, (parser_tracks_walk D).run_eq]
  have hfirst : firstFault (Walk.next D) Walk.fault (Walk.init root world) events = some trap ↔
      ∃ pre i post, events = pre ++ i :: post ∧
        firstFault (Walk.next D) Walk.fault (Walk.init root world) pre = none ∧
        (pre.foldl (Walk.next D) (Walk.init root world)).fault i = some trap :=
    firstFault_eq_some_iff
  constructor
  · intro h
    cases hfault : firstFault (Walk.next D) Walk.fault (Walk.init root world) events with
    | none =>
      rw [hfault] at h
      cases h
    | some trap' =>
      rw [hfault] at h
      cases h
      obtain ⟨pre, event, post, hsplit, hnone, hbad⟩ := hfirst.mp hfault
      obtain ⟨hbalanced, hno⟩ := (Walk.firstFault_eq_none_iff D root world pre).mp hnone
      obtain ⟨name, rfl, hcloses⟩ :=
        (Walk.fault_eq_some_iff (Walk.numbered_after D root world pre)).mp hbad
      exact ⟨pre, name, post, hsplit, hbalanced, hno, hcloses⟩
  · rintro ⟨pre, name, post, hsplit, hbalanced, hno, hcloses⟩
    have hnone := (Walk.firstFault_eq_none_iff D root world pre).mpr ⟨hbalanced, hno⟩
    have hbad : (Walk.after D root world pre).fault (.closing name) = some trap :=
      (Walk.fault_eq_some_iff (Walk.numbered_after D root world pre)).mpr ⟨name, rfl, hcloses⟩
    rw [hfirst.mpr ⟨pre, .closing name, post, hsplit, hnone, hbad⟩]

/-! ## A document in any context -/

/-- The traversal of the document gets the answer `handleAsData`. -/
def takesData (D : SAXParsable W P) : P → Content → Host W P → Bool
  | _, .nil, _ => false
  | target, .text _ rest, h => takesData D target rest h
  | target, .node name attributes content rest, h =>
    (match h.startElement D target name attributes with
      | (.ignore, _) => false
      | (.handleAsData, _) => true
      | (.handleWithChild child, h) => takesData D child content h) ||
    takesData D target rest (visited D target name attributes content h)

theorem takesData_node (D : SAXParsable W P) (target : P) (name : ElementName)
    (attributes : Attributes) (content rest : Content) (h : Host W P) :
    takesData D target (.node name attributes content rest) h =
      (takesData D target (.node name attributes content .nil) h ||
        takesData D target rest (visited D target name attributes content h)) := by
  simp only [takesData, Bool.or_false]

namespace Walk

/-- An element is marked in those around it if it, or one in it, is answered `handleAsData`. -/
theorem marks_startElement (D : SAXParsable W P) (name : ElementName) (attributes : Attributes)
    (content : Content) (a : Walk W P) :
    ((a.fresh name attributes (a.offer D name attributes).1).isData ||
      (!ignoring (a.startElement D name attributes).opened &&
        takesData D (delegate a.root (a.startElement D name attributes).opened) content
          (a.startElement D name attributes).host)) =
    (!ignoring a.opened &&
      takesData D (delegate a.root a.opened) (.node name attributes content .nil) a.host) := by
  cases hig : ignoring a.opened with
  | true =>
    have hoffer := offer_of_ignoring D name attributes hig
    simp [startElement, hoffer, fresh, Element.isData, ignoring_cons, ignoring_around, hig]
  | false =>
    have hoffer := offer_of_not_ignoring D name attributes hig
    cases hstart : a.host.startElement D (delegate a.root a.opened) name attributes with
    | mk answer h₁ =>
      cases answer with
      | ignore =>
        simp [startElement, hoffer, hstart, fresh, Element.isData, Element.isIgnored,
          ignoring_cons, takesData]
      | handleAsData =>
        simp [startElement, hoffer, hstart, fresh, Element.isData, takesData]
      | handleWithChild child =>
        simp [startElement, hoffer, hstart, fresh, Element.isData, Element.isIgnored,
          ignoring_cons, ignoring_around, hig, delegate, Element.child?, takesData]

/-- The open elements have received the text, and are marked if a data element started. -/
theorem follow_opened (D : SAXParsable W P) (c : Content) (a : Walk W P) :
    (a.follow D c.tokens).opened = a.opened.map (·.settle c.allText
      (!ignoring a.opened && takesData D (delegate a.root a.opened) c a.host)) := by
  induction c generalizing a with
  | nil =>
    simp [Forest.tokens, Forest.allText, follow_nil, takesData, Element.settle_nil_false]
  | text bytes rest ih =>
    have hopened : (a.characters bytes).opened = a.opened.map (·.settle bytes false) :=
      List.map_congr_left fun e _ => e.receive_eq_settle bytes
    have hoffer : ∀ e : Element P, (e.settle bytes false).offer = e.offer := fun _ => rfl
    rw [Forest.tokens, follow_cons, next, ih, hopened, ignoring_map _ hoffer, map_settle_settle,
      Bool.false_or]
    have hdelegate : delegate (a.characters bytes).root (a.opened.map (·.settle bytes false)) =
        delegate a.root a.opened := delegate_map a.root _ hoffer a.opened
    rw [hdelegate]
    rfl
  | node name attributes content rest ihc ihr =>
    have hcontent := ihc (a.startElement D name attributes)
    obtain ⟨hroot, -, hhost⟩ := passed_element D name attributes content
      (follow_tokens D content (a.startElement D name attributes))
    -- The element itself is the first of the open ones, and its end takes it off them.
    have hopened : (((a.startElement D name attributes).follow D content.tokens).endElement D
        name).opened = a.opened.map (·.settle content.allText (!ignoring a.opened &&
          takesData D (delegate a.root a.opened) (.node name attributes content .nil) a.host)) := by
      rw [← marks_startElement, ← List.nil_append content.allText, ← map_settle_settle,
        ← around_eq_settle]
      exact (endElement_of_opened D name hcontent).1
    have hoffer : ∀ marks, ∀ e : Element P, (e.settle content.allText marks).offer = e.offer :=
      fun _ _ => rfl
    have hover : a.follow D (Forest.node name attributes content rest).tokens =
        (((a.startElement D name attributes).follow D content.tokens).endElement D name).follow D
          rest.tokens := by
      rw [Forest.tokens, follow_cons, follow_append, follow_cons]
      rfl
    rw [hover, ihr, hroot, hopened, ignoring_map _ (hoffer _), delegate_map a.root _ (hoffer _),
      map_settle_settle, hhost, takesData_node D _ name attributes content rest]
    cases hig : ignoring a.opened with
    | true => rfl
    | false => rfl

end Walk

/-- The slot after a document: with its text, or empty once a data element of it has ended. -/
theorem slotOf_settle (bytes : Data) (marks : Bool) (opened : List (Element P)) :
    slotOf (opened.map (·.settle bytes marks)) =
      if marks then none else (slotOf opened).map fun slot => (slot.1, slot.2 ++ bytes) := by
  cases marks with
  | true =>
    apply slotOf_of_innerData
    intro d hd
    obtain ⟨c, -, rfl⟩ := List.mem_map.mp hd
    simp [Element.settle]
  | false =>
    have hreceive : opened.map (·.settle bytes false) = opened.map (·.receive bytes) :=
      List.map_congr_left fun e _ => (e.receive_eq_settle bytes).symm
    rw [hreceive]
    exact slotOf_receive bytes opened

/-- The parser of a walk that has gone on through a document. -/
theorem parser_follow_tokens (D : SAXParsable W P) (doc : Content) (a : Walk W P) :
    (a.follow D doc.tokens).parser =
      if ignoring a.opened then
        { a.parser with buffer := a.parser.buffer.map (· ++ doc.allText) }
      else
        let took := takesData D (delegate a.root a.opened) doc a.host
        { a.parser with
          host := traverse D (delegate a.root a.opened) doc a.host
          buffer := if took then none else a.parser.buffer.map (· ++ doc.allText)
          dataAttributes := if took then none else a.parser.dataAttributes } := by
  obtain ⟨hroot, -, hhost⟩ := Walk.follow_tokens D doc a
  have hopened := Walk.follow_opened D doc a
  have hoffer : ∀ marks, ∀ e : Element P, (e.settle doc.allText marks).offer = e.offer :=
    fun _ _ => rfl
  simp only [Walk.parser, hroot, hopened, hhost, stackOf_map _ _ (hoffer _),
    ignoreLevelOf_map _ (hoffer _), List.length_map, slotOf_settle]
  cases hig : ignoring a.opened with
  | true => simp [Option.map_map, Function.comp_def]
  | false =>
    cases htook : takesData D (delegate a.root a.opened) doc a.host with
    | true => simp
    | false => simp [Option.map_map, Function.comp_def]

/-- Between events an element is being ignored exactly when the ignore level is set. -/
theorem ignoring_iff (a : Walk W P) :
    ignoring a.opened = true ↔ a.parser.ignoreElementsUntilLevel ≠ none := by
  constructor
  · intro hig hnone
    obtain ⟨level, hlevel, -⟩ := ignoreLevelOf_eq_some hig
    rw [show a.parser.ignoreElementsUntilLevel = ignoreLevelOf a.opened from rfl, hlevel] at hnone
    cases hnone
  · intro hlevel
    cases hig : ignoring a.opened with
    | true => rfl
    | false => exact absurd (ignoreLevelOf_eq_none hig) hlevel

/-- **A document in any context.** Out of any state a run has come to, whatever its stream, the
    stream of a forest performs its traversal on the current delegate and leaves all other fields
    as they are, except that the slot receives the text, or is empty if an element of the forest
    was answered `handleAsData`; and if the ignore level is set there is no callback at all. -/
theorem document_in_context (D : SAXParsable W P) (root : P) (world : W) (pre : List Event)
    (doc : Content) (s s' : XMLPushParser W P)
    (h : run (XMLPushParser.handle D) (.init root world) pre = .ok s)
    (h' : run (XMLPushParser.handle D) (.init root world) (pre ++ doc.tokens) = .ok s') :
    ∃ target, s.current = .ok target ∧
      s' = if s.ignoreElementsUntilLevel = none then
          { s with
            host := traverse D target doc s.host
            buffer := if takesData D target doc s.host then none
              else s.buffer.map (· ++ doc.allText)
            dataAttributes := if takesData D target doc s.host then none else s.dataAttributes }
        else { s with buffer := s.buffer.map (· ++ doc.allText) } := by
  obtain ⟨-, rfl⟩ := (run_ok_iff D).mp h
  obtain ⟨-, rfl⟩ := (run_ok_iff D).mp h'
  refine ⟨delegate (Walk.after D root world pre).root (Walk.after D root world pre).opened,
    current_eq rfl, ?_⟩
  rw [Walk.after, Walk.follow_append]
  refine (parser_follow_tokens D doc (Walk.after D root world pre)).trans ?_
  have hiff := ignoring_iff (Walk.after D root world pre)
  by_cases hig : ignoring (Walk.after D root world pre).opened = true
  · rw [if_pos hig, if_neg (hiff.mp hig)]
  · rw [if_neg hig, if_pos (not_not.mp (mt hiff.mpr hig))]
    rfl

/-- `<d>t` in front of `u<x>v</x>`: the open data element takes in the text, and nobody is called
    but for the start of `x`. -/
theorem text_in_context :
    ∃ s s', run (XMLPushParser.handle lettered) (.init 0 ()) [startTag "d", .text [116]] = .ok s ∧
      run (XMLPushParser.handle lettered) (.init 0 ()) ([startTag "d", .text [116]] ++
        (.text [117] (.node { localName := "x" } ∅ (.text [118] .nil) .nil) : Content).tokens) =
          .ok s' ∧
      ∃ target, s.current = .ok target ∧
        s' = if s.ignoreElementsUntilLevel = none then
            { s with
              host := traverse lettered target
                (.text [117] (.node { localName := "x" } ∅ (.text [118] .nil) .nil)) s.host
              buffer := if takesData lettered target
                  (.text [117] (.node { localName := "x" } ∅ (.text [118] .nil) .nil)) s.host
                then none else s.buffer.map (· ++ [117, 118])
              dataAttributes := if takesData lettered target
                  (.text [117] (.node { localName := "x" } ∅ (.text [118] .nil) .nil)) s.host
                then none else s.dataAttributes }
          else { s with buffer := s.buffer.map (· ++ [117, 118]) } :=
  ⟨_, _, rfl, rfl, document_in_context lettered 0 () [startTag "d", .text [116]]
    (.text [117] (.node { localName := "x" } ∅ (.text [118] .nil) .nil)) _ _ rfl rfl⟩

/-! ## Callbacks are never taken back -/

namespace Walk

theorem calls_endCallback (D : SAXParsable W P) (name : ElementName) (e : Element P)
    (h : Host W P) : h.calls <+: (endCallback D name e h).calls := by
  unfold endCallback
  split
  · exact ⟨_, (Host.endDataElement_calls D _ name _ _ h).symm⟩
  · exact ⟨_, (Host.endChildElement_calls D _ name _ h).symm⟩
  · exact List.prefix_rfl
  · exact List.prefix_rfl

/-- An event only adds to the log. -/
theorem calls_next (D : SAXParsable W P) (event : Event) (a : Walk W P) :
    a.host.calls <+: (a.next D event).host.calls := by
  cases event with
  | opening name attributes =>
    have hhost : (a.next D (.opening name attributes)).host = (a.offer D name attributes).2 := rfl
    cases hig : ignoring a.opened with
    | true =>
      exact ⟨[], by rw [List.append_nil, hhost, offer_of_ignoring D name attributes hig]⟩
    | false =>
      rw [hhost, offer_of_not_ignoring D name attributes hig]
      exact ⟨_, (Host.startElement_calls D _ name attributes a.host).symm⟩
  | text bytes => exact List.prefix_rfl
  | closing name =>
    cases hopened : a.opened with
    | nil => exact ⟨[], by rw [List.append_nil, next, endElement_of_nil D name hopened]⟩
    | cons e outer =>
      rw [next, (endElement_of_opened D name hopened).2.1]
      exact calls_endCallback D name e a.host

theorem calls_follow (D : SAXParsable W P) (events : List Event) (a : Walk W P) :
    a.host.calls <+: (a.follow D events).host.calls := by
  induction events generalizing a with
  | nil => exact List.prefix_rfl
  | cons event events ih => exact (calls_next D event a).trans (ih (a.next D event))

end Walk

/-- **Callbacks are never taken back**: after any part of a document the callbacks made are the
    first ones of its traversal, whether or not the rest of it traps. -/
theorem calls_online (D : SAXParsable W P) (root : P) (world : W) (doc : Content)
    (pre post : List Event) (hsplit : doc.tokens = pre ++ post) (s : XMLPushParser W P)
    (h : run (XMLPushParser.handle D) (.init root world) pre = .ok s) :
    s.host.calls <+: (traverse D root doc (.start world)).calls := by
  obtain ⟨-, rfl⟩ := (run_ok_iff D).mp h
  have hwhole : (Walk.after D root world doc.tokens).host = traverse D root doc (.start world) :=
    congrArg XMLPushParser.host (after_tokens D root world doc)
  rw [← hwhole, hsplit, Walk.after, Walk.after, Walk.follow_append]
  exact Walk.calls_follow D post _

/-- `<d><d></d></d>` up to the end tag that traps. -/
theorem nested_data_online :
    ∃ s, run (XMLPushParser.handle lettered) (.init 0 ())
        [startTag "d", startTag "d", endTag "d"] = .ok s ∧
      s.host.calls <+: (traverse lettered 0
        (.node { localName := "d" } ∅ (.node { localName := "d" } ∅ .nil .nil) .nil)
        (.start ())).calls :=
  ⟨_, rfl, calls_online lettered 0 ()
    (.node { localName := "d" } ∅ (.node { localName := "d" } ∅ .nil .nil) .nil)
    [startTag "d", startTag "d", endTag "d"] [endTag "d"] rfl _ rfl⟩

end XMLPush

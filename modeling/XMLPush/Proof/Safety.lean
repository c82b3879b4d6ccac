import XMLPush.Proof.Tracking
import XMLPush.Walk.Numbering

/-!
# When the parser crashes, and what its fields are when it does not

`parser_tracks_walk` leaves two questions about a well-nested stream. Which of them crash
the parser? Exactly those that close a data element another data element stands in: the
stack is never empty when it is unwrapped, and the slot is. And what are the private
fields after a stream that does not crash it? The ones the open elements determine, which
`FieldsFollow` spells out field by field.
-/

set_option autoImplicit false

namespace XMLPush

open Nesting
open Machine

variable {W P : Type}

/-! ## Names: the walk and the reader of open names agree -/

namespace Walk

/-- The names of the open elements, innermost first. -/
def names (a : Walk W P) : List ElementName := a.opened.map (·.name)

theorem names_around (e : Element P) (opened : List (Element P)) :
    (around e opened).map (·.name) = opened.map (·.name) := by
  simp [around_eq_settle, Element.settle, Function.comp_def]

/-- One event does to the walk's names what it does to the reader's. -/
theorem openNames_next (D : SAXParsable W P) {event : Event} {events : List Event} {a : Walk W P}
    (h : (openNames a.names (event :: events)).isSome) :
    openNames (a.next D event).names events = openNames a.names (event :: events) := by
  cases event with
  | opening name attributes =>
    have hnames : (a.startElement D name attributes).names = name :: a.names := by
      simp only [Walk.names, startElement, List.map_cons, names_around]
      rfl
    rw [next, hnames, openNames]
  | text bytes =>
    have hnames : (a.characters bytes).names = a.names := by
      simp [Walk.names, characters, Element.receive, Function.comp_def]
    rw [next, hnames, openNames]
  | closing name =>
    cases hopened : a.opened with
    | nil => simp [Walk.names, hopened, openNames] at h
    | cons e outer =>
      have hnames : a.names = e.name :: outer.map (·.name) := by simp [Walk.names, hopened]
      rw [hnames, openNames] at h ⊢
      split at h
      · rename_i hname
        rw [if_pos hname, Walk.names, next, (endElement_of_opened D name hopened).1]
      · exact absurd h (by simp)

/-- An event that ends nothing where nothing is open does to the number of open elements what it
    does to the depth. -/
theorem depth_next (D : SAXParsable W P) {event : Event} {a : Walk W P}
    (h : ∀ name, event = .closing name → a.opened ≠ []) (events : List Event) :
    Brackets.depth Token.kind (a.next D event).opened.length events =
      Brackets.depth Token.kind a.opened.length (event :: events) := by
  cases event with
  | opening name attributes =>
    have hlength : (a.startElement D name attributes).opened.length = a.opened.length + 1 := by
      simp only [startElement, List.length_cons, around_eq_settle, List.length_map]
    rw [next, hlength, depth_opening]
  | text bytes =>
    have hlength : (a.characters bytes).opened.length = a.opened.length := List.length_map _
    rw [next, hlength, depth_text]
  | closing name =>
    cases hopened : a.opened with
    | nil => exact absurd hopened (h name rfl)
    | cons e outer =>
      rw [next, (endElement_of_opened D name hopened).1, List.length_cons, depth_closing_succ]

/-- The end tags of a balanced stream end something… -/
theorem opened_ne_nil_of_depth {event : Event} {events : List Event} {a : Walk W P}
    (h : (Brackets.depth Token.kind a.opened.length (event :: events)).isSome) :
    ∀ name, event = .closing name → a.opened ≠ [] := by
  rintro name rfl hopened
  rw [hopened, List.length_nil, depth_closing_zero] at h
  cases h

/-- …and so do those that meet no fault. -/
theorem opened_ne_nil_of_fault {event : Event} {a : Walk W P} (h : a.fault event = none) :
    ∀ name, event = .closing name → a.opened ≠ [] := by
  rintro name rfl hopened
  simp [fault, hopened] at h

/-- What is closed stays closed. -/
theorem closed_subset_follow (D : SAXParsable W P) (events : List Event) {a : Walk W P}
    {e : Element P} (h : e ∈ a.closed) : e ∈ (a.follow D events).closed := by
  induction events generalizing a with
  | nil => exact h
  | cons event events ih =>
    refine ih ?_
    cases event with
    | opening name attributes => exact h
    | text bytes => exact h
    | closing name =>
      cases hopened : a.opened with
      | nil =>
        rw [next, endElement_of_nil D name hopened]
        exact h
      | cons e' outer =>
        rw [next, (endElement_of_opened D name hopened).2.2.1]
        exact List.mem_append_left _ h

/-! ## Which streams crash the parser -/

/-- No data element that has closed held another data element. -/
def NoDataInClosedData (a : Walk W P) : Prop :=
  ∀ e ∈ a.closed, ∀ d ∈ a.elements, e.isData = true → d.isData = true → ¬ d.StandsIn e

/-- No data element holds another. -/
def NoDataInData (a : Walk W P) : Prop :=
  ∀ e ∈ a.elements, ∀ d ∈ a.elements, e.isData = true → d.isData = true → ¬ d.StandsIn e

theorem NoDataInData.closed {a : Walk W P} (h : a.NoDataInData) : a.NoDataInClosedData :=
  fun e he => h e (List.mem_append_right _ he)

/-- The same, by the marks. -/
theorem noDataInClosedData_iff {a : Walk W P} (h : Numbered a.elements) :
    a.NoDataInClosedData ↔ ∀ e ∈ a.closed, ¬ (e.isData = true ∧ e.innerData = true) := by
  constructor
  · intro hno e he hboth
    obtain ⟨hdata, hinner⟩ := hboth
    obtain ⟨d, hd, hddata, hin⟩ := (h.marked e (List.mem_append_right _ he)).mp hinner
    exact hno e he d hd hdata hddata hin
  · intro hno e he d hd hdata hddata hin
    exact hno e he ⟨hdata, (h.marked e (List.mem_append_right _ he)).mpr ⟨d, hd, hddata, hin⟩⟩

/-- An event that closes something, if it closes, is a fault exactly when it closes a marked data element. -/
theorem fault_eq_none_iff (D : SAXParsable W P) {event : Event} {events : List Event}
    {a : Walk W P} (hdepth : (Brackets.depth Token.kind a.opened.length (event :: events)).isSome)
    (hclosed : ∀ e ∈ a.closed, ¬ (e.isData = true ∧ e.innerData = true)) :
    a.fault event = none ↔
      ∀ e ∈ (a.next D event).closed, ¬ (e.isData = true ∧ e.innerData = true) := by
  cases event with
  | opening name attributes => exact ⟨fun _ => hclosed, fun _ => rfl⟩
  | text bytes => exact ⟨fun _ => hclosed, fun _ => rfl⟩
  | closing name =>
    cases hopened : a.opened with
    | nil => exact absurd hopened (opened_ne_nil_of_depth hdepth name rfl)
    | cons e outer =>
      rw [next, (endElement_of_opened D name hopened).2.2.1]
      simp only [fault, hopened, List.mem_append, List.mem_singleton]
      constructor
      · intro hfault d hmem
        rcases hmem with hd | rfl
        · exact hclosed d hd
        · intro hboth
          obtain ⟨hdata, hinner⟩ := hboth
          simp [hdata, hinner] at hfault
      · intro hall
        have he := hall e (Or.inr rfl)
        rw [if_neg]
        simpa using he

/-- A balanced stream meets no fault exactly when no element it closes is a marked data
    element. The induction is on the stream; what is closed stays closed, so one bad record
    settles the rest of it. -/
theorem firstFault_eq_none_iff_closed (D : SAXParsable W P) {events : List Event} {a : Walk W P}
    (hdepth : (Brackets.depth Token.kind a.opened.length events).isSome)
    (hclosed : ∀ e ∈ a.closed, ¬ (e.isData = true ∧ e.innerData = true)) :
    firstFault (next D) fault a events = none ↔
      ∀ e ∈ (a.follow D events).closed, ¬ (e.isData = true ∧ e.innerData = true) := by
  induction events generalizing a with
  | nil => exact ⟨fun _ => hclosed, fun _ => rfl⟩
  | cons event events ih =>
    have hstep := fault_eq_none_iff D hdepth hclosed
    cases hfault : a.fault event with
    | none =>
      simp only [firstFault, hfault]
      rw [← depth_next D (opened_ne_nil_of_depth hdepth)] at hdepth
      exact ih hdepth (hstep.mp hfault)
    | some trap =>
      simp only [firstFault, hfault, reduceCtorEq, false_iff]
      intro hall
      have hnone := hstep.mpr fun e he => hall e (closed_subset_follow D events he)
      rw [hfault] at hnone
      exact absurd hnone (by simp)

/-- The only fault of a balanced stream is an empty slot: the stack never runs out. -/
theorem firstFault_of_depth (D : SAXParsable W P) {events : List Event} {a : Walk W P}
    {trap : Trap} (hdepth : (Brackets.depth Token.kind a.opened.length events).isSome)
    (h : firstFault (next D) fault a events = some trap) : trap = .nilDataAttributes := by
  induction events generalizing a with
  | nil => exact absurd h (by simp [firstFault])
  | cons event events ih =>
    cases hfault : a.fault event with
    | none =>
      simp only [firstFault, hfault] at h
      rw [← depth_next D (opened_ne_nil_of_depth hdepth)] at hdepth
      exact ih hdepth h
    | some trap' =>
      simp only [firstFault, hfault, Option.some.injEq] at h
      subst h
      cases event with
      | opening name attributes => exact absurd hfault (by simp [fault])
      | text bytes => exact absurd hfault (by simp [fault])
      | closing name =>
        cases hopened : a.opened with
        | nil => exact absurd hopened (opened_ne_nil_of_depth hdepth name rfl)
        | cons e outer =>
          simp only [fault, hopened] at hfault
          split at hfault
          · exact (Option.some.inj hfault).symm
          · exact absurd hfault (by simp)

end Walk

/-- A balanced stream runs to its end exactly when no data element it closes holds another, and
    then it ends in the image of the walk. The names of its end tags are not looked at. -/
theorem run_balanced_iff (D : SAXParsable W P) (root : P) (world : W) {events : List Event}
    (h : Brackets.Balanced Token.kind events) {s : XMLPushParser W P} :
    run (XMLPushParser.handle D) (.init root world) events = .ok s ↔
      (Walk.after D root world events).NoDataInClosedData ∧
        s = (Walk.after D root world events).parser := by
  rw [run_ok_iff, Walk.noDataInClosedData_iff (Walk.numbered_after D root world events),
    Walk.firstFault_eq_none_iff_closed D (a := .init root world) h (by simp [Walk.init])]
  rfl

/-- …and so does a well-nested one. -/
theorem run_wellNested_iff (D : SAXParsable W P) (root : P) (world : W) {events : List Event}
    (h : WellNested events) {s : XMLPushParser W P} :
    run (XMLPushParser.handle D) (.init root world) events = .ok s ↔
      (Walk.after D root world events).NoDataInClosedData ∧
        s = (Walk.after D root world events).parser :=
  run_balanced_iff D root world h.balanced

/-- **A well-nested stream crashes the parser exactly when it closes a data element that
    another data element stands in**, and then by unwrapping the empty slot: the stack never
    runs out. -/
theorem wellNested_runs_iff (D : SAXParsable W P) (root : P) (world : W)
    (events : List Event) (h : WellNested events) :
    ((∃ s, run (XMLPushParser.handle D) (.init root world) events = .ok s) ↔
      (Walk.after D root world events).NoDataInClosedData) ∧
    ∀ trap, run (XMLPushParser.handle D) (.init root world) events = .error trap →
      trap = .nilDataAttributes := by
  constructor
  · constructor
    · intro hruns
      obtain ⟨s, hs⟩ := hruns
      exact ((run_wellNested_iff D root world h).mp hs).1
    · intro hno
      exact ⟨_, (run_wellNested_iff D root world h).mpr ⟨hno, rfl⟩⟩
  · intro trap htrap
    rw [← parser_init, (parser_tracks_walk D).run_eq] at htrap
    cases hfirst : firstFault (Walk.next D) Walk.fault (Walk.init root world) events with
    | none => rw [hfirst] at htrap; exact absurd htrap (by simp)
    | some trap' =>
      rw [hfirst] at htrap
      rw [← Except.error.inj htrap]
      exact Walk.firstFault_of_depth D (a := .init root world) h.balanced hfirst

/-- Delegates that read their answer off the element's name: `d` is data, `c` is a child with
    a delegate of its own, anything else is ignored. -/
def lettered : SAXParsable Unit Nat where
  startElement target name _ world :=
    (if name.localName = "d" then .handleAsData
      else if name.localName = "c" then .handleWithChild (target + 1) else .ignore, world)
  endDataElement _ _ _ _ world := world
  endChildElement _ _ _ world := world

/-- The start tag `<localName>`. -/
def startTag (localName : String) : Event := .opening { localName := localName } ∅

/-- The end tag `</localName>`. -/
def endTag (localName : String) : Event := .closing { localName := localName }

/-- `<d><d></d></d>` crashes the parser: the inner end clears the slot the outer end unwraps. -/
theorem nested_data_traps :
    WellNested [startTag "d", startTag "d", endTag "d", endTag "d"] ∧
      run (XMLPushParser.handle lettered) (.init 0 ())
        [startTag "d", startTag "d", endTag "d", endTag "d"] = .error .nilDataAttributes :=
  ⟨by decide, rfl⟩

/-- `<c><d></d><x></x><d>`, cut off there, does not. -/
theorem sibling_data_runs :
    (∃ s, run (XMLPushParser.handle lettered) (.init 0 ())
      [startTag "c", startTag "d", endTag "d", startTag "x", endTag "x", startTag "d"] =
        .ok s) :=
  (wellNested_runs_iff lettered 0 ()
    [startTag "c", startTag "d", endTag "d", startTag "x", endTag "x", startTag "d"]
    (by decide)).1.mpr (by
      unfold Walk.NoDataInClosedData
      decide)

end XMLPush

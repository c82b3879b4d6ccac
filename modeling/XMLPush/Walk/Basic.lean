import XMLPush.Source.Parsable

/-!
# The walk: a document being read, element by element

This is what the push parser is *for*, stated without its counters. A walk keeps one
record for each element of the document so far — the open ones as a stack, the closed
ones in the order they closed — and each record says everything that happened to its
element: the delegate it was offered to and the answer it got, the characters received
since its start, whether an element below it was answered as data. Nothing is shared
between records and nothing is ever cleared.

So the walk never crashes, and the questions the source answers by comparing levels are
answered here by looking: an element is below an ignored one if an open record was
answered `ignore`; the delegate of the next element is the one that came with the
innermost open `handleWithChild`; the contents of a data element are its own.

`Nested` is what makes the stack of open records possible at all, and a `Walk` carries
it, so a walk that violates it cannot be written down.
-/

set_option autoImplicit false

namespace XMLPush

open Nesting

variable {W P : Type}

/-- The record of one element of the document. -/
structure Element (P : Type) where
  /-- How many elements started before it. -/
  ordinal : Nat
  /-- The ordinals of the elements it stands in, innermost first. -/
  ancestors : List Nat
  name : ElementName
  attributes : Attributes
  /-- The delegate it was offered to, and the answer; `none` below an ignored element. -/
  offer : Option (P × SAXStartElement P)
  /-- The characters received since its start, at every depth. -/
  contents : Data
  /-- An element below it was answered `handleAsData`. -/
  innerData : Bool

namespace Element

def isIgnored (e : Element P) : Bool :=
  match e.offer with
  | some (_, .ignore) => true
  | _ => false

def isData (e : Element P) : Bool :=
  match e.offer with
  | some (_, .handleAsData) => true
  | _ => false

def child? (e : Element P) : Option P :=
  match e.offer with
  | some (_, .handleWithChild child) => some child
  | _ => none

/-- The delegate it was offered to. -/
def target? (e : Element P) : Option P := e.offer.map Prod.fst

/-- Characters arrive while the element is open. -/
def receive (bytes : Data) (e : Element P) : Element P :=
  { e with contents := e.contents ++ bytes }

/-- A data element starts below the open element. -/
def encloseData (e : Element P) : Element P := { e with innerData := true }

@[simp] theorem receive_innerData (bytes : Data) (e : Element P) :
    (e.receive bytes).innerData = e.innerData := rfl
@[simp] theorem receive_isData (bytes : Data) (e : Element P) :
    (e.receive bytes).isData = e.isData := rfl

theorem isData_congr {d e : Element P} (h : d.offer = e.offer) : d.isData = e.isData := by
  simp only [isData, h]

theorem isIgnored_congr {d e : Element P} (h : d.offer = e.offer) :
    d.isIgnored = e.isIgnored := by
  simp only [isIgnored, h]

theorem child?_congr {d e : Element P} (h : d.offer = e.offer) : d.child? = e.child? := by
  simp only [child?, h]

/-- What an element is follows from its offer, which is what every later proof splits on. -/
theorem isData_iff {e : Element P} :
    e.isData = true ↔ ∃ p, e.offer = some (p, .handleAsData) := by
  unfold isData
  split
  · rename_i p hoffer
    simp [hoffer]
  · rename_i hne
    simp only [Bool.false_eq_true, false_iff, not_exists]
    exact hne

theorem isIgnored_iff {e : Element P} :
    e.isIgnored = true ↔ ∃ p, e.offer = some (p, .ignore) := by
  unfold isIgnored
  split
  · rename_i p hoffer
    simp [hoffer]
  · rename_i hne
    simp only [Bool.false_eq_true, false_iff, not_exists]
    exact hne

end Element

/-! ## The stack of open elements -/

/-- An open element was answered `ignore`. -/
def ignoring (opened : List (Element P)) : Bool := opened.any (·.isIgnored)

/-- The delegate the next element is offered to: the one the nearest open element answered
    `handleWithChild` brought, and the root if there is none. -/
def delegate (root : P) : List (Element P) → P
  | [] => root
  | e :: rest =>
    match e.child? with
    | some child => child
    | none => delegate root rest

/-- How an open element stands to the ones around it, `outer`. -/
structure NestedIn (root : P) (outer : List (Element P)) (e : Element P) : Prop where
  /-- It was offered to a delegate unless an ignored element is open around it. -/
  offered : e.offer = none ↔ ignoring outer = true
  /-- …and to the delegate of the elements around it. -/
  target : ∀ p answer, e.offer = some (p, answer) → p = delegate root outer
  /-- If it is a data element or holds one, the elements around it hold one. -/
  inner : e.isData = true ∨ e.innerData = true → ∀ d ∈ outer, d.innerData = true

/-- Every open element stands so to the ones around it. -/
def Nested (root : P) : List (Element P) → Prop
  | [] => True
  | e :: outer => NestedIn root outer e ∧ Nested root outer

theorem ignoring_cons (e : Element P) (outer : List (Element P)) :
    ignoring (e :: outer) = (e.isIgnored || ignoring outer) := by
  simp [ignoring]

theorem ignoring_map (f : Element P → Element P) (hf : ∀ e, (f e).offer = e.offer)
    (opened : List (Element P)) : ignoring (opened.map f) = ignoring opened := by
  unfold ignoring
  rw [List.any_map]
  exact congrArg (opened.any ·) (funext fun e => Element.isIgnored_congr (hf e))

theorem delegate_map (root : P) (f : Element P → Element P) (hf : ∀ e, (f e).offer = e.offer)
    (opened : List (Element P)) : delegate root (opened.map f) = delegate root opened := by
  induction opened with
  | nil => rfl
  | cons e rest ih =>
    have hchild : (f e).child? = e.child? := Element.child?_congr (hf e)
    simp only [List.map_cons, delegate, hchild, ih]

/-- Updating the records leaves them nested, if it leaves the offers alone and does not
    lower the marks of one record without lowering those of the ones inside it. -/
theorem Nested.map {root : P} (f : Element P → Element P) (hoffer : ∀ e, (f e).offer = e.offer)
    (hinner : ∀ d e, (e.innerData = true → d.innerData = true) →
      (f e).innerData = true → (f d).innerData = true)
    (hdata : ∀ d, d.innerData = true → (f d).innerData = true) :
    ∀ {opened : List (Element P)}, Nested root opened → Nested root (opened.map f)
  | [], _ => trivial
  | e :: outer, h => by
    obtain ⟨⟨hoff, htgt, hinn⟩, hrest⟩ := h
    refine ⟨⟨?_, ?_, ?_⟩, hrest.map f hoffer hinner hdata⟩
    · rw [hoffer, ignoring_map f hoffer]
      exact hoff
    · intro p answer hp
      rw [hoffer] at hp
      rw [delegate_map root f hoffer]
      exact htgt p answer hp
    · intro hor d hd
      obtain ⟨c, hc, rfl⟩ := List.mem_map.mp hd
      rcases hor with hor | hor
      · rw [Element.isData_congr (hoffer e)] at hor
        exact hdata c (hinn (Or.inl hor) c hc)
      · exact hinner c e (fun he => hinn (Or.inr he) c hc) hor

theorem Nested.receive {root : P} {opened : List (Element P)} (bytes : Data)
    (h : Nested root opened) : Nested root (opened.map (·.receive bytes)) :=
  h.map (·.receive bytes) (fun _ => rfl) (fun _ _ himp he => himp he) (fun _ hd => hd)

theorem Nested.encloseData {root : P} {opened : List (Element P)} (h : Nested root opened) :
    Nested root (opened.map (·.encloseData)) :=
  h.map (·.encloseData) (fun _ => rfl) (fun _ _ _ _ => rfl) (fun _ _ => rfl)

/-- What was offered at all was offered outside every ignored element. -/
theorem NestedIn.not_ignoring {root : P} {outer : List (Element P)} {e : Element P}
    {offer : P × SAXStartElement P} (h : NestedIn root outer e) (hoffer : e.offer = some offer) :
    ignoring outer = false := by
  have := mt h.offered.mpr (by simp [hoffer])
  simpa using this

/-! ## Walks -/

/-- A document up to some point. -/
@[ext] structure Walk (W P : Type) where
  root : P
  /-- The open elements, innermost first. -/
  opened : List (Element P)
  /-- The closed ones, in the order they closed. -/
  closed : List (Element P)
  host : Host W P
  nested : Nested root opened

namespace Walk

/-- Nothing read yet. -/
def init (root : P) (world : W) : Walk W P where
  root := root
  opened := []
  closed := []
  host := .start world
  nested := trivial

theorem nestedIn (a : Walk W P) {e : Element P} {outer : List (Element P)}
    (hopened : a.opened = e :: outer) : NestedIn a.root outer e := by
  have h := a.nested
  rw [hopened] at h
  exact h.1

/-- Every element started so far. -/
def elements (a : Walk W P) : List (Element P) := a.opened ++ a.closed

/-- The record an element starts with. -/
def fresh (a : Walk W P) (name : ElementName) (attributes : Attributes)
    (offer : Option (P × SAXStartElement P)) : Element P where
  ordinal := a.elements.length
  ancestors := a.opened.map (·.ordinal)
  name := name
  attributes := attributes
  offer := offer
  contents := []
  innerData := false

/-- The open elements, once one more has started inside them. -/
def around (e : Element P) (opened : List (Element P)) : List (Element P) :=
  if e.isData then opened.map (·.encloseData) else opened

/-- What a new element is offered, and what that leaves of the delegates: nothing below an
    ignored element, and otherwise an answer from the delegate of the place it stands in. -/
def offer (D : SAXParsable W P) (name : ElementName) (attributes : Attributes)
    (a : Walk W P) : Option (P × SAXStartElement P) × Host W P :=
  if ignoring a.opened then (none, a.host)
  else
    let target := delegate a.root a.opened
    let (answer, host) := a.host.startElement D target name attributes
    (some (target, answer), host)

theorem offer_of_ignoring (D : SAXParsable W P) (name : ElementName) (attributes : Attributes)
    {a : Walk W P} (h : ignoring a.opened = true) :
    a.offer D name attributes = (none, a.host) := by
  simp only [offer, h, if_true]

theorem offer_of_not_ignoring (D : SAXParsable W P) (name : ElementName) (attributes : Attributes)
    {a : Walk W P} (h : ignoring a.opened = false) :
    a.offer D name attributes =
      let offered := a.host.startElement D (delegate a.root a.opened) name attributes
      (some (delegate a.root a.opened, offered.1), offered.2) := by
  simp only [offer, h, Bool.false_eq_true, if_false]

theorem ignoring_around (e : Element P) (opened : List (Element P)) :
    ignoring (around e opened) = ignoring opened := by
  unfold around
  split
  · exact ignoring_map (·.encloseData) (fun _ => rfl) opened
  · rfl

theorem delegate_around (root : P) (e : Element P) (opened : List (Element P)) :
    delegate root (around e opened) = delegate root opened := by
  unfold around
  split
  · exact delegate_map root (·.encloseData) (fun _ => rfl) opened
  · rfl

/-- A new element leaves the open ones nested. -/
theorem nested_fresh (D : SAXParsable W P) (name : ElementName) (attributes : Attributes)
    (a : Walk W P) :
    let e := a.fresh name attributes (a.offer D name attributes).1
    Nested a.root (e :: around e a.opened) := by
  intro e
  refine ⟨⟨?_, ?_, ?_⟩, ?_⟩
  · rw [ignoring_around]
    cases hig : ignoring a.opened with
    | true => simp [e, fresh, offer_of_ignoring D name attributes hig]
    | false => simp [e, fresh, offer_of_not_ignoring D name attributes hig]
  · intro p answer hp
    rw [delegate_around]
    cases hig : ignoring a.opened with
    | true => simp [e, fresh, offer_of_ignoring D name attributes hig] at hp
    | false =>
      simp only [e, fresh, offer_of_not_ignoring D name attributes hig, Option.some.injEq,
        Prod.mk.injEq] at hp
      exact hp.1.symm
  · intro hor d hd
    have hdata : e.isData = true := hor.resolve_right (by simp [e, fresh])
    rw [around, if_pos hdata] at hd
    obtain ⟨c, _, rfl⟩ := List.mem_map.mp hd
    rfl
  · unfold around
    split
    · exact a.nested.encloseData
    · exact a.nested

/-- An element starts. -/
def startElement (D : SAXParsable W P) (name : ElementName) (attributes : Attributes)
    (a : Walk W P) : Walk W P :=
  let offered := a.offer D name attributes
  let e := a.fresh name attributes offered.1
  { a with
    opened := e :: around e a.opened
    host := offered.2
    nested := nested_fresh D name attributes a }

/-- Characters arrive: every open element receives them. -/
def characters (bytes : Data) (a : Walk W P) : Walk W P :=
  { a with opened := a.opened.map (·.receive bytes), nested := a.nested.receive bytes }

/-- The callback an element gets at its end. -/
def endCallback (D : SAXParsable W P) (name : ElementName) (e : Element P) (h : Host W P) :
    Host W P :=
  match e.offer with
  | some (target, .handleAsData) => h.endDataElement D target name e.attributes e.contents
  | some (target, .handleWithChild child) => h.endChildElement D target name child
  | some (_, .ignore) => h
  | none => h

/-- The innermost open element ends. -/
def endElement (D : SAXParsable W P) (name : ElementName) (a : Walk W P) : Walk W P :=
  match hopened : a.opened with
  | [] => a
  | e :: outer =>
    { a with
      opened := outer
      closed := a.closed ++ [e]
      host := endCallback D name e a.host
      nested := by
        have h := a.nested
        rw [hopened] at h
        exact h.2 }

/-- One event. -/
def next (D : SAXParsable W P) (a : Walk W P) : Event → Walk W P
  | .opening name attributes => a.startElement D name attributes
  | .text bytes => a.characters bytes
  | .closing name => a.endElement D name

/-- The walk over a stream. -/
def follow (D : SAXParsable W P) (a : Walk W P) (events : List Event) : Walk W P :=
  events.foldl (next D) a

/-- The walk over a stream from its beginning. -/
def after (D : SAXParsable W P) (root : P) (world : W) (events : List Event) : Walk W P :=
  (init root world).follow D events

end Walk

end XMLPush

import XMLPush.Proof.Safety
import XMLPush.Walk.Parsers

/-!
# What the parsers have filed

After any part of a document, every `XMLSAXElementParser` built so far holds exactly what
the elements offered to it have left there: under each data key the text and attributes of
the data elements it stands for, under each child key the parsers of the child elements,
in document order, and no key for which there is none (`elements_filed`).

The key is made twice, at the start of an element to answer and at its end to file, with
different tests and possibly by way of other parsers in between. What ties the two is the
record of the element: `Answered` says what the first test found, and `Ended` is what the
end does to each parser, by the record alone. Filing is then in closing order, and the
elements filed in one dictionary do not stand in one another, so that is document order.
-/

set_option autoImplicit false

namespace XMLPush

open Nesting
open Machine
open Dictionary
open ParserWalk

variable {S : Schema}

namespace XMLSAXElementParser

/-! ## Entries -/

/-- What an element leaves in the `data` of a parser of class `c` at `p`, once it has closed: the
    string its contents encode, empty if they are no UTF-8, and its attributes. -/
def dataEntry (c : S.Class) (p : Reference) (e : Element Reference) :
    Option (S.DataElement c × XMLDataElement) :=
  if e.target? = some p then
    (S.dataElement c e.name).map fun key =>
      (key, { value := (Utf8.decode? e.contents).getD "", attributes := e.attributes })
  else none

/-- What it leaves in the `children`. -/
def childEntry (c : S.Class) (p : Reference) (e : Element Reference) :
    Option (S.ChildElement c × Reference) :=
  if e.target? = some p ∧ S.dataElement c e.name = none then
    match S.childElement c e.name, e.child? with
    | some key, some child => some (key, child)
    | _, _ => none
  else none

/-- The parser holds what these elements, closed in this order, leave in it. -/
def Holds (closed : List (Element Reference)) (p : Reference) (self : XMLSAXElementParser S) :
    Prop :=
  Filed self.data (closed.filterMap (dataEntry self.parserClass p)) ∧
    Filed self.children (closed.filterMap (childEntry self.parserClass p))

theorem dataEntry_of_target?_ne {c : S.Class} {p : Reference} {e : Element Reference}
    (h : e.target? ≠ some p) : dataEntry c p e = none := if_neg h

theorem childEntry_of_target?_ne {c : S.Class} {p : Reference} {e : Element Reference}
    (h : e.target? ≠ some p) : childEntry c p e = none := if_neg fun hboth => h hboth.1

/-- What has an entry among the children was offered here and has a parser. -/
theorem child?_of_childEntry {c : S.Class} {p : Reference} {e : Element Reference}
    (h : (childEntry c p e).isSome = true) : e.target? = some p ∧ ∃ child, e.child? = some child := by
  unfold childEntry at h
  split at h
  · rename_i hoffered
    cases hchild : e.child? with
    | none =>
      rw [hchild] at h
      cases hkey : S.childElement c e.name with
      | none =>
        rw [hkey] at h
        cases h
      | some key =>
        rw [hkey] at h
        cases h
    | some child => exact ⟨hoffered.1, child, rfl⟩
  · cases h

theorem filterMap_append_singleton {α β : Type} (f : α → Option β) (xs : List α) (x : α) :
    (xs ++ [x]).filterMap f = xs.filterMap f ++ (f x).toList := by
  rw [List.filterMap_append]
  cases hx : f x with
  | none => simp [hx]
  | some y => simp [hx]

/-- An element that leaves nothing changes nothing. -/
theorem Holds.append_of_none {closed : List (Element Reference)} {p : Reference}
    {self : XMLSAXElementParser S} (h : Holds closed p self) {e : Element Reference}
    (hdata : dataEntry self.parserClass p e = none)
    (hchild : childEntry self.parserClass p e = none) : Holds (closed ++ [e]) p self := by
  unfold Holds
  rw [filterMap_append_singleton, filterMap_append_singleton, hdata, hchild, Option.toList_none,
    Option.toList_none, List.append_nil, List.append_nil]
  exact h

/-! ## The end of an element -/

/-- What the end of an element does to the parser at `p`. -/
def ended (e : Element Reference) (p : Reference) (self : XMLSAXElementParser S) :
    XMLSAXElementParser S :=
  match e.offer with
  | some (q, .handleAsData) =>
    if q = p then self.endDataElement e.name e.attributes e.contents else self
  | some (q, .handleWithChild child) => if q = p then self.endChildElement e.name child else self
  | some (_, .ignore) => self
  | none => self

theorem world_endCallback (e : Element Reference)
    (host : Host (List (XMLSAXElementParser S)) Reference) (p : Reference) :
    (Walk.endCallback (parsable S) e.name e host).world[p]? =
      host.world[p]?.map (ended e p) := by
  have hmap : ∀ f : XMLSAXElementParser S → XMLSAXElementParser S, (∀ self, f self = self) →
      host.world[p]? = host.world[p]?.map f := by
    intro f hf
    cases host.world[p]? with
    | none => rfl
    | some self => exact congrArg some (hf self).symm
  cases hoffer : e.offer with
  | none =>
    simp only [Walk.endCallback, hoffer]
    exact hmap _ fun self => by simp only [ended, hoffer]
  | some offer =>
    obtain ⟨q, answer⟩ := offer
    cases answer with
    | ignore =>
      simp only [Walk.endCallback, hoffer]
      exact hmap _ fun self => by simp only [ended, hoffer]
    | handleAsData =>
      have hended : ended e p = fun self : XMLSAXElementParser S =>
          if q = p then self.endDataElement e.name e.attributes e.contents else self := by
        funext self
        simp only [ended, hoffer]
      simp only [Walk.endCallback, hoffer, hended]
      exact List.getElem?_modify _ q host.world p
    | handleWithChild child =>
      have hended : ended e p = fun self : XMLSAXElementParser S =>
          if q = p then self.endChildElement e.name child else self := by
        funext self
        simp only [ended, hoffer]
      simp only [Walk.endCallback, hoffer, hended]
      exact List.getElem?_modify _ q host.world p

theorem ended_of_target?_ne {e : Element Reference} {p : Reference} (h : e.target? ≠ some p)
    (self : XMLSAXElementParser S) : ended e p self = self := by
  cases hoffer : e.offer with
  | none => simp only [ended, hoffer]
  | some offer =>
    obtain ⟨q, answer⟩ := offer
    have hq : ¬ q = p := by
      intro heq
      apply h
      simp [Element.target?, hoffer, heq]
    cases answer with
    | ignore => simp only [ended, hoffer]
    | handleAsData => simp only [ended, hoffer, if_neg hq]
    | handleWithChild child => simp only [ended, hoffer, if_neg hq]

/-- The end of a data element files its text and its attributes. -/
theorem Holds.ended_data {closed : List (Element Reference)} {p : Reference}
    {self : XMLSAXElementParser S} (h : Holds closed p self) {e : Element Reference}
    (hoffer : e.offer = some (p, .handleAsData)) {key : S.DataElement self.parserClass}
    (hkey : S.dataElement self.parserClass e.name = some key) :
    Holds (closed ++ [e]) p (ended e p self) := by
  have htarget : e.target? = some p := by simp [Element.target?, hoffer]
  have hdata : dataEntry self.parserClass p e =
      some (key, { value := (Utf8.decode? e.contents).getD "", attributes := e.attributes }) := by
    simp [dataEntry, htarget, hkey]
  have hchild : childEntry self.parserClass p e = none := by simp [childEntry, hkey]
  have hended : ended e p self = { self with
      data := file key { value := (Utf8.decode? e.contents).getD "", attributes := e.attributes }
        self.data } := by
    simp only [ended, hoffer, if_true, endDataElement, hkey, stringFromData_eq_getD]
  rw [hended]
  constructor
  · show Filed _ ((closed ++ [e]).filterMap (dataEntry self.parserClass p))
    rw [filterMap_append_singleton, hdata]
    exact h.1.file _ _
  · show Filed self.children ((closed ++ [e]).filterMap (childEntry self.parserClass p))
    rw [filterMap_append_singleton, hchild]
    simpa using h.2

/-- The end of a child element files its parser. -/
theorem Holds.ended_child {closed : List (Element Reference)} {p : Reference}
    {self : XMLSAXElementParser S} (h : Holds closed p self) {e : Element Reference}
    {child : Reference} (hoffer : e.offer = some (p, .handleWithChild child))
    (hnone : S.dataElement self.parserClass e.name = none)
    {key : S.ChildElement self.parserClass}
    (hkey : S.childElement self.parserClass e.name = some key) :
    Holds (closed ++ [e]) p (ended e p self) := by
  have htarget : e.target? = some p := by simp [Element.target?, hoffer]
  have hdata : dataEntry self.parserClass p e = none := by simp [dataEntry, hnone]
  have hchild : childEntry self.parserClass p e = some (key, child) := by
    simp [childEntry, htarget, hnone, hkey, Element.child?, hoffer]
  have hended : ended e p self = { self with children := file key child self.children } := by
    simp only [ended, hoffer, if_true, endChildElement, hkey]
  rw [hended]
  constructor
  · show Filed self.data ((closed ++ [e]).filterMap (dataEntry self.parserClass p))
    rw [filterMap_append_singleton, hdata]
    simpa using h.1
  · show Filed _ ((closed ++ [e]).filterMap (childEntry self.parserClass p))
    rw [filterMap_append_singleton, hchild]
    exact h.2.file _ _

/-- **The end of an element files what its start promised.** -/
theorem Holds.ended {closed : List (Element Reference)} {p : Reference}
    {self : XMLSAXElementParser S} (h : Holds closed p self)
    (objects : List (XMLSAXElementParser S)) {e : Element Reference}
    (hanswered : ∀ answer, e.offer = some (p, answer) →
      Answered objects p self.parserClass e.name answer) :
    Holds (closed ++ [e]) p (ended e p self) := by
  by_cases htarget : e.target? = some p
  · obtain ⟨answer, hoffer⟩ := offer_of_target? htarget
    have hanswer := hanswered answer hoffer
    cases answer with
    | ignore =>
      obtain ⟨hdata, hchild⟩ := hanswer
      have hself : XMLSAXElementParser.ended e p self = self := by
        simp only [XMLSAXElementParser.ended, hoffer]
      rw [hself]
      apply h.append_of_none
      · simp [dataEntry, hdata]
      · simp [childEntry, hchild]
    | handleAsData =>
      obtain ⟨key, hkey⟩ := Option.isSome_iff_exists.mp hanswer
      exact h.ended_data hoffer hkey
    | handleWithChild child =>
      obtain ⟨hdata, -, key, hkey, -⟩ := hanswer
      exact h.ended_child hoffer hdata hkey
  · rw [ended_of_target?_ne htarget]
    exact h.append_of_none (dataEntry_of_target?_ne htarget) (childEntry_of_target?_ne htarget)

end XMLSAXElementParser

/-! ## Over a walk -/

namespace ParserWalk

open XMLSAXElementParser

/-- Every parser built so far holds what the closed elements leave in it. -/
def AllHold (a : ParserWalk S) : Prop :=
  ∀ p self, a.host.world[p]? = some self → Holds a.closed p self

/-- A parser nothing was offered to yet has nothing filed. -/
theorem holds_init {a : ParserWalk S} (hbuilt : Built a) (c : S.Class) {p : Reference}
    (hp : p = a.host.world.length) : Holds a.closed p (init c) := by
  have htarget : ∀ e ∈ a.closed, e.target? ≠ some p := by
    intro e he htarget
    obtain ⟨answer, hoffer⟩ := offer_of_target? htarget
    obtain ⟨c', hclass, -⟩ := hbuilt.answered e (List.mem_append_right _ he) p answer hoffer
    exact absurd hp (Nat.ne_of_lt (lt_length_of_classAt hclass))
  have hdata : a.closed.filterMap (dataEntry c p) = [] :=
    List.filterMap_eq_nil_iff.mpr fun e he => dataEntry_of_target?_ne (htarget e he)
  have hchild : a.closed.filterMap (childEntry c p) = [] :=
    List.filterMap_eq_nil_iff.mpr fun e he => childEntry_of_target?_ne (htarget e he)
  constructor
  · show Filed ∅ (a.closed.filterMap (dataEntry c p))
    rw [hdata]
    exact Filed.nil
  · show Filed ∅ (a.closed.filterMap (childEntry c p))
    rw [hchild]
    exact Filed.nil

/-- An event that nests keeps every parser holding what it should. -/
theorem allHold_next {a : ParserWalk S} (hbuilt : Built a) (hall : AllHold a) {event : Event}
    {events : List Event} (hnames : (openNames a.names (event :: events)).isSome) :
    AllHold (a.next (parsable S) event) := by
  cases event with
  | text bytes => exact hall
  | opening name attributes =>
    intro p self hself
    show Holds a.closed p self
    cases hig : ignoring a.opened with
    | true =>
      have hhost : (a.next (parsable S) (.opening name attributes)).host = a.host :=
        congrArg Prod.snd (Walk.offer_of_ignoring (parsable S) name attributes hig)
      rw [hhost] at hself
      exact hall p self hself
    | false =>
      have hhost : (a.next (parsable S) (.opening name attributes)).host = _ :=
        congrArg Prod.snd (Walk.offer_of_not_ignoring (parsable S) name attributes hig)
      rw [hhost] at hself
      obtain ⟨c, hc⟩ := hbuilt.delegate_spec
      rcases (startElement_spec hc name).2.2 p self hself with hold | ⟨hp, c', rfl⟩
      · exact hall p self hold
      · exact holds_init hbuilt c' hp
  | closing name =>
    cases hopened : a.opened with
    | nil => simp [Walk.names, hopened, openNames] at hnames
    | cons top outer =>
      -- The end has the name of the element it ends, so it files under the same key.
      have hname : name = top.name := by
        simp only [Walk.names, hopened, List.map_cons, openNames] at hnames
        by_contra hne
        rw [if_neg hne] at hnames
        cases hnames
      subst hname
      obtain ⟨-, hhost, hclosed, -⟩ := Walk.endElement_of_opened (parsable S) top.name hopened
      intro p self hself
      rw [Walk.next, hhost, world_endCallback] at hself
      obtain ⟨old, hold, rfl⟩ := Option.map_eq_some_iff.mp hself
      rw [Walk.next, hclosed]
      refine (hall p old hold).ended a.host.world ?_
      intro answer hoffer
      have hmem : top ∈ a.elements := by
        rw [Walk.elements, hopened]
        exact List.mem_append_left _ List.mem_cons_self
      obtain ⟨c, hclass, hanswered⟩ := hbuilt.answered top hmem p answer hoffer
      have hc : c = old.parserClass := by
        rw [classAt, hold] at hclass
        exact (Option.some.inj hclass).symm
      rw [← hc]
      exact hanswered

theorem built_follow {a : ParserWalk S} (hbuilt : Built a) (hall : AllHold a)
    (hnumbered : Numbered a.elements) {events : List Event}
    (hnames : (openNames a.names events).isSome) :
    Built (a.follow (parsable S) events) ∧ AllHold (a.follow (parsable S) events) := by
  induction events generalizing a with
  | nil => exact ⟨hbuilt, hall⟩
  | cons event events ih =>
    apply ih (hbuilt.next hnumbered event) (allHold_next hbuilt hall hnames)
    · exact Walk.numbered_next _ event hnumbered
    · rw [Walk.openNames_next _ hnames]
      exact hnames

/-- Over every well-nested stream, from a root that has filed nothing. -/
theorem built_after (c : S.Class) {events : List Event} (h : WellNested events) :
    Built (Walk.after (parsable S) 0 [init c] events) ∧
      AllHold (Walk.after (parsable S) 0 [init c] events) := by
  have hbuilt : Built (Walk.init 0 [init c] : ParserWalk S) :=
    ⟨⟨c, rfl⟩, fun e he => absurd he (by simp [Walk.init, Walk.elements]),
      fun e he => absurd he (by simp [Walk.init, Walk.elements])⟩
  have hall : AllHold (Walk.init 0 [init c] : ParserWalk S) := by
    intro p self hself
    cases p with
    | zero =>
      cases hself
      exact ⟨Filed.nil, Filed.nil⟩
    | succ p => cases hself
  exact built_follow hbuilt hall (Walk.numbered_after (parsable S) 0 [init c] []) h

/-! ## In document order -/

/-- What the parser at `p` has filed, in terms of the document. -/
structure FiledAs (a : ParserWalk S) (p : Reference) (self : XMLSAXElementParser S) : Prop where
  /-- Under each key the data of the closed elements it stands for, in document order; no key
      for none. -/
  data : Filed self.data ((documentOrder a.closed).filterMap (dataEntry self.parserClass p))
  /-- The same for the parsers of the closed child elements. -/
  children : Filed self.children
    ((documentOrder a.closed).filterMap (childEntry self.parserClass p))
  /-- A child element has a parser, of the class its key names. -/
  parsers : ∀ e ∈ a.elements, e.target? = some p → S.dataElement self.parserClass e.name = none →
    ∀ key, S.childElement self.parserClass e.name = some key →
      ∃ r child, e.child? = some r ∧ a.host.world[r]? = some child ∧
        child.parserClass = S.type self.parserClass key
  /-- Below an element neither type accepts nothing is offered to any parser. -/
  rejected : ∀ e ∈ a.elements, e.target? = some p → S.dataElement self.parserClass e.name = none →
    S.childElement self.parserClass e.name = none →
      ∀ d ∈ a.elements, d.StandsIn e → d.target? = none

/-- The answer an element got, from the class of the parser it was offered to. -/
theorem answered_of_target? {a : ParserWalk S} (hbuilt : Built a) {p : Reference}
    {self : XMLSAXElementParser S} (hself : a.host.world[p]? = some self) {e : Element Reference}
    (he : e ∈ a.elements) (htarget : e.target? = some p) :
    ∃ answer, e.offer = some (p, answer) ∧
      Answered a.host.world p self.parserClass e.name answer := by
  obtain ⟨answer, hoffer⟩ := offer_of_target? htarget
  obtain ⟨c, hclass, hanswered⟩ := hbuilt.answered e he p answer hoffer
  rw [classAt, hself] at hclass
  cases hclass
  exact ⟨answer, hoffer, hanswered⟩

/-- What has an entry among the data is a data element. -/
theorem isData_of_dataEntry {a : ParserWalk S} (hbuilt : Built a) {p : Reference}
    {self : XMLSAXElementParser S} (hself : a.host.world[p]? = some self) {e : Element Reference}
    (he : e ∈ a.elements) (h : (dataEntry self.parserClass p e).isSome = true) :
    e.isData = true := by
  unfold dataEntry at h
  split at h
  · rename_i htarget
    obtain ⟨answer, hoffer, hanswered⟩ := answered_of_target? hbuilt hself he htarget
    rw [Option.isSome_map] at h
    cases answer with
    | handleAsData => exact Element.isData_iff.mpr ⟨p, hoffer⟩
    | ignore =>
      rw [hanswered.1] at h
      cases h
    | handleWithChild child =>
      rw [hanswered.1] at h
      cases h
  · cases h

/-- The data is filed in document order: no data stands in closed data. -/
theorem data_inDocumentOrder {a : ParserWalk S} (hbuilt : Built a)
    (hnumbered : Numbered a.elements) (horder : a.InOrder) (hapart : a.NoDataInClosedData)
    {p : Reference} {self : XMLSAXElementParser S} (hself : a.host.world[p]? = some self) :
    (documentOrder a.closed).filterMap (dataEntry self.parserClass p) =
      a.closed.filterMap (dataEntry self.parserClass p) := by
  apply filterMap_documentOrder _ horder hnumbered
  intro e he d hd hesome hdsome
  have heE : e ∈ a.elements := List.mem_append_right _ he
  have hdE : d ∈ a.elements := List.mem_append_right _ hd
  exact hapart d hd e heE (isData_of_dataEntry hbuilt hself hdE hdsome)
    (isData_of_dataEntry hbuilt hself heE hesome)

/-- So are the children: what stands in a child element is not offered to the parser that files
    the child. -/
theorem children_inDocumentOrder {a : ParserWalk S} (hbuilt : Built a)
    (hnumbered : Numbered a.elements) (horder : a.InOrder) (p : Reference) (c : S.Class) :
    (documentOrder a.closed).filterMap (childEntry c p) = a.closed.filterMap (childEntry c p) := by
  apply filterMap_documentOrder _ horder hnumbered
  intro e he d hd hesome hdsome
  obtain ⟨hdtarget, child, hchild⟩ := child?_of_childEntry hdsome
  obtain ⟨q, hoffer⟩ := offer_of_child? hchild
  have hq : q = p := by
    rw [Element.target?, hoffer] at hdtarget
    exact Option.some.inj hdtarget
  subst hq
  exact hbuilt.not_standsIn (List.mem_append_right _ he) (List.mem_append_right _ hd) hoffer
    (child?_of_childEntry hesome).1

theorem filedAs_of_holds {a : ParserWalk S} (hbuilt : Built a) (hnumbered : Numbered a.elements)
    (horder : a.InOrder) (hapart : a.NoDataInClosedData) {p : Reference}
    {self : XMLSAXElementParser S} (hself : a.host.world[p]? = some self)
    (hholds : Holds a.closed p self) : FiledAs a p self := by
  refine ⟨?_, ?_, ?_, ?_⟩
  · rw [data_inDocumentOrder hbuilt hnumbered horder hapart hself]
    exact hholds.1
  · rw [children_inDocumentOrder hbuilt hnumbered horder]
    exact hholds.2
  · intro e he htarget hdata key hkey
    obtain ⟨answer, hoffer, hanswered⟩ := answered_of_target? hbuilt hself he htarget
    cases answer with
    | ignore =>
      rw [hanswered.2] at hkey
      cases hkey
    | handleAsData =>
      have hsome : (S.dataElement self.parserClass e.name).isSome = true := hanswered
      rw [hdata] at hsome
      cases hsome
    | handleWithChild r =>
      -- The answer brought the parser that was built for the element's own type.
      obtain ⟨-, -, key', hkey', hclass⟩ := hanswered
      rw [hkey] at hkey'
      cases hkey'
      obtain ⟨child, hchild, hclass⟩ := Option.map_eq_some_iff.mp hclass
      refine ⟨r, child, ?_, hchild, hclass⟩
      simp only [Element.child?, hoffer]
  · intro e he htarget hdata hchild d hd hin
    obtain ⟨answer, hoffer, hanswered⟩ := answered_of_target? hbuilt hself he htarget
    cases answer with
    | ignore =>
      have hignored : e.isIgnored = true := Element.isIgnored_iff.mpr ⟨p, hoffer⟩
      rw [Element.target?, hnumbered.hushed e he d hd hignored hin]
      rfl
    | handleAsData =>
      have hsome : (S.dataElement self.parserClass e.name).isSome = true := hanswered
      rw [hdata] at hsome
      cases hsome
    | handleWithChild r =>
      obtain ⟨-, -, key, hkey, -⟩ := hanswered
      rw [hchild] at hkey
      cases hkey

end ParserWalk

/-- What a stream has not done at its end it has not done at any point of it. -/
theorem noDataInClosedData_of_append {W P : Type} (D : SAXParsable W P) (root : P) (world : W)
    {pre post : List Event} (h : (Walk.after D root world (pre ++ post)).NoDataInClosedData) :
    (Walk.after D root world pre).NoDataInClosedData := by
  rw [Walk.noDataInClosedData_iff (Walk.numbered_after D root world _)] at h ⊢
  intro e he
  apply h
  rw [Walk.after, Walk.follow_append]
  exact Walk.closed_subset_follow D post he

open XMLSAXElementParser in
/-- **The parsers file the document.** For every family of element types and every well-nested
    stream in which no element recorded as data holds another one: at every point of it the
    run has not trapped, and every parser built so far has filed exactly the closed elements
    offered to it, in document order. -/
theorem elements_filed (S : Schema) (c : S.Class) (events : List Event) (h : WellNested events)
    (hapart : (Walk.after (parsable S) 0 [init c] events).NoDataInClosedData)
    (pre post : List Event) (hsplit : events = pre ++ post) :
    ∃ s, run (XMLPushParser.handle (parsable S)) (.init 0 [init c]) pre = .ok s ∧
      ∀ p self, s.host.world[p]? = some self →
        ParserWalk.FiledAs (Walk.after (parsable S) 0 [init c] pre) p self := by
  subst hsplit
  have hpre := h.of_append
  have hapartPre := noDataInClosedData_of_append (parsable S) 0 [init c] hapart
  refine ⟨_, (run_wellNested_iff (parsable S) 0 [init c] hpre).mpr ⟨hapartPre, rfl⟩, ?_⟩
  intro p self hself
  obtain ⟨hbuilt, hall⟩ := ParserWalk.built_after c hpre
  exact ParserWalk.filedAs_of_holds hbuilt (Walk.numbered_after _ _ _ pre)
    (Walk.inOrder_after _ _ _ pre) hapartPre hself (hall p self hself)

/-- One class: `d` is data, and `c` and `d` are children of the same class. -/
def letters : Schema where
  Class := Unit
  DataElement _ := Unit
  ChildElement _ := Unit
  decidableEqData _ := inferInstanceAs (DecidableEq Unit)
  decidableEqChild _ := inferInstanceAs (DecidableEq Unit)
  dataElement _ name := if name.localName = "d" then some () else none
  childElement _ name := if name.localName = "c" ∨ name.localName = "d" then some () else none
  type _ _ := ()

open XMLSAXElementParser in
/-- `<c><d>t</d><x></x></c>`, at the end of the first child of `c`. -/
theorem letters_filed :
    ∃ s, run (XMLPushParser.handle (parsable letters)) (.init 0 [init ()])
        [startTag "c", startTag "d", .text [116], endTag "d"] = .ok s ∧
      ∀ p self, s.host.world[p]? = some self →
        ParserWalk.FiledAs (Walk.after (parsable letters) 0 [init ()]
          [startTag "c", startTag "d", .text [116], endTag "d"]) p self :=
  elements_filed letters ()
    [startTag "c", startTag "d", .text [116], endTag "d", startTag "x", endTag "x", endTag "c"]
    (by decide)
    (by
      unfold Walk.NoDataInClosedData
      decide)
    [startTag "c", startTag "d", .text [116], endTag "d"] [startTag "x", endTag "x", endTag "c"] rfl

end XMLPush

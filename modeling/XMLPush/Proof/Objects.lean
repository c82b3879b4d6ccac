import XMLPush.Proof.Conversation
import XMLPush.Proof.Filing

/-!
# The parsers as objects

`XMLSAXElementParser` is a class: what is filed under a child key is a reference, and the
object it refers to could in principle change, or be filed again, after a caller has read
it. None of that happens, on any stream.

* **Objects only grow** (`parsers_grow`). Nothing filed is moved, changed or taken out, and
  `datum` does not change once it answers. This needs nothing of the parser but that it
  reaches the delegates through their methods (`run_host`).
* **Each object is in one place** (`parsers_placed`): on the stack, or filed under one key of
  one parser. So a complete document leaves a tree of objects.
* **What is filed is finished** (`filed_unchanged`): a parser that has been filed is never
  called again, so it stays as it is whatever comes after.
-/

set_option autoImplicit false

namespace XMLPush

open Nesting
open Machine

/-! ## What a run does to the delegates -/

section Hosts

variable {W P : Type}

/-- What one event can do to the delegates. -/
inductive HostStep (D : SAXParsable W P) (h : Host W P) : Host W P → Prop where
  | none : HostStep D h h
  | startElement (target : P) (name : ElementName) (attributes : Attributes) :
      HostStep D h (h.startElement D target name attributes).2
  | endDataElement (target : P) (name : ElementName) (attributes : Attributes) (contents : Data) :
      HostStep D h (h.endDataElement D target name attributes contents)
  | endChildElement (target : P) (name : ElementName) (child : P) :
      HostStep D h (h.endChildElement D target name child)

/-- The answer only goes to the parser's own fields. -/
theorem XMLPushParser.answered_host (attributes : Attributes) (s : XMLPushParser W P)
    (answer : SAXStartElement P) : (s.answered attributes answer).host = s.host := by
  cases answer <;> rfl

theorem endElementBody_host {D : SAXParsable W P} {name : ElementName} {s s' : XMLPushParser W P}
    (h : s.endElementBody D name = .ok s') : HostStep D s.host s'.host := by
  unfold XMLPushParser.endElementBody at h
  split at h
  · cases h
    exact .none
  · split at h
    · cases h
    · rename_i last rest hstack
      split at h
      · obtain ⟨current, -, h⟩ := bind_eq_ok h
        cases h
        exact .endChildElement current name last.parseItem
      · obtain ⟨current, -, h⟩ := bind_eq_ok h
        split at h
        · cases h
        · split at h
          · cases h
          · cases h
            exact .endDataElement current name _ _

theorem handle_host {D : SAXParsable W P} {event : Event} {s s' : XMLPushParser W P}
    (h : XMLPushParser.handle D s event = .ok s') : HostStep D s.host s'.host := by
  cases event with
  | opening name attributes =>
    unfold XMLPushParser.handle XMLPushParser.startElementWithPrefix at h
    simp only at h
    split at h
    · cases h
      exact .none
    · obtain ⟨current, -, h⟩ := bind_eq_ok h
      cases h
      rw [XMLPushParser.answered_host]
      exact .startElement current name attributes
  | text bytes =>
    cases h
    exact .none
  | closing name =>
    obtain ⟨t, hbody, h⟩ := bind_eq_ok h
    cases h
    exact (endElementBody_host hbody : HostStep D s.host t.host)

/-- **What the methods of the delegates keep, a run keeps.** -/
theorem run_host {D : SAXParsable W P} {R : Host W P → Host W P → Prop} (hrefl : ∀ h, R h h)
    (htrans : ∀ h h' h'', R h h' → R h' h'' → R h h'')
    (hstep : ∀ h h', HostStep D h h' → R h h') {events : List Event} {s s' : XMLPushParser W P}
    (hrun : run (XMLPushParser.handle D) s events = .ok s') : R s.host s'.host := by
  refine run_invariant (P := fun t => R s.host t.host) ?_ (hrefl s.host) hrun
  intro t event t' ht hnext
  exact htrans _ _ _ ht (hstep _ _ (handle_host hnext))

end Hosts

/-! ## Objects only grow -/

namespace XMLSAXElementParser

variable {S : Schema}

/-- The same object later: more may have been filed. -/
def Later (self self' : XMLSAXElementParser S) : Prop :=
  ∃ data children, self' = { self with data := data, children := children } ∧
    Dictionary.Extends self.data data ∧ Dictionary.Extends self.children children

theorem Later.refl (self : XMLSAXElementParser S) : Later self self :=
  ⟨self.data, self.children, rfl, .refl _, .refl _⟩

theorem Later.trans {self self' self'' : XMLSAXElementParser S} (h : Later self self')
    (h' : Later self' self'') : Later self self'' := by
  obtain ⟨data, children, rfl, hdata, hchildren⟩ := h
  obtain ⟨data', children', rfl, hdata', hchildren'⟩ := h'
  exact ⟨data', children', rfl, hdata.trans hdata', hchildren.trans hchildren'⟩

theorem later_endDataElement (name : ElementName) (attributes : Attributes) (contents : Data)
    (self : XMLSAXElementParser S) : Later self (self.endDataElement name attributes contents) := by
  unfold endDataElement
  split
  · exact .refl self
  · exact ⟨_, _, rfl, Dictionary.extends_file _ _ _, .refl _⟩

theorem later_endChildElement (name : ElementName) (child : Reference)
    (self : XMLSAXElementParser S) : Later self (self.endChildElement name child) := by
  unfold endChildElement
  split
  · exact .refl self
  · exact ⟨_, _, rfl, .refl _, Dictionary.extends_file _ _ _⟩

/-- Every object is still there, and the same later. -/
def AllLater (objects objects' : List (XMLSAXElementParser S)) : Prop :=
  ∀ (p : Reference) self, objects[p]? = some self →
    ∃ self', objects'[p]? = some self' ∧ Later self self'

theorem AllLater.refl (objects : List (XMLSAXElementParser S)) : AllLater objects objects :=
  fun _ self h => ⟨self, h, .refl self⟩

theorem AllLater.trans {objects objects' objects'' : List (XMLSAXElementParser S)}
    (h : AllLater objects objects') (h' : AllLater objects' objects'') :
    AllLater objects objects'' := by
  intro p self hself
  obtain ⟨self', hself', hlater⟩ := h p self hself
  obtain ⟨self'', hself'', hlater'⟩ := h' p self' hself'
  exact ⟨self'', hself'', hlater.trans hlater'⟩

theorem allLater_modify {f : XMLSAXElementParser S → XMLSAXElementParser S}
    (hf : ∀ self, Later self (f self)) (objects : List (XMLSAXElementParser S)) (q : Reference) :
    AllLater objects (objects.modify q f) := by
  intro p self hself
  rw [List.getElem?_modify, hself]
  by_cases hq : q = p
  · exact ⟨f self, by simp [hq], hf self⟩
  · exact ⟨self, by simp [hq], .refl self⟩

theorem allLater_startElement (target : Reference) (name : ElementName)
    (objects : List (XMLSAXElementParser S)) :
    AllLater objects (startElement target name objects).2 := by
  unfold startElement
  split
  · exact .refl objects
  · split
    · exact .refl objects
    · split
      · exact .refl objects
      · intro p self hself
        have hlt := (List.getElem?_eq_some_iff.mp hself).1
        exact ⟨self, by rw [List.getElem?_append_left hlt]; exact hself, .refl self⟩

theorem allLater_hostStep {h h' : Host (List (XMLSAXElementParser S)) Reference}
    (hstep : HostStep (parsable S) h h') : AllLater h.world h'.world := by
  cases hstep with
  | none => exact .refl h.world
  | startElement target name attributes => exact allLater_startElement target name h.world
  | endDataElement target name attributes contents =>
    exact allLater_modify (later_endDataElement name attributes contents) h.world target
  | endChildElement target name child =>
    exact allLater_modify (later_endChildElement name child) h.world target

/-- What `datum` has answered it answers later. -/
theorem Later.datum {self : XMLSAXElementParser S} {data children}
    (h : Dictionary.Extends self.data data) {key : S.DataElement self.parserClass}
    {element : XMLDataElement} (hdatum : self.datum key = some element) :
    XMLSAXElementParser.datum { self with data := data, children := children } key =
      some element := by
  obtain ⟨elements, hlookup, hhead⟩ := Option.bind_eq_some_iff.mp hdatum
  obtain ⟨more, hmore⟩ := h key elements hlookup
  refine Option.bind_eq_some_iff.mpr ⟨elements ++ more, hmore, ?_⟩
  rw [List.head?_append, hhead]
  rfl

end XMLSAXElementParser

open XMLSAXElementParser in
/-- **Nothing filed is ever moved, changed or taken out.** Between any two points of any run every
    parser keeps its class, every list it has filed stays the start of the list under its key,
    and `datum` keeps its answer. -/
theorem parsers_grow (S : Schema) (c : S.Class) (pre post : List Event)
    (s s' : XMLPushParser (List (XMLSAXElementParser S)) Reference)
    (h : run (XMLPushParser.handle (parsable S)) (.init 0 [init c]) pre = .ok s)
    (h' : run (XMLPushParser.handle (parsable S)) (.init 0 [init c]) (pre ++ post) = .ok s')
    (p : Reference) (self : XMLSAXElementParser S) (hself : s.host.world[p]? = some self) :
    ∃ data children,
      s'.host.world[p]? = some { self with data := data, children := children } ∧
      Dictionary.Extends self.data data ∧ Dictionary.Extends self.children children ∧
      ∀ key element, self.datum key = some element →
        datum { self with data := data, children := children } key = some element := by
  rw [run_append_ok h] at h'
  have hlater : AllLater s.host.world s'.host.world :=
    run_host (R := fun g g' => AllLater g.world g'.world) (fun g => .refl g.world)
      (fun _ _ _ hg hg' => hg.trans hg') (fun _ _ => allLater_hostStep) h'
  obtain ⟨_, hself', data, children, rfl, hdata, hchildren⟩ := hlater p self hself
  exact ⟨data, children, hself', hdata, hchildren, fun _ _ => Later.datum hdata⟩

open XMLSAXElementParser in
/-- From inside `<c><d>t</d>` to its end. -/
theorem letters_grow :
    ∃ s s', run (XMLPushParser.handle (parsable letters)) (.init 0 [init ()])
        [startTag "c", startTag "d", .text [116], endTag "d"] = .ok s ∧
      run (XMLPushParser.handle (parsable letters)) (.init 0 [init ()])
        ([startTag "c", startTag "d", .text [116], endTag "d"] ++ [endTag "c"]) = .ok s' ∧
      ∃ self, s.host.world[1]? = some self ∧ ∃ data children,
        s'.host.world[1]? = some { self with data := data, children := children } ∧
        Dictionary.Extends self.data data ∧ Dictionary.Extends self.children children ∧
        ∀ key element, self.datum key = some element →
          datum { self with data := data, children := children } key = some element :=
  ⟨_, _, rfl, rfl, _, rfl, parsers_grow letters ()
    [startTag "c", startTag "d", .text [116], endTag "d"] [endTag "c"] _ _ rfl rfl 1 _ rfl⟩

/-! ## Each object is in one place -/

namespace XMLSAXElementParser

variable {S : Schema}

/-- The references filed in any parser. -/
def filedIn (objects : List (XMLSAXElementParser S)) : List Reference :=
  objects.flatMap fun self => Dictionary.contents self.children

theorem contents_endDataElement (name : ElementName) (attributes : Attributes) (contents : Data)
    (self : XMLSAXElementParser S) :
    Dictionary.contents (self.endDataElement name attributes contents).children =
      Dictionary.contents self.children := by
  unfold endDataElement
  split <;> rfl

/-- The end of a child files it, unless the name is not that of a child. -/
theorem contents_endChildElement (name : ElementName) (child : Reference)
    (self : XMLSAXElementParser S) :
    (S.childElement self.parserClass name = none ∧
      Dictionary.contents (self.endChildElement name child).children =
        Dictionary.contents self.children) ∨
    (Dictionary.contents (self.endChildElement name child).children).Perm
      (child :: Dictionary.contents self.children) := by
  unfold endChildElement
  split
  · rename_i hkey
    exact Or.inl ⟨hkey, rfl⟩
  · exact Or.inr (Dictionary.contents_file _ child self.children)

theorem filedIn_append (objects objects' : List (XMLSAXElementParser S)) :
    filedIn (objects ++ objects') = filedIn objects ++ filedIn objects' := List.flatMap_append

theorem filedIn_cons (self : XMLSAXElementParser S) (objects : List (XMLSAXElementParser S)) :
    filedIn (self :: objects) = Dictionary.contents self.children ++ filedIn objects :=
  List.flatMap_cons

/-- One parser files more, and the others what they did. -/
theorem filedIn_modify {f : XMLSAXElementParser S → XMLSAXElementParser S}
    {objects : List (XMLSAXElementParser S)} {p : Reference} {self : XMLSAXElementParser S}
    (hself : objects[p]? = some self) (more : List Reference)
    (hf : (Dictionary.contents (f self).children).Perm
      (more ++ Dictionary.contents self.children)) :
    (filedIn (objects.modify p f)).Perm (more ++ filedIn objects) := by
  obtain ⟨hlt, hget⟩ := List.getElem?_eq_some_iff.mp hself
  have hsplit : objects = objects.take p ++ self :: objects.drop (p + 1) := by
    rw [← hget, List.getElem_cons_drop, List.take_append_drop]
  have hmodify : filedIn (objects.modify p f) = filedIn (objects.take p) ++
      (Dictionary.contents (f self).children ++ filedIn (objects.drop (p + 1))) := by
    rw [List.modify_eq_take_cons_drop hlt, hget, filedIn_append, filedIn_cons]
  have hfiled : filedIn objects = filedIn (objects.take p) ++
      (Dictionary.contents self.children ++ filedIn (objects.drop (p + 1))) := by
    rw [← filedIn_cons, ← filedIn_append, ← hsplit]
  rw [hmodify, hfiled]
  refine (List.Perm.append_left _ (hf.append_right _)).trans ?_
  rw [List.append_assoc]
  exact List.perm_append_comm_assoc _ more _

/-- What `startElement` does to the objects: a child is one more, at the end. -/
theorem startElement_cases {objects : List (XMLSAXElementParser S)} {target : Reference}
    {self : XMLSAXElementParser S} (hself : objects[target]? = some self) (name : ElementName) :
    ((startElement target name objects).2 = objects ∧
      ∀ child, (startElement target name objects).1 ≠ .handleWithChild child) ∨
    ∃ c, startElement target name objects =
      (.handleWithChild objects.length, objects ++ [init c]) := by
  cases hdata : S.dataElement self.parserClass name with
  | some key =>
    rw [startElement_of_data hself hdata]
    exact Or.inl ⟨rfl, fun _ h => by cases h⟩
  | none =>
    cases hchild : S.childElement self.parserClass name with
    | none =>
      rw [startElement_of_neither hself hdata hchild]
      exact Or.inl ⟨rfl, fun _ h => by cases h⟩
    | some key => exact Or.inr ⟨_, startElement_of_child hself hdata hchild⟩

end XMLSAXElementParser

namespace ParserWalk

open XMLSAXElementParser

variable {S : Schema}

/-- The parsers that may still be called: those of the open child elements, and the root. -/
def standing (a : ParserWalk S) : List Reference := a.opened.filterMap Element.child? ++ [a.root]

theorem filterMap_child?_settle (bytes : Data) (marks : Bool) (opened : List (Element Reference)) :
    (opened.map (·.settle bytes marks)).filterMap Element.child? =
      opened.filterMap Element.child? := by
  rw [List.filterMap_map]
  rfl

/-- The delegate of the next element is one of them. -/
theorem delegate_mem (root : Reference) (opened : List (Element Reference)) :
    delegate root opened ∈ opened.filterMap Element.child? ++ [root] := by
  induction opened with
  | nil => exact List.mem_singleton_self root
  | cons e outer ih =>
    cases hchild : e.child? with
    | none =>
      rw [List.filterMap_cons_none hchild]
      simp only [delegate, hchild]
      exact ih
    | some child =>
      rw [List.filterMap_cons_some hchild]
      simp only [delegate, hchild]
      exact List.mem_cons_self

/-- The places of all parsers: standing, filed, or dropped where the end of a child came under a
    name that is no child's. -/
def Placed (a : ParserWalk S) (dropped : List Reference) : Prop :=
  (standing a ++ filedIn a.host.world ++ dropped).Perm (List.range a.host.world.length)

theorem Placed.of_eq {a b : ParserWalk S} {dropped : List Reference} (h : Placed a dropped)
    (hstanding : standing b = standing a) (hfiled : filedIn b.host.world = filedIn a.host.world)
    (hlength : b.host.world.length = a.host.world.length) : Placed b dropped := by
  unfold Placed
  rw [hstanding, hfiled, hlength]
  exact h

/-- A new element stands if it is a child. -/
theorem standing_startElement (name : ElementName) (attributes : Attributes) (a : ParserWalk S) :
    standing (a.startElement (parsable S) name attributes) =
      (a.fresh name attributes (a.offer (parsable S) name attributes).1).child?.toList ++
        standing a := by
  unfold standing Walk.startElement
  simp only [Walk.around_eq_settle]
  cases hchild : (a.fresh name attributes (a.offer (parsable S) name attributes).1).child? with
  | none =>
    rw [List.filterMap_cons_none hchild, filterMap_child?_settle]
    rfl
  | some child =>
    rw [List.filterMap_cons_some hchild, filterMap_child?_settle]
    rfl

theorem standing_characters (bytes : Data) (a : ParserWalk S) :
    standing (a.characters bytes) = standing a := by
  have hopened : (a.characters bytes).opened = a.opened.map (·.settle bytes false) :=
    List.map_congr_left fun e _ => e.receive_eq_settle bytes
  rw [standing, hopened, filterMap_child?_settle]
  rfl

/-- A start leaves everything as it is, or builds one more parser, which stands. -/
theorem opening_cases {a : ParserWalk S} (hbuilt : Built a) (name : ElementName)
    (attributes : Attributes) :
    (standing (a.startElement (parsable S) name attributes) = standing a ∧
      (a.startElement (parsable S) name attributes).host.world = a.host.world) ∨
    (standing (a.startElement (parsable S) name attributes) = a.host.world.length :: standing a ∧
      ∃ c, (a.startElement (parsable S) name attributes).host.world =
        a.host.world ++ [init c]) := by
  have hstanding := standing_startElement name attributes a
  cases hig : ignoring a.opened with
  | true =>
    have hoffer := Walk.offer_of_ignoring (parsable S) name attributes hig
    rw [hoffer] at hstanding
    exact Or.inl ⟨hstanding, congrArg (fun offered => offered.2.world) hoffer⟩
  | false =>
    have hoffer := Walk.offer_of_not_ignoring (parsable S) name attributes hig
    rw [hoffer] at hstanding
    have hworld : (a.startElement (parsable S) name attributes).host.world =
        (startElement (delegate a.root a.opened) name a.host.world).2 := by
      simp only [Walk.startElement, hoffer]
      rfl
    obtain ⟨c, hclass⟩ := hbuilt.delegate_spec
    obtain ⟨self, hself, -⟩ := Option.map_eq_some_iff.mp hclass
    -- Whether the new element stands is read off the answer.
    have hanswered : ∀ answer, (startElement (delegate a.root a.opened) name a.host.world).1 =
        answer → standing (a.startElement (parsable S) name attributes) =
          (a.fresh name attributes (some (delegate a.root a.opened, answer))).child?.toList ++
            standing a := by
      rintro answer rfl
      exact hstanding
    rcases startElement_cases hself name with ⟨hsame, hnot⟩ | ⟨c', hstart⟩
    · refine Or.inl ⟨?_, hworld.trans hsame⟩
      cases hanswer : (startElement (delegate a.root a.opened) name a.host.world).1 with
      | ignore => exact hanswered _ hanswer
      | handleAsData => exact hanswered _ hanswer
      | handleWithChild child => exact absurd hanswer (hnot child)
    · refine Or.inr ⟨hanswered _ (congrArg Prod.fst hstart), c', ?_⟩
      rw [hworld, hstart]

theorem Placed.opening {a : ParserWalk S} {dropped : List Reference} (h : Placed a dropped)
    (hbuilt : Built a) (name : ElementName) (attributes : Attributes) :
    Placed (a.startElement (parsable S) name attributes) dropped := by
  rcases opening_cases hbuilt name attributes with ⟨hstanding, hworld⟩ | ⟨hstanding, c, hworld⟩
  · exact h.of_eq hstanding (by rw [hworld]) (by rw [hworld])
  · -- The new parser is the object at the end, and has filed nothing.
    have hnothing : filedIn [(init c : XMLSAXElementParser S)] = [] := rfl
    unfold Placed
    rw [hstanding, hworld, filedIn_append, hnothing, List.append_nil, List.length_append,
      List.length_singleton, List.range_succ]
    refine List.Perm.trans ?_ (List.perm_append_singleton _ _).symm
    exact List.Perm.cons _ h

/-- An end takes the element's own parser off those that stand. -/
theorem standing_endElement {a : ParserWalk S} {e : Element Reference}
    {outer : List (Element Reference)} (hopened : a.opened = e :: outer) (name : ElementName) :
    standing a = e.child?.toList ++ standing (a.endElement (parsable S) name) := by
  obtain ⟨hopened', -, -, hroot⟩ := Walk.endElement_of_opened (parsable S) name hopened
  unfold standing
  rw [hopened', hroot, hopened]
  cases hchild : e.child? with
  | none =>
    rw [List.filterMap_cons_none hchild]
    rfl
  | some child =>
    rw [List.filterMap_cons_some hchild]
    rfl

/-- One parser files what stood, and what is not filed is dropped. -/
theorem Placed.filing {a b : ParserWalk S} {dropped dropped' stood : List Reference}
    (h : Placed a dropped) (filed : List Reference) {p : Reference} {self : XMLSAXElementParser S}
    (hself : a.host.world[p]? = some self) {f : XMLSAXElementParser S → XMLSAXElementParser S}
    (hworld : b.host.world = a.host.world.modify p f)
    (hf : (Dictionary.contents (f self).children).Perm
      (filed ++ Dictionary.contents self.children))
    (hstood : standing a = stood ++ standing b)
    (hgone : (filed ++ dropped').Perm (stood ++ dropped)) : Placed b dropped' := by
  have hfiled := filedIn_modify hself filed hf
  unfold Placed
  rw [hworld, List.length_modify]
  refine List.Perm.trans ?_ h
  rw [hstood, List.perm_iff_count]
  intro r
  have hcounted := hfiled.count_eq r
  have hcountedGone := hgone.count_eq r
  simp only [List.count_append] at hcounted hcountedGone ⊢
  omega

theorem Placed.closing {a : ParserWalk S} {dropped : List Reference} (h : Placed a dropped)
    (hbuilt : Built a) {e : Element Reference} {outer : List (Element Reference)}
    (hopened : a.opened = e :: outer) (name : ElementName) :
    ∃ dropped', Placed (a.endElement (parsable S) name) dropped' ∧
      (name = e.name → dropped' = dropped) := by
  obtain ⟨-, hhost, -, -⟩ := Walk.endElement_of_opened (parsable S) name hopened
  have hmem : e ∈ a.elements := by
    rw [Walk.elements, hopened]
    exact List.mem_append_left _ List.mem_cons_self
  have hstanding := standing_endElement hopened name
  have hquiet : Walk.endCallback (parsable S) name e a.host = a.host → e.child? = none →
      Placed (a.endElement (parsable S) name) dropped := by
    intro hsame hnone
    rw [hnone] at hstanding
    rw [hsame] at hhost
    exact h.of_eq hstanding.symm (by rw [hhost]) (by rw [hhost])
  cases hoffer : e.offer with
  | none =>
    refine ⟨dropped, hquiet ?_ ?_, fun _ => rfl⟩
    · simp only [Walk.endCallback, hoffer]
    · simp only [Element.child?, hoffer]
  | some offer =>
    obtain ⟨p, answer⟩ := offer
    obtain ⟨c, hclass, hanswered⟩ := hbuilt.answered e hmem p answer hoffer
    obtain ⟨self, hself, rfl⟩ := Option.map_eq_some_iff.mp hclass
    cases answer with
    | ignore =>
      refine ⟨dropped, hquiet ?_ ?_, fun _ => rfl⟩
      · simp only [Walk.endCallback, hoffer]
      · simp only [Element.child?, hoffer]
    | handleAsData =>
      have hworld : (a.endElement (parsable S) name).host.world =
          a.host.world.modify p (endDataElement name e.attributes e.contents) := by
        rw [hhost]
        simp only [Walk.endCallback, hoffer]
        rfl
      have hnone : e.child? = none := by simp only [Element.child?, hoffer]
      rw [hnone] at hstanding
      refine ⟨dropped, ?_, fun _ => rfl⟩
      refine h.filing [] hself hworld ?_ hstanding (List.Perm.refl _)
      rw [contents_endDataElement]
      exact List.Perm.refl _
    | handleWithChild child =>
      have hworld : (a.endElement (parsable S) name).host.world =
          a.host.world.modify p (endChildElement name child) := by
        rw [hhost]
        simp only [Walk.endCallback, hoffer]
        rfl
      have hchild : e.child? = some child := by simp only [Element.child?, hoffer]
      rw [hchild] at hstanding
      rcases contents_endChildElement name child self with ⟨hkey, hcontents⟩ | hcontents
      · -- The name is no child's, and the child is dropped.
        refine ⟨child :: dropped, ?_, ?_⟩
        · refine h.filing [] hself hworld ?_ hstanding (List.Perm.refl _)
          rw [hcontents]
          exact List.Perm.refl _
        · rintro rfl
          obtain ⟨-, -, key, hsome, -⟩ := hanswered
          rw [hkey] at hsome
          cases hsome
      · refine ⟨dropped, ?_, fun _ => rfl⟩
        exact h.filing [child] hself hworld hcontents hstanding (List.Perm.refl _)

theorem Placed.next {a : ParserWalk S} {dropped : List Reference} (h : Placed a dropped)
    (hbuilt : Built a) (event : Event) (events : List Event) :
    ∃ dropped', Placed (a.next (parsable S) event) dropped' ∧
      ((openNames a.names (event :: events)).isSome → dropped' = dropped) := by
  cases event with
  | opening name attributes => exact ⟨dropped, h.opening hbuilt name attributes, fun _ => rfl⟩
  | text bytes =>
    exact ⟨dropped, h.of_eq (standing_characters bytes a) rfl rfl, fun _ => rfl⟩
  | closing name =>
    cases hopened : a.opened with
    | nil =>
      rw [Walk.next, Walk.endElement_of_nil _ name hopened]
      exact ⟨dropped, h, fun _ => rfl⟩
    | cons e outer =>
      obtain ⟨dropped', hplaced, hname⟩ := h.closing hbuilt hopened name
      refine ⟨dropped', hplaced, fun hnames => hname ?_⟩
      simp only [Walk.names, hopened, List.map_cons, openNames] at hnames
      by_contra hne
      rw [if_neg hne] at hnames
      cases hnames

theorem built_init (c : S.Class) : Built (Walk.init 0 [init c] : ParserWalk S) :=
  ⟨⟨c, rfl⟩, fun e he => absurd he (by simp [Walk.init, Walk.elements]),
    fun e he => absurd he (by simp [Walk.init, Walk.elements])⟩

theorem placed_follow {a : ParserWalk S} {dropped : List Reference} (h : Placed a dropped)
    (hbuilt : Built a) (hnumbered : Numbered a.elements) (events : List Event) :
    ∃ dropped', Placed (a.follow (parsable S) events) dropped' ∧
      ((openNames a.names events).isSome → dropped' = dropped) := by
  induction events generalizing a dropped with
  | nil => exact ⟨dropped, h, fun _ => rfl⟩
  | cons event events ih =>
    obtain ⟨dropped₁, hnext, hkept⟩ := h.next hbuilt event events
    obtain ⟨dropped₂, hrest, hkeptRest⟩ :=
      ih hnext (hbuilt.next hnumbered event) (Walk.numbered_next _ event hnumbered)
    refine ⟨dropped₂, hrest, fun hnames => ?_⟩
    rw [← hkept hnames]
    apply hkeptRest
    rw [Walk.openNames_next _ hnames]
    exact hnames

theorem placed_after (c : S.Class) (events : List Event) :
    ∃ dropped, Placed (Walk.after (parsable S) 0 [init c] events) dropped ∧
      (WellNested events → dropped = []) :=
  placed_follow (a := Walk.init 0 [init c]) (List.Perm.refl [0]) (built_init c)
    (Walk.numbered_after (parsable S) 0 [init c] []) events

/-- The fields of the parser that stand for the walk's standing parsers. -/
theorem map_parseItem_after (c : S.Class) (events : List Event) :
    (Walk.after (parsable S) 0 [init c] events).parser.stack.map (·.parseItem) =
      standing (Walk.after (parsable S) 0 [init c] events) :=
  map_parseItem_stackOf _ _

/-! ## What is filed is finished -/

/-- The callback of an end changes no parser but the one the element was offered to. -/
theorem unchanged_endCallback (name : ElementName) (e : Element Reference)
    (host : Host (List (XMLSAXElementParser S)) Reference) {r : Reference}
    (hr : e.target? ≠ some r) :
    (Walk.endCallback (parsable S) name e host).world[r]? = host.world[r]? := by
  cases hoffer : e.offer with
  | none => simp only [Walk.endCallback, hoffer]
  | some offer =>
    obtain ⟨p, answer⟩ := offer
    have hne : p ≠ r := fun heq => hr (by simp only [Element.target?, hoffer, heq, Option.map_some])
    cases answer with
    | ignore => simp only [Walk.endCallback, hoffer]
    | handleAsData =>
      simp only [Walk.endCallback, hoffer]
      exact List.getElem?_modify_ne _ _ hne
    | handleWithChild child =>
      simp only [Walk.endCallback, hoffer]
      exact List.getElem?_modify_ne _ _ hne

/-- The parser is built, and does not stand. -/
def Retired (a : ParserWalk S) (r : Reference) : Prop :=
  (∃ self, a.host.world[r]? = some self) ∧ r ∉ standing a

/-- A parser that is filed does not stand. -/
theorem Placed.retired {a : ParserWalk S} {dropped : List Reference} (h : Placed a dropped)
    {r : Reference} (hr : r ∈ filedIn a.host.world) : Retired a r := by
  have hlt : r < a.host.world.length :=
    List.mem_range.mp (h.subset (List.mem_append_left _ (List.mem_append_right _ hr)))
  have hnodup := (List.nodup_append.mp (h.nodup_iff.mpr List.nodup_range)).1
  refine ⟨⟨_, List.getElem?_eq_getElem hlt⟩, fun hstanding => ?_⟩
  exact (List.nodup_append.mp hnodup).2.2 r hstanding r hr rfl

/-- An event calls nobody but those who stand, and who does not stand does not stand again. -/
theorem Retired.next {a : ParserWalk S} {r : Reference} (h : Retired a r) (hbuilt : Built a)
    (event : Event) : Retired (a.next (parsable S) event) r ∧
      (a.next (parsable S) event).host.world[r]? = a.host.world[r]? := by
  obtain ⟨⟨self, hself⟩, hnot⟩ := h
  -- It is enough that the object is left alone and does not stand after the event.
  suffices hkept : (a.next (parsable S) event).host.world[r]? = a.host.world[r]? ∧
      r ∉ standing (a.next (parsable S) event) from
    ⟨⟨⟨self, hkept.1.trans hself⟩, hkept.2⟩, hkept.1⟩
  have hlt := (List.getElem?_eq_some_iff.mp hself).1
  cases event with
  | opening name attributes =>
    rw [Walk.next]
    rcases opening_cases hbuilt name attributes with ⟨hstanding, hworld⟩ | ⟨hstanding, c, hworld⟩
    · rw [hstanding, hworld]
      exact ⟨rfl, hnot⟩
    · rw [hstanding, hworld, List.getElem?_append_left hlt, List.mem_cons, not_or]
      exact ⟨rfl, Nat.ne_of_lt hlt, hnot⟩
  | text bytes =>
    refine ⟨rfl, ?_⟩
    rw [Walk.next, standing_characters]
    exact hnot
  | closing name =>
    cases hopened : a.opened with
    | nil =>
      rw [Walk.next, Walk.endElement_of_nil _ name hopened]
      exact ⟨rfl, hnot⟩
    | cons e outer =>
      obtain ⟨-, hhost, -, -⟩ := Walk.endElement_of_opened (parsable S) name hopened
      rw [standing_endElement hopened name, List.mem_append, not_or] at hnot
      refine ⟨?_, hnot.2⟩
      rw [Walk.next, hhost]
      apply unchanged_endCallback
      -- The element was offered to the delegate of the elements around it, and that one stands.
      intro htarget
      obtain ⟨answer, hoffer⟩ := offer_of_target? htarget
      apply hnot.2
      rw [(a.nestedIn hopened).target r answer hoffer, standing,
        (Walk.endElement_of_opened (parsable S) name hopened).1,
        (Walk.endElement_of_opened (parsable S) name hopened).2.2.2]
      exact delegate_mem a.root outer

theorem Retired.follow {a : ParserWalk S} {r : Reference} (h : Retired a r) (hbuilt : Built a)
    (hnumbered : Numbered a.elements) (events : List Event) :
    (a.follow (parsable S) events).host.world[r]? = a.host.world[r]? := by
  induction events generalizing a with
  | nil => rfl
  | cons event events ih =>
    obtain ⟨hnext, hsame⟩ := h.next hbuilt event
    rw [Walk.follow_cons, ← hsame]
    exact ih hnext (hbuilt.next hnumbered event) (Walk.numbered_next _ event hnumbered)

theorem built_follow_any {a : ParserWalk S} (hbuilt : Built a) (hnumbered : Numbered a.elements)
    (events : List Event) : Built (a.follow (parsable S) events) := by
  induction events generalizing a with
  | nil => exact hbuilt
  | cons event events ih =>
    exact ih (hbuilt.next hnumbered event) (Walk.numbered_next _ event hnumbered)

end ParserWalk

open XMLSAXElementParser in
/-- **Every parser ever built is in exactly one place**, after any stream: on the stack, or filed
    under one key of one parser, once. On a well-nested stream none is lost. -/
theorem parsers_placed (S : Schema) (c : S.Class) (events : List Event)
    (s : XMLPushParser (List (XMLSAXElementParser S)) Reference)
    (h : run (XMLPushParser.handle (parsable S)) (.init 0 [init c]) events = .ok s) :
    (s.stack.map (·.parseItem) ++ filedIn s.host.world).Nodup ∧
      (∀ r ∈ s.stack.map (·.parseItem) ++ filedIn s.host.world, r < s.host.world.length) ∧
      (WellNested events → ∀ r < s.host.world.length,
        r ∈ s.stack.map (·.parseItem) ++ filedIn s.host.world) := by
  obtain ⟨-, rfl⟩ := (run_ok_iff _).mp h
  obtain ⟨dropped, hplaced, hkept⟩ := ParserWalk.placed_after c events
  rw [ParserWalk.map_parseItem_after]
  refine ⟨?_, ?_, ?_⟩
  · exact (List.nodup_append.mp (hplaced.nodup_iff.mpr List.nodup_range)).1
  · intro r hr
    exact List.mem_range.mp (hplaced.subset (List.mem_append_left _ hr))
  · intro hnested r hr
    have hmem := hplaced.symm.subset (List.mem_range.mpr hr)
    rw [hkept hnested, List.append_nil] at hmem
    exact hmem

open XMLSAXElementParser in
/-- `<c><c></x><d>`: the child that ended as `x` is nowhere. -/
theorem letters_placed : ∃ s, run (XMLPushParser.handle (parsable letters)) (.init 0 [init ()])
      [startTag "c", startTag "c", endTag "x", startTag "d"] = .ok s ∧
    (s.stack.map (·.parseItem) ++ filedIn s.host.world).Nodup ∧
      (∀ r ∈ s.stack.map (·.parseItem) ++ filedIn s.host.world, r < s.host.world.length) ∧
      (WellNested [startTag "c", startTag "c", endTag "x", startTag "d"] →
        ∀ r < s.host.world.length, r ∈ s.stack.map (·.parseItem) ++ filedIn s.host.world) :=
  ⟨_, rfl, parsers_placed letters () [startTag "c", startTag "c", endTag "x", startTag "d"] _ rfl⟩

open XMLSAXElementParser in
/-- **What is filed is finished**: once a parser has been filed in another, no event of any stream
    changes it, nor anything filed in it. -/
theorem filed_unchanged (S : Schema) (c : S.Class) (pre post : List Event)
    (s s' : XMLPushParser (List (XMLSAXElementParser S)) Reference)
    (h : run (XMLPushParser.handle (parsable S)) (.init 0 [init c]) pre = .ok s)
    (h' : run (XMLPushParser.handle (parsable S)) (.init 0 [init c]) (pre ++ post) = .ok s')
    (r : Reference) (hr : r ∈ filedIn s.host.world) :
    s'.host.world[r]? = s.host.world[r]? := by
  obtain ⟨-, rfl⟩ := (run_ok_iff _).mp h
  obtain ⟨-, rfl⟩ := (run_ok_iff _).mp h'
  obtain ⟨dropped, hplaced, -⟩ := ParserWalk.placed_after c pre
  have hbuilt := ParserWalk.built_follow_any (ParserWalk.built_init c)
    (Walk.numbered_after (parsable S) 0 [init c] []) pre
  have hfollow := (hplaced.retired hr).follow hbuilt (Walk.numbered_after _ _ _ pre) post
  rw [Walk.after, Walk.follow_append]
  exact hfollow

open XMLSAXElementParser in
/-- `<c><c></c><d>`: the inner child is filed, and the `</d></c>` to come does not change it. -/
theorem letters_finished :
    ∃ s s', run (XMLPushParser.handle (parsable letters)) (.init 0 [init ()])
        [startTag "c", startTag "c", endTag "c", startTag "d"] = .ok s ∧
      run (XMLPushParser.handle (parsable letters)) (.init 0 [init ()])
        ([startTag "c", startTag "c", endTag "c", startTag "d"] ++ [endTag "d", endTag "c"]) =
          .ok s' ∧
      (2 : Reference) ∈ filedIn s.host.world ∧ s'.host.world[2]? = s.host.world[2]? := by
  have hfiled : ∃ s, run (XMLPushParser.handle (parsable letters)) (.init 0 [init ()])
      [startTag "c", startTag "c", endTag "c", startTag "d"] = .ok s ∧
      (2 : Reference) ∈ filedIn s.host.world := ⟨_, rfl, by decide⟩
  obtain ⟨s, hs, hmem⟩ := hfiled
  refine ⟨s, _, hs, rfl, hmem, ?_⟩
  exact filed_unchanged letters () [startTag "c", startTag "c", endTag "c", startTag "d"]
    [endTag "d", endTag "c"] s _ hs rfl 2 hmem

end XMLPush

import XMLPush.Proof.Decoding

/-!
# Namespaces

An element has three names, and an `XMLElementStringEnum` looks at one of them: its
initialiser is given the prefix and the URI and passes on the local name alone. So a family
of parsers with such element types does not know namespaces. Two streams whose tags have
the same local names and attributes leave the same parsers with the same things filed,
trap alike, and differ in nothing but the names their callbacks carry: `a:title` and
`b:title` are one key.

The argument is an erasure. `unqualified` takes prefixes and URIs out of the events and out
of the log; delegates that are `Unqualified` do not notice, handler by handler.
-/

set_option autoImplicit false

namespace XMLPush

open Nesting
open Machine
open XMLSAXElementParser

variable {W P : Type}

/-- The name, with its local part alone. -/
def ElementName.unqualified (name : ElementName) : ElementName := { localName := name.localName }

/-- The event, under its local name. -/
def unqualifiedEvent : Event → Event
  | .opening name attributes => .opening name.unqualified attributes
  | .text bytes => .text bytes
  | .closing name => .closing name.unqualified

/-- The callback, under its local name. -/
def Callback.unqualified : Callback P → Callback P
  | .startElement target name attributes => .startElement target name.unqualified attributes
  | .endDataElement target name attributes contents =>
    .endDataElement target name.unqualified attributes contents
  | .endChildElement target name child => .endChildElement target name.unqualified child

/-- The delegates, with the names in their log local. -/
def Host.unqualified (h : Host W P) : Host W P := ⟨h.world, h.calls.map Callback.unqualified⟩

/-- The parser, with the names in its log local. Everything else is as it was. -/
def XMLPushParser.unqualified (s : XMLPushParser W P) : XMLPushParser W P :=
  { s with host := s.host.unqualified }

/-- Delegates that do nothing with a prefix or a URI. -/
structure Unqualified (D : SAXParsable W P) : Prop where
  startElement : ∀ target name attributes world,
    D.startElement target name.unqualified attributes world =
      D.startElement target name attributes world
  endDataElement : ∀ target name attributes contents world,
    D.endDataElement target name.unqualified attributes contents world =
      D.endDataElement target name attributes contents world
  endChildElement : ∀ target name child world,
    D.endChildElement target name.unqualified child world =
      D.endChildElement target name child world

namespace Unqualified

variable {D : SAXParsable W P}

/-! ## Handler by handler -/

theorem host_startElement (hD : Unqualified D) (target : P) (name : ElementName)
    (attributes : Attributes) (h : Host W P) :
    h.unqualified.startElement D target name.unqualified attributes =
      ((h.startElement D target name attributes).1,
        (h.startElement D target name attributes).2.unqualified) := by
  simp only [Host.startElement, Host.unqualified, hD.startElement, List.map_append, List.map_cons,
    List.map_nil, Callback.unqualified]

theorem host_endDataElement (hD : Unqualified D) (target : P) (name : ElementName)
    (attributes : Attributes) (contents : Data) (h : Host W P) :
    h.unqualified.endDataElement D target name.unqualified attributes contents =
      (h.endDataElement D target name attributes contents).unqualified := by
  simp only [Host.endDataElement, Host.unqualified, hD.endDataElement, List.map_append,
    List.map_cons, List.map_nil, Callback.unqualified]

theorem host_endChildElement (hD : Unqualified D) (target : P) (name : ElementName) (child : P)
    (h : Host W P) :
    h.unqualified.endChildElement D target name.unqualified child =
      (h.endChildElement D target name child).unqualified := by
  simp only [Host.endChildElement, Host.unqualified, hD.endChildElement, List.map_append,
    List.map_cons, List.map_nil, Callback.unqualified]

theorem answered (attributes : Attributes) (s : XMLPushParser W P) (answer : SAXStartElement P) :
    s.unqualified.answered attributes answer = (s.answered attributes answer).unqualified := by
  cases answer <;> rfl

theorem startElementWithPrefix (hD : Unqualified D) (name : ElementName) (attributes : Attributes)
    (s : XMLPushParser W P) :
    s.unqualified.startElementWithPrefix D name.unqualified attributes =
      (s.startElementWithPrefix D name attributes).map XMLPushParser.unqualified := by
  -- Neither question the handler asks of the parser is about the log.
  have hignoring : ({ s.unqualified with level := s.unqualified.level + 1 } :
      XMLPushParser W P).ignoringElements =
        ({ s with level := s.level + 1 } : XMLPushParser W P).ignoringElements := rfl
  unfold XMLPushParser.startElementWithPrefix
  simp only [hignoring]
  cases ({ s with level := s.level + 1 } : XMLPushParser W P).ignoringElements with
  | true => rfl
  | false =>
    obtain ⟨root, stack, level, buffer, dataAttributes, ignoreLevel, host⟩ := s
    cases stack with
    | nil => rfl
    | cons last rest =>
      have hhost := hD.host_startElement last.parseItem name attributes host
      refine Eq.trans (congrArg (fun offered : SAXStartElement P × Host W P => Except.ok
        ((⟨root, last :: rest, level + 1, buffer, dataAttributes, ignoreLevel, offered.2⟩ :
          XMLPushParser W P).answered attributes offered.1)) hhost) ?_
      exact congrArg Except.ok (answered attributes
        ⟨root, last :: rest, level + 1, buffer, dataAttributes, ignoreLevel, _⟩ _)

theorem endElementBody (hD : Unqualified D) (name : ElementName) (s : XMLPushParser W P) :
    s.unqualified.endElementBody D name.unqualified =
      (s.endElementBody D name).map XMLPushParser.unqualified := by
  have hignoring : s.unqualified.ignoringElements = s.ignoringElements := rfl
  unfold XMLPushParser.endElementBody
  rw [hignoring]
  cases s.ignoringElements with
  | true => rfl
  | false =>
    obtain ⟨root, stack, level, buffer, dataAttributes, ignoreLevel, host⟩ := s
    cases stack with
    | nil => rfl
    | cons last rest =>
      simp only [XMLPushParser.unqualified, Bool.false_eq_true, if_false]
      by_cases hchild : last.level = level
      · simp only [hchild, if_true]
        cases rest with
        | nil => rfl
        | cons below rest =>
          have hhost := hD.host_endChildElement below.parseItem name last.parseItem host
          exact congrArg (fun host => Except.ok (⟨root, below :: rest, level, buffer, dataAttributes,
            ignoreLevel, host⟩ : XMLPushParser W P)) hhost
      · simp only [hchild, if_false]
        cases dataAttributes with
        | none => rfl
        | some attributes =>
          cases buffer with
          | none => rfl
          | some contents =>
            have hhost := hD.host_endDataElement last.parseItem name attributes contents host
            exact congrArg (fun host => Except.ok (⟨root, last :: rest, level, none, none,
              ignoreLevel, host⟩ : XMLPushParser W P)) hhost

/-- **Erasing commutes with every handler.** -/
theorem handle (hD : Unqualified D) (s : XMLPushParser W P) (event : Event) :
    XMLPushParser.handle D s.unqualified (unqualifiedEvent event) =
      (XMLPushParser.handle D s event).map XMLPushParser.unqualified := by
  cases event with
  | opening name attributes => exact hD.startElementWithPrefix name attributes s
  | text bytes => rfl
  | closing name =>
    have hbody := hD.endElementBody name s
    simp only [XMLPushParser.handle, unqualifiedEvent, XMLPushParser.endElementWithPrefix, hbody]
    cases s.endElementBody D name with
    | error trap => rfl
    | ok t => rfl

/-- What the delegates do not look at makes no difference to a run. -/
theorem run_congr (hD : Unqualified D) (root : P) (world : W) {events events' : List Event}
    (h : events.map unqualifiedEvent = events'.map unqualifiedEvent) :
    (run (XMLPushParser.handle D) (.init root world) events).map XMLPushParser.unqualified =
      (run (XMLPushParser.handle D) (.init root world) events').map XMLPushParser.unqualified := by
  rw [← run_map hD.handle, ← run_map hD.handle, h]

end Unqualified

/-! ## Parsers with string enumerations -/

/-- Every element type of the family is an `XMLElementStringEnum`; one with no raw values is
    `XMLElementsNone`. -/
structure Schema.StringEnums (S : Schema) : Prop where
  dataElement : ∀ c, ∃ rawValue, S.dataElement c = XMLElementStringEnum.init rawValue
  childElement : ∀ c, ∃ rawValue, S.childElement c = XMLElementStringEnum.init rawValue

namespace Schema.StringEnums

variable {S : Schema}

theorem dataElement_unqualified (h : S.StringEnums) (c : S.Class) (name : ElementName) :
    S.dataElement c name.unqualified = S.dataElement c name := by
  obtain ⟨rawValue, hraw⟩ := h.dataElement c
  rw [hraw]
  rfl

theorem childElement_unqualified (h : S.StringEnums) (c : S.Class) (name : ElementName) :
    S.childElement c name.unqualified = S.childElement c name := by
  obtain ⟨rawValue, hraw⟩ := h.childElement c
  rw [hraw]
  rfl

/-- Such parsers do nothing with a prefix or a URI. -/
theorem unqualified (h : S.StringEnums) : Unqualified (parsable S) where
  startElement target name attributes world := by
    simp only [parsable, startElement, h.dataElement_unqualified, h.childElement_unqualified]
  endDataElement target name attributes contents world := by
    have hsame : endDataElement (S := S) name.unqualified attributes contents =
        endDataElement name attributes contents := by
      funext self
      simp only [endDataElement, h.dataElement_unqualified]
    simp only [parsable, hsame]
  endChildElement target name child world := by
    have hsame : endChildElement (S := S) name.unqualified child = endChildElement name child := by
      funext self
      simp only [endChildElement, h.childElement_unqualified]
    simp only [parsable, hsame]

end Schema.StringEnums

/-- **Namespaces are not read.** If every element type is an `XMLElementStringEnum`, two streams
    that differ in nothing but the prefixes and URIs of their tags run alike: they trap alike, and
    otherwise leave the same parsers with the same things filed, the same fields and the same
    callbacks, but for the prefixes and URIs in those. -/
theorem namespaces_unread (S : Schema) (hS : S.StringEnums) (c : S.Class)
    (events events' : List Event)
    (h : events.map unqualifiedEvent = events'.map unqualifiedEvent) :
    (run (XMLPushParser.handle (parsable S)) (.init 0 [init c]) events).map
        XMLPushParser.unqualified =
      (run (XMLPushParser.handle (parsable S)) (.init 0 [init c]) events').map
        XMLPushParser.unqualified :=
  hS.unqualified.run_congr 0 [init c] h

theorem catalogs_stringEnums : catalogs.StringEnums where
  dataElement c := by
    cases c with
    | document => exact ⟨fun _ => none, rfl⟩
    | catalog => exact ⟨onlyCase "owner", rfl⟩
    | book => exact ⟨BookElement.rawValue, rfl⟩
  childElement c := by
    cases c with
    | document => exact ⟨onlyCase "catalog", rfl⟩
    | catalog => exact ⟨onlyCase "book", rfl⟩
    | book => exact ⟨fun _ => none, rfl⟩

/-- The start tag `<p:localName>`, and its end tag, where `p` is bound to `u`. -/
def boundTags (localName : String) : Event × Event :=
  let name : ElementName := { nsPrefix := some "p", URI := some "u", localName := localName }
  (.opening name ∅, .closing name)

/-- `<p:catalog><owner>a</owner></p:catalog>` is read as `<catalog><p:owner>a</p:owner></catalog>`. -/
theorem catalog_unqualified :
    (run (XMLPushParser.handle (parsable catalogs)) (.init 0 [init .document])
        [(boundTags "catalog").1, startTag "owner", .text [97], endTag "owner",
          (boundTags "catalog").2]).map XMLPushParser.unqualified =
      (run (XMLPushParser.handle (parsable catalogs)) (.init 0 [init .document])
        [startTag "catalog", (boundTags "owner").1, .text [97], (boundTags "owner").2,
          endTag "catalog"]).map XMLPushParser.unqualified :=
  namespaces_unread catalogs catalogs_stringEnums .document
    [(boundTags "catalog").1, startTag "owner", .text [97], endTag "owner", (boundTags "catalog").2]
    [startTag "catalog", (boundTags "owner").1, .text [97], (boundTags "owner").2, endTag "catalog"]
    rfl

end XMLPush

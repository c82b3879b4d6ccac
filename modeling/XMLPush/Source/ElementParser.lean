import XMLPush.Lib.Dictionary
import XMLPush.Source.Conversion
import XMLPush.Source.Parsable

/-!
# `XMLSAXElementParser`

The delegate the library brings along: it files what it is handed under keys its two
element types make of the names. The class is generic in those types, and a child element
names the class of the parser that takes its children, so one document may be read by
parsers of many instances of it; `Schema` is such a family of instances, closed under
`type()`.

Parsers are objects. A reference is a position in the list of all objects made so far, that
list is the world the delegates share, and `init()` puts one more object at its end.
-/

set_option autoImplicit false

namespace XMLPush

/-- A family of instances `XMLSAXElementParser<DataElement, ChildElement>`. The initialisers are
    pure, and equality on the keys is equality. -/
structure Schema where
  Class : Type
  DataElement : Class → Type
  ChildElement : Class → Type
  decidableEqData : ∀ c, DecidableEq (DataElement c)
  decidableEqChild : ∀ c, DecidableEq (ChildElement c)
  /-- `DataElement(prefix:URI:localName:)`. -/
  dataElement : (c : Class) → ElementName → Option (DataElement c)
  /-- `ChildElement(prefix:URI:localName:)`. -/
  childElement : (c : Class) → ElementName → Option (ChildElement c)
  /-- `type()`. -/
  type : (c : Class) → ChildElement c → Class

instance (S : Schema) (c : S.Class) : DecidableEq (S.DataElement c) := S.decidableEqData c
instance (S : Schema) (c : S.Class) : DecidableEq (S.ChildElement c) := S.decidableEqChild c

/-- `XMLElementStringEnum.init(prefix:URI:localName:)`, for an enumeration with these raw values. -/
def XMLElementStringEnum.init {Enum : Type} (rawValue : String → Option Enum)
    (name : ElementName) : Option Enum := rawValue name.localName

/-- `XMLElementsNone`. Its one initialiser fails, so it has no values. -/
inductive XMLElementsNone
  deriving DecidableEq

/-- `XMLElementsNone.init(prefix:URI:localName:)`. -/
def XMLElementsNone.init (_ : ElementName) : Option XMLElementsNone := none

/-- `XMLDataElement`. -/
structure XMLDataElement where
  value : String
  attributes : Attributes
  deriving DecidableEq

/-- `==` on `XMLDataElement`: the keys and the values of the attributes are enumerated, and each
    of the two is compared as an array. -/
def XMLDataElement.equal (lhs rhs : XMLDataElement) : Bool :=
  stringEqual lhs.value rhs.value &&
    lhs.attributes.keys == rhs.attributes.keys &&
    (Dictionary.values lhs.attributes).isEqv (Dictionary.values rhs.attributes)
      LibXMLAttribute.equal

/-- `intValue`. -/
def XMLDataElement.intValue (element : XMLDataElement) : Option Int := intOfString element.value

/-- `boolValue`. -/
def XMLDataElement.boolValue (element : XMLDataElement) : Option Bool :=
  if lowercased element.value = "true" then some true
  else if lowercased element.value = "false" then some false
  else none

/-- A reference to a parser. -/
abbrev Reference := Nat

/-- `XMLSAXElementParser`: an object, of a class of the family. -/
structure XMLSAXElementParser (S : Schema) where
  parserClass : S.Class
  data : AList (fun _ : S.DataElement parserClass => List XMLDataElement)
  children : AList (fun _ : S.ChildElement parserClass => List Reference)

namespace XMLSAXElementParser

variable {S : Schema}

/-- `init`. -/
def init (c : S.Class) : XMLSAXElementParser S where
  parserClass := c
  data := ∅
  children := ∅

/-- `startElement`, which makes the child's parser. -/
def startElement (target : Reference) (name : ElementName)
    (objects : List (XMLSAXElementParser S)) :
    SAXStartElement Reference × List (XMLSAXElementParser S) :=
  match objects[target]? with
  | none => (.ignore, objects)
  | some self =>
    match S.dataElement self.parserClass name with
    | some _ => (.handleAsData, objects)
    | none =>
      match S.childElement self.parserClass name with
      | none => (.ignore, objects)
      | some childElement =>
        (.handleWithChild objects.length, objects ++ [init (S.type self.parserClass childElement)])

section StartElement

variable {objects : List (XMLSAXElementParser S)} {target : Reference}
  {self : XMLSAXElementParser S} (hself : objects[target]? = some self) {name : ElementName}

include hself

theorem startElement_of_data {key : S.DataElement self.parserClass}
    (hdata : S.dataElement self.parserClass name = some key) :
    startElement target name objects = (.handleAsData, objects) := by
  simp only [startElement, hself, hdata]

theorem startElement_of_neither (hdata : S.dataElement self.parserClass name = none)
    (hchild : S.childElement self.parserClass name = none) :
    startElement target name objects = (.ignore, objects) := by
  simp only [startElement, hself, hdata, hchild]

theorem startElement_of_child (hdata : S.dataElement self.parserClass name = none)
    {key : S.ChildElement self.parserClass}
    (hchild : S.childElement self.parserClass name = some key) :
    startElement target name objects =
      (.handleWithChild objects.length, objects ++ [init (S.type self.parserClass key)]) := by
  simp only [startElement, hself, hdata, hchild]

end StartElement

/-- `endChildElement`. -/
def endChildElement (name : ElementName) (child : Reference) (self : XMLSAXElementParser S) :
    XMLSAXElementParser S :=
  match S.childElement self.parserClass name with
  | none => self
  | some element => { self with children := Dictionary.file element child self.children }

/-- `endDataElement`. -/
def endDataElement (name : ElementName) (attributes : Attributes) (contents : Data)
    (self : XMLSAXElementParser S) : XMLSAXElementParser S :=
  match S.dataElement self.parserClass name with
  | none => self
  | some element =>
    { self with
      data := Dictionary.file element
        { value := stringFromData contents, attributes := attributes } self.data }

/-- `datum`. -/
def datum (self : XMLSAXElementParser S) (key : S.DataElement self.parserClass) : Option XMLDataElement :=
  (self.data.lookup key).bind List.head?

/-- The delegates of a run in which every parser is an `XMLSAXElementParser`. -/
def parsable (S : Schema) : SAXParsable (List (XMLSAXElementParser S)) Reference where
  startElement target name _ objects := startElement target name objects
  endDataElement target name attributes contents objects :=
    objects.modify target (endDataElement name attributes contents)
  endChildElement target name child objects := objects.modify target (endChildElement name child)

/-- An element is offered, and the callback is in the log. -/
theorem host_startElement {h : Host (List (XMLSAXElementParser S)) Reference} {target : Reference}
    {name : ElementName} {answer : SAXStartElement Reference}
    {objects : List (XMLSAXElementParser S)}
    (hstart : startElement target name h.world = (answer, objects)) (attributes : Attributes) :
    h.startElement (parsable S) target name attributes =
      (answer, ⟨objects, h.calls ++ [.startElement target name attributes]⟩) := by
  simp only [Host.startElement, parsable, hstart]

end XMLSAXElementParser

end XMLPush

import Mathlib.Data.List.AList
import XMLPush.Source.Text

/-!
# Attributes: libxml2's layout, and the dictionary built from it

libxml2 hands a start tag's attributes over as a flat array of pointers, five to an
attribute: local name, prefix, URI, start of the value, end of the value. The names are
NUL-terminated; the value is *not* — it is the half-open range between two pointers into
a larger buffer. `LibXMLRawAttribute` is one stride of that array.

A pointer is an offset into the memory it points into, and a null pointer is `none`.
-/

set_option autoImplicit false

namespace XMLPush

/-- `LibXMLAttribute`. -/
structure LibXMLAttribute where
  localName : String := ""
  nsPrefix : Option String := none
  URI : Option String := none
  value : String := ""
  deriving DecidableEq, Repr

/-- `==` on `LibXMLAttribute`. -/
def LibXMLAttribute.equal (lhs rhs : LibXMLAttribute) : Bool :=
  stringEqual lhs.localName rhs.localName &&
    optionalStringEqual lhs.nsPrefix rhs.nsPrefix &&
    optionalStringEqual lhs.URI rhs.URI &&
    stringEqual lhs.value rhs.value

/-- `[String:LibXMLAttribute]`. The entries are kept in the order a dictionary enumerates
    them, which no lookup depends on. -/
abbrev Attributes := AList (fun _ : StringKey => LibXMLAttribute)

/-- The bytes pointers point into. -/
abbrev Memory := Data

/-- A pointer that is not null. -/
abbrev Pointer := Nat

/-- The UTF-8 text at a pointer, up to its NUL: `String(cString:)`. -/
def Memory.cString (memory : Memory) (p : Pointer) : String := XMLPush.cString (memory.drop p)

/-- The bytes of the half-open range from `p`, `length` of them. -/
def Memory.bytes (memory : Memory) (p : Pointer) (length : Nat) : Data :=
  (memory.drop p).take length

/-- `getString`. -/
def getString (memory : Memory) (pointer : Option Pointer) : Option String :=
  pointer.map memory.cString

/-- `LibXMLRawAttribute`: five nullable pointers. -/
structure LibXMLRawAttribute where
  localName : Option Pointer
  nsPrefix : Option Pointer
  uri : Option Pointer
  valueStart : Option Pointer
  valueEnd : Option Pointer
  deriving DecidableEq, Repr

namespace LibXMLRawAttribute

/-- `valueLength`. -/
def valueLength (raw : LibXMLRawAttribute) : Nat :=
  match raw.valueEnd, raw.valueStart with
  | some valueEnd, some valueStart => valueEnd - valueStart
  | _, _ => 0

/-- `localNameString`. -/
def localNameString (memory : Memory) (raw : LibXMLRawAttribute) : String :=
  match raw.localName with
  | none => ""
  | some localName => memory.cString localName

/-- `prefixString`. -/
def prefixString (memory : Memory) (raw : LibXMLRawAttribute) : Option String :=
  getString memory raw.nsPrefix

/-- `URIString`. -/
def URIString (memory : Memory) (raw : LibXMLRawAttribute) : Option String :=
  getString memory raw.uri

/-- `key`: the name as the document spells it. -/
def key (memory : Memory) (raw : LibXMLRawAttribute) : String :=
  match raw.prefixString memory with
  | some nsPrefix => nsPrefix ++ ":" ++ raw.localNameString memory
  | none => raw.localNameString memory

/-- `attributeValue`: the value is cut by its end pointer, never by a terminator. -/
def attributeValue (memory : Memory) (raw : LibXMLRawAttribute) : String :=
  match raw.valueStart with
  | none => ""
  | some valueStart => (utf8String (memory.bytes valueStart raw.valueLength)).getD ""

/-- `getBufferPointerWithStart`: the pointer array read as an array of strides. -/
def getBufferPointerWithStart : List (Option Pointer) → Nat → List LibXMLRawAttribute
  | localName :: nsPrefix :: uri :: valueStart :: valueEnd :: rest, length + 1 =>
    ⟨localName, nsPrefix, uri, valueStart, valueEnd⟩ :: getBufferPointerWithStart rest length
  | _, _ => []

end LibXMLRawAttribute

/-- `LibXMLAttribute.init(rawValue:)`. -/
def LibXMLAttribute.ofRaw (memory : Memory) (raw : LibXMLRawAttribute) : LibXMLAttribute where
  localName := raw.localNameString memory
  nsPrefix := raw.prefixString memory
  URI := raw.URIString memory
  value := raw.attributeValue memory

/-- The dictionary `XMLPushSAXParserStartElementSAX` builds, one assignment for each raw
    attribute: a later equal key overwrites an earlier one, however either is spelled. -/
def elementAttributes (memory : Memory) (attributes : List LibXMLRawAttribute) : Attributes :=
  attributes.foldl (fun dictionary raw =>
    dictionary.insert (.of (raw.key memory)) (.ofRaw memory raw)) ∅

end XMLPush

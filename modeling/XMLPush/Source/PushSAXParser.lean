import XMLPush.Lib.Run
import XMLPush.Source.PushParser

/-!
# `LibXMLPushSAXParser`, and the callbacks libxml2 makes into it

The base class owns the libxml2 context and the error, and nothing else: the elements go
to the three handlers a subclass overrides, which are the parameter `handle` here, over
the subclass's stored properties `σ`.

libxml2 is a parameter too. All that is assumed of it is its shape: a push context is
created or not, and parsing a chunk makes some callbacks, in some order, and leaves the
context changed. Which callbacks, and for which chunk, is `LibXML2`'s to say.

Two properties of the class are flags here. `unsafeSelf` is whether the allocated cell
holds the reference the parser keeps to itself, and `once` is whether the lazy `__once`
has been evaluated. The `log` is not in the source: it is the calls made across the C
boundary and the errors recorded, in order, which is what "freed at most once" or "at any
time" is a statement about.
-/

set_option autoImplicit false

namespace XMLPush

open Nesting
open Machine

/-- `PushSaxParserErrorCode`. -/
inductive PushSaxParserErrorCode where
  | libXML2Error (message : String)
  | usedAfterFinished
  deriving DecidableEq, Repr

/-- How a throwing call ends, if it does not trap. -/
abbrev Outcome (α : Type) := Except PushSaxParserErrorCode α

/-- One callback as libxml2 makes it, with the memory its pointers point into. Of
    `startElementNs` only the arguments its handler reads are kept. -/
inductive SAXCallback where
  | startElementNs (memory : Memory) (localname nsPrefix uri : Option Pointer)
      (nb_attributes : Nat) (attributes : List (Option Pointer))
  | endElementNs (memory : Memory) (localname nsPrefix uri : Option Pointer)
  | characters (memory : Memory) (ch : Option Pointer) (len : Nat)
  /-- `error`, with the bytes `vsnprintf` would print if it had room. -/
  | error (formatted : Data)
  deriving DecidableEq, Repr

/-- libxml2's push parser, over whatever it keeps behind the context pointer. -/
structure LibXML2 (Ctx : Type) where
  xmlCreatePushParserCtxt : Option Ctx
  xmlParseChunk : Ctx → Data → Bool → List SAXCallback × Ctx

/-- What the log of a parser records. -/
inductive Effect where
  | xmlParseChunk (chunk : Data) (terminate : Bool)
  | xmlFreeParserCtxt
  | deinitializeUnsafeSelf
  | errorOccurred (message : String)
  deriving DecidableEq, Repr

variable {Ctx σ : Type}

/-- The stored properties of `LibXMLPushSAXParser`, and the subclass's. -/
@[ext] structure LibXMLPushSAXParser (Ctx σ : Type) where
  context : Option Ctx
  error : Option PushSaxParserErrorCode
  unsafeSelf : Bool
  once : Bool
  subclass : σ
  log : List Effect

namespace LibXMLPushSAXParser

/-- `init`. -/
def init (lib : LibXML2 Ctx) (subclass : σ) : LibXMLPushSAXParser Ctx σ where
  context := lib.xmlCreatePushParserCtxt
  error := none
  unsafeSelf := true
  once := false
  subclass := subclass
  log := []

/-- `errorOccurred`: the one slot is overwritten. -/
def errorOccurred (message : String) (s : LibXMLPushSAXParser Ctx σ) :
    LibXMLPushSAXParser Ctx σ :=
  { s with error := some (.libXML2Error message), log := s.log ++ [.errorOccurred message] }

/-- An element event, handled by the subclass. -/
def elementEvent (handle : σ → Event → Except Trap σ) (event : Event)
    (s : LibXMLPushSAXParser Ctx σ) : Except Trap (LibXMLPushSAXParser Ctx σ) := do
  let subclass ← handle s.subclass event
  return { s with subclass := subclass }

end LibXMLPushSAXParser

/-! ## The callback functions -/

section Callbacks

variable (handle : σ → Event → Except Trap σ)

/-- `XMLPushSAXParserStartElementSAX`. -/
def XMLPushSAXParserStartElementSAX (memory : Memory) (localname nsPrefix uri : Option Pointer)
    (nb_attributes : Nat) (attributes : List (Option Pointer))
    (s : LibXMLPushSAXParser Ctx σ) : Except Trap (LibXMLPushSAXParser Ctx σ) :=
  match getString memory localname with
  | none => .ok (s.errorOccurred "No local name for element")
  | some elementLocalName =>
    let attributesBuffer := LibXMLRawAttribute.getBufferPointerWithStart attributes nb_attributes
    s.elementEvent handle (.opening
      { nsPrefix := getString memory nsPrefix
        URI := getString memory uri
        localName := elementLocalName }
      (elementAttributes memory attributesBuffer))

/-- `XMLPushSAXParserEndElementSAX`. -/
def XMLPushSAXParserEndElementSAX (memory : Memory) (localname nsPrefix uri : Option Pointer)
    (s : LibXMLPushSAXParser Ctx σ) : Except Trap (LibXMLPushSAXParser Ctx σ) :=
  -- There is no guard here: a nil local name goes on as the empty one.
  s.elementEvent handle (.closing
    { nsPrefix := getString memory nsPrefix
      URI := getString memory uri
      localName := (getString memory localname).getD "" })

/-- `XMLPushSAXParserCharactersFoundSAX`. -/
def XMLPushSAXParserCharactersFoundSAX (memory : Memory) (ch : Option Pointer) (len : Nat)
    (s : LibXMLPushSAXParser Ctx σ) : Except Trap (LibXMLPushSAXParser Ctx σ) :=
  match ch with
  | none => .ok (s.errorOccurred "reported nil characters found")
  | some ch => s.elementEvent handle (.text (memory.bytes ch len))

/-- The text of an error: what fits the 1024 bytes of the C buffer with its NUL, and empty if
    that is no UTF-8, since a nil `NSString` is bridged to an empty `String`. -/
def errorMessage (formatted : Data) : String :=
  (utf8String ((formatted.take 1023).takeWhile (· ≠ 0))).getD ""

/-- `_XMLPushSAXParserErrorEncounteredSAX`. -/
def XMLPushSAXParserErrorEncounteredSAX (formatted : Data) (s : LibXMLPushSAXParser Ctx σ) :
    LibXMLPushSAXParser Ctx σ :=
  s.errorOccurred (errorMessage formatted)

/-- The handler struct: each callback goes to its function. -/
def SAXCallback.dispatch (s : LibXMLPushSAXParser Ctx σ) :
    SAXCallback → Except Trap (LibXMLPushSAXParser Ctx σ)
  | .startElementNs memory localname nsPrefix uri nb_attributes attributes =>
    XMLPushSAXParserStartElementSAX handle memory localname nsPrefix uri nb_attributes attributes s
  | .endElementNs memory localname nsPrefix uri =>
    XMLPushSAXParserEndElementSAX handle memory localname nsPrefix uri s
  | .characters memory ch len => XMLPushSAXParserCharactersFoundSAX handle memory ch len s
  | .error formatted => .ok (XMLPushSAXParserErrorEncounteredSAX formatted s)

end Callbacks

/-! ## The entry points -/

/-- The largest `Int32`. -/
def int32Max : Nat := 2147483647

namespace LibXMLPushSAXParser

/-- `xmlParseChunk` on the parser's context. -/
def xmlParseChunk (lib : LibXML2 Ctx) (handle : σ → Event → Except Trap σ) (context : Ctx)
    (chunk : Data) (terminate : Bool) (s : LibXMLPushSAXParser Ctx σ) :
    Except Trap (LibXMLPushSAXParser Ctx σ) :=
  let (callbacks, context) := lib.xmlParseChunk context chunk terminate
  run (SAXCallback.dispatch handle)
    { s with context := some context, log := s.log ++ [.xmlParseChunk chunk terminate] }
    callbacks

/-- `__once` and `cleanupContext`, which evaluates it. -/
def cleanupContext (s : LibXMLPushSAXParser Ctx σ) : LibXMLPushSAXParser Ctx σ :=
  if s.once then s
  else
    match s.context with
    | none => { s with once := true }
    | some _ =>
      { s with
        once := true
        context := none
        unsafeSelf := false
        log := s.log ++ [.xmlFreeParserCtxt, .deinitializeUnsafeSelf] }

/-- `if let error = self.error { throw error }`. -/
def pendingError (s : LibXMLPushSAXParser Ctx σ) : Outcome Unit :=
  match s.error with
  | some error => .error error
  | none => .ok ()

variable (lib : LibXML2 Ctx) (handle : σ → Event → Except Trap σ)

/-- `_parseData`. -/
def _parseData (data : Data) (s : LibXMLPushSAXParser Ctx σ) :
    Except Trap (Outcome Unit × LibXMLPushSAXParser Ctx σ) :=
  match s.context with
  | none => .ok (.error .usedAfterFinished, s)
  | some context =>
    if data.length > int32Max then .error .int32Overflow
    else do
      let s ← s.xmlParseChunk lib handle context data false
      return (s.pendingError, s)

/-- `_finishParsing`. -/
def _finishParsing (s : LibXMLPushSAXParser Ctx σ) :
    Except Trap (Outcome Unit × LibXMLPushSAXParser Ctx σ) :=
  match s.context with
  | none => .ok (.error .usedAfterFinished, s)
  | some context => do
    let s ← s.xmlParseChunk lib handle context [] true
    let s := s.cleanupContext
    return (s.pendingError, s)

/-- `_parse`: an error of `_parseData` leaves it before `_finishParsing`. -/
def _parse (data : Data) (s : LibXMLPushSAXParser Ctx σ) :
    Except Trap (Outcome Unit × LibXMLPushSAXParser Ctx σ) :=
  match s.context with
  | none => .ok (.error .usedAfterFinished, s)
  | some _ => do
    let (outcome, s) ← s._parseData lib handle data
    match outcome with
    | .error error => return (.error error, s)
    | .ok () => s._finishParsing lib handle

end LibXMLPushSAXParser

namespace XMLPushParser

variable {W P : Type}

/-- An `XMLPushParser`, with its base class. -/
abbrev Object (Ctx W P : Type) := LibXMLPushSAXParser Ctx (XMLPushParser W P)

/-- An `XMLPushParser` as it is made. -/
def fresh (lib : LibXML2 Ctx) (root : P) (world : W) : Object Ctx W P :=
  LibXMLPushSAXParser.init lib (init root world)

variable (lib : LibXML2 Ctx) (D : SAXParsable W P)

/-- `parse`. -/
def parse (data : Data) (s : Object Ctx W P) : Except Trap (Outcome P × Object Ctx W P) := do
  let (outcome, s) ← s._parse lib (handle D) data
  return (outcome.map fun _ => s.subclass.root, s)

/-- `parseData`. -/
def parseData (data : Data) (s : Object Ctx W P) :
    Except Trap (Outcome Unit × Object Ctx W P) :=
  s._parseData lib (handle D) data

/-- `finishParsing`. -/
def finishParsing (s : Object Ctx W P) : Except Trap (Outcome P × Object Ctx W P) := do
  let (outcome, s) ← s._finishParsing lib (handle D)
  return (outcome.map fun _ => s.subclass.root, s)

end XMLPushParser

/-- A call of the public interface. -/
inductive Call where
  | parse (data : Data)
  | parseData (data : Data)
  | finishParsing
  deriving DecidableEq, Repr

/-- Make the call. `parseData` returns no root. -/
def Call.perform {W P : Type} (lib : LibXML2 Ctx) (D : SAXParsable W P)
    (s : XMLPushParser.Object Ctx W P) :
    Call → Except Trap (Outcome (Option P) × XMLPushParser.Object Ctx W P)
  | .parse data => do
    let (outcome, s) ← XMLPushParser.parse lib D data s
    return (outcome.map some, s)
  | .parseData data => do
    let (outcome, s) ← XMLPushParser.parseData lib D data s
    return (outcome.map fun _ => none, s)
  | .finishParsing => do
    let (outcome, s) ← XMLPushParser.finishParsing lib D s
    return (outcome.map some, s)

/-- The calls one after the other, whatever each of them throws. -/
def performAll {W P : Type} (lib : LibXML2 Ctx) (D : SAXParsable W P)
    (s : XMLPushParser.Object Ctx W P) (calls : List Call) :
    Except Trap (XMLPushParser.Object Ctx W P) :=
  run (fun s call => do
    let (_, s) ← call.perform lib D s
    return s) s calls

end XMLPush

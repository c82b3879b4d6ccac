import XMLPush.Source.Parsable

/-!
# `XMLPushParser`

The element state machine of `XMLPushParser.swift`, field for field and branch for
branch. The parser keeps no tree: a level counter, a stack of delegates with the level
each was pushed at, an ignore level, and one buffer with one set of attributes for
whatever data element is open.

Every `!` of the source is a `Trap` here. `defer` is spelled out: `endElementWithPrefix`
is its body followed by `endElementDefer`, on every path that does not trap.
-/

set_option autoImplicit false

namespace XMLPush

open Nesting

variable {W P : Type}

/-- `SAXParsableStackItem`. -/
structure SAXParsableStackItem (P : Type) where
  parseItem : P
  level : Int
  deriving DecidableEq, Repr

/-- The stored properties of `XMLPushParser`, with the delegates it talks to. The last item
    of the source's `stack` is the head here. -/
@[ext] structure XMLPushParser (W P : Type) where
  root : P
  stack : List (SAXParsableStackItem P)
  level : Int
  buffer : Option Data
  dataAttributes : Option Attributes
  ignoreElementsUntilLevel : Option Int
  host : Host W P

namespace XMLPushParser

/-- `init`, with `root` the delegate that `T()` made and `world` the world it left. -/
def init (root : P) (world : W) : XMLPushParser W P where
  root := root
  stack := [⟨root, 0⟩]
  level := 0
  buffer := none
  dataAttributes := none
  ignoreElementsUntilLevel := none
  host := .start world

/-- `current`. -/
def current (s : XMLPushParser W P) : Except Trap P :=
  match s.stack with
  | [] => .error .emptyStack
  | last :: _ => .ok last.parseItem

/-- `ignoringElements`. -/
def ignoringElements (s : XMLPushParser W P) : Bool :=
  match s.ignoreElementsUntilLevel with
  | none => false
  | some ignoreLevel => s.level ≥ ignoreLevel

/-- The `switch` of `startElementWithPrefix` over the answer. -/
def answered (attributes : Attributes) (s : XMLPushParser W P) :
    SAXStartElement P → XMLPushParser W P
  | .ignore => { s with ignoreElementsUntilLevel := some s.level }
  | .handleAsData => { s with buffer := some [], dataAttributes := some attributes }
  | .handleWithChild child => { s with stack := ⟨child, s.level⟩ :: s.stack }

/-- `startElementWithPrefix`. -/
def startElementWithPrefix (D : SAXParsable W P) (name : ElementName) (attributes : Attributes)
    (s : XMLPushParser W P) : Except Trap (XMLPushParser W P) := do
  let s := { s with level := s.level + 1 }
  if s.ignoringElements then
    return s
  let current ← s.current
  let (answer, host) := s.host.startElement D current name attributes
  return { s with host := host }.answered attributes answer

/-- `endElementWithPrefix`, up to the `defer` block. -/
def endElementBody (D : SAXParsable W P) (name : ElementName)
    (s : XMLPushParser W P) : Except Trap (XMLPushParser W P) := do
  if s.ignoringElements then
    return s
  match s.stack with
  | [] => throw .emptyStack
  | last :: rest =>
    -- A child element was pushed at the level it ends at; anything else is taken for data.
    if last.level = s.level then
      let s := { s with stack := rest }
      let current ← s.current
      return { s with host := s.host.endChildElement D current name last.parseItem }
    let current ← s.current
    match s.dataAttributes with
    | none => throw .nilDataAttributes
    | some attributes =>
      match s.buffer with
      | none => throw .nilBuffer
      | some contents =>
        return { s with
          host := s.host.endDataElement D current name attributes contents
          buffer := none
          dataAttributes := none }

/-- The `defer` block of `endElementWithPrefix`. -/
def endElementDefer (s : XMLPushParser W P) : XMLPushParser W P :=
  { s with
    ignoreElementsUntilLevel :=
      if s.ignoreElementsUntilLevel = some s.level then none else s.ignoreElementsUntilLevel
    level := s.level - 1 }

/-- `endElementWithPrefix`. -/
def endElementWithPrefix (D : SAXParsable W P) (name : ElementName)
    (s : XMLPushParser W P) : Except Trap (XMLPushParser W P) := do
  let s ← s.endElementBody D name
  return s.endElementDefer

/-- `charactersFound`. -/
def charactersFound (characters : Data) (s : XMLPushParser W P) : XMLPushParser W P :=
  { s with buffer := s.buffer.map (· ++ characters) }

/-- One event, by the handler that receives it. -/
def handle (D : SAXParsable W P) (s : XMLPushParser W P) : Event →
    Except Trap (XMLPushParser W P)
  | .opening name attributes => s.startElementWithPrefix D name attributes
  | .text characters => .ok (s.charactersFound characters)
  | .closing name => s.endElementWithPrefix D name

end XMLPushParser

end XMLPush

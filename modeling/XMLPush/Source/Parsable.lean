import XMLPush.Lib.Nesting
import XMLPush.Source.Attribute

/-!
# Delegates, and the callbacks they receive

`SAXParsable` is implemented outside the parser, by classes with state of their own, so
a family of delegates is a parameter here. `P` is the type of a delegate value — an
object reference, in Swift — and `W` is everything delegates can remember: one world,
shared, threaded through every call. An answer may depend on every callback made so far
and on nothing else; an answer may also hand back a delegate that is already in use.

`Host` is that world next to the log of callbacks made. The log is not in the source: it
is what the source *does* to its delegates, in order, and what every statement about
callbacks is a statement about.
-/

set_option autoImplicit false

namespace XMLPush

open Nesting

/-- The three names libxml2 gives an element. -/
structure ElementName where
  nsPrefix : Option String := none
  URI : Option String := none
  localName : String
  deriving DecidableEq, Repr

/-- One event of a well-formed stream, as the three handlers of `XMLPushParser` receive it. -/
abbrev Event := Token ElementName Attributes UInt8

/-- A document, or a run of sibling nodes of one. -/
abbrev Content := Forest ElementName Attributes UInt8

/-- `SAXStartElement`. -/
inductive SAXStartElement (P : Type) where
  | ignore
  | handleAsData
  | handleWithChild (child : P)
  deriving DecidableEq, Repr

/-- `SAXParsable`: what the delegates of one run do. -/
structure SAXParsable (W P : Type) where
  startElement : P → ElementName → Attributes → W → SAXStartElement P × W
  endDataElement : P → ElementName → Attributes → Data → W → W
  endChildElement : P → ElementName → P → W → W

/-- One callback: the delegate it is made on, and its arguments. -/
inductive Callback (P : Type) where
  | startElement (target : P) (name : ElementName) (attributes : Attributes)
  | endDataElement (target : P) (name : ElementName) (attributes : Attributes) (contents : Data)
  | endChildElement (target : P) (name : ElementName) (child : P)
  deriving DecidableEq

/-- The delegates' world and the callbacks made so far, oldest first. -/
@[ext] structure Host (W P : Type) where
  world : W
  calls : List (Callback P)

namespace Host

variable {W P : Type}

/-- No callback made yet. -/
def start (world : W) : Host W P := ⟨world, []⟩

/-- Call `startElement` on `target`. -/
def startElement (D : SAXParsable W P) (target : P) (name : ElementName)
    (attributes : Attributes) (h : Host W P) : SAXStartElement P × Host W P :=
  let (answer, world) := D.startElement target name attributes h.world
  (answer, ⟨world, h.calls ++ [.startElement target name attributes]⟩)

/-- Call `endDataElement` on `target`. -/
def endDataElement (D : SAXParsable W P) (target : P) (name : ElementName)
    (attributes : Attributes) (contents : Data) (h : Host W P) : Host W P :=
  ⟨D.endDataElement target name attributes contents h.world,
    h.calls ++ [.endDataElement target name attributes contents]⟩

/-- Call `endChildElement` on `target`. -/
def endChildElement (D : SAXParsable W P) (target : P) (name : ElementName) (child : P)
    (h : Host W P) : Host W P :=
  ⟨D.endChildElement target name child h.world, h.calls ++ [.endChildElement target name child]⟩

@[simp] theorem startElement_calls (D : SAXParsable W P) (target : P) (name : ElementName)
    (attributes : Attributes) (h : Host W P) :
    (h.startElement D target name attributes).2.calls =
      h.calls ++ [.startElement target name attributes] := rfl

@[simp] theorem endDataElement_calls (D : SAXParsable W P) (target : P) (name : ElementName)
    (attributes : Attributes) (contents : Data) (h : Host W P) :
    (h.endDataElement D target name attributes contents).calls =
      h.calls ++ [.endDataElement target name attributes contents] := rfl

@[simp] theorem endChildElement_calls (D : SAXParsable W P) (target : P) (name : ElementName)
    (child : P) (h : Host W P) :
    (h.endChildElement D target name child).calls =
      h.calls ++ [.endChildElement target name child] := rfl

end Host

/-- The ways a run of the parser can crash. -/
inductive Trap where
  /-- `stack.last!` on an empty stack. -/
  | emptyStack
  /-- `dataAttributes!` on nil. -/
  | nilDataAttributes
  /-- `buffer!` on nil. -/
  | nilBuffer
  /-- `Int32(data.count)` on a count that does not fit. -/
  | int32Overflow
  deriving DecidableEq, Repr

end XMLPush

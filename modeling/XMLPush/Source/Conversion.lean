import XMLPush.Lib.Decimal
import XMLPush.Source.Text

/-!
# `Conversion`

What text is taken for, next to `stringFromData`. The two conversions answer nil for nil and
for nothing else: text that is no number is 0, and text that is not true is false.
-/

set_option autoImplicit false

namespace XMLPush

/-- The smallest `Int`, of 64 bits. -/
def intMin : Int := -9223372036854775808

/-- The largest. -/
def intMax : Int := 9223372036854775807

/-- `Int(_:)`, on a string. -/
def intOfString (string : String) : Option Int := Decimal.read intMin intMax string.toList

/-- `lowercased()`, as far as its results are compared with `t`, `true` and `1`: no character
    outside of ASCII has one of these letters for its lower case. -/
def lowercased (string : String) : String := string.toLower

/-- `Conversion.intFromString`. -/
def intFromString : Option String → Option Int
  | none => none
  | some string =>
    match intOfString string with
    | none => some 0
    | some int => some int

/-- `Conversion.boolFromString`. -/
def boolFromString : Option String → Option Bool
  | none => none
  | some string =>
    match lowercased string with
    | "t" | "true" | "1" => some true
    | _ => some false

end XMLPush

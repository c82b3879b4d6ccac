import Mathlib.Data.Quot
import XMLPush.Lib.Unicode
import XMLPush.Lib.Utf8

/-!
# Bytes and strings at the Foundation boundary

The parser moves bytes and hands out strings, and there are exactly two ways it turns
one into the other.

* **All or nothing**: `NSString(data:encoding:)`, `NSString(bytes:length:encoding:)` and
  `stringWithUTF8String:` answer nil on malformed UTF-8. That is `utf8String`.
* **With repair**: `String(cString:)` reads up to the first NUL and replaces every
  maximal ill-formed part by U+FFFD. That is `cString`.

They agree on well-formed text, which is what `utf8String_utf8Bytes` and
`cString_utf8Bytes` say.

A string is handed out as it was spelled, but `==` does not see the spelling: strings are equal
if they are canonically equivalent (`stringEqual`), and a dictionary keeps one entry for all the
spellings of a key (`StringKey`).
-/

set_option autoImplicit false

namespace XMLPush

/-- Foundation's `Data`, and the bytes of an `NSMutableData`. -/
abbrev Data := List UInt8

/-- The UTF-8 bytes of a string. -/
def utf8Bytes (s : String) : Data := Utf8.encode s

/-- The all-or-nothing decoder: nil exactly on malformed UTF-8. -/
def utf8String (bytes : Data) : Option String := Utf8.decode? bytes

theorem utf8String_utf8Bytes (s : String) : utf8String (utf8Bytes s) = some s :=
  Utf8.decode?_eq_some_iff.mpr rfl

/-- `Conversion.stringFromData`. -/
def stringFromData (data : Data) : String :=
  match utf8String data with
  | some string => string
  | none => ""

theorem stringFromData_eq_getD (data : Data) :
    stringFromData data = (Utf8.decode? data).getD "" := by
  unfold stringFromData utf8String
  cases Utf8.decode? data with
  | none => rfl
  | some string => rfl

@[simp] theorem stringFromData_utf8Bytes (s : String) : stringFromData (utf8Bytes s) = s := by
  unfold stringFromData
  rw [utf8String_utf8Bytes]

/-! ## Equality -/

/-- Canonical equivalence of strings. -/
def canonicalEquivalence : Setoid String where
  r := Canonical.unicode.Equivalent
  iseqv := ⟨fun _ => rfl, Eq.symm, Eq.trans⟩

/-- `==` on `String`. -/
def stringEqual (lhs rhs : String) : Bool := Canonical.unicode.Equivalent lhs rhs

/-- `==` on `String?`. -/
def optionalStringEqual : Option String → Option String → Bool
  | none, none => true
  | some lhs, some rhs => stringEqual lhs rhs
  | _, _ => false

/-- A `String` as a dictionary keeps it for a key: up to `==`. -/
abbrev StringKey := Quotient canonicalEquivalence

/-- The key a string is. -/
def StringKey.of (s : String) : StringKey := Quotient.mk canonicalEquivalence s

instance : DecidableEq StringKey :=
  haveI : ∀ s t : String, Decidable (canonicalEquivalence.r s t) := fun s t =>
    inferInstanceAs (Decidable (Canonical.unicode.Equivalent s t))
  Quotient.decidableEq

theorem StringKey.of_eq_of_iff {s t : String} :
    StringKey.of s = StringKey.of t ↔ stringEqual s t = true := by
  unfold stringEqual
  rw [decide_eq_true_iff]
  exact Quotient.eq

theorem StringKey.decide_of_eq_of (s t : String) :
    decide (StringKey.of s = StringKey.of t) = stringEqual s t := by
  rw [Bool.eq_iff_iff, decide_eq_true_iff]
  exact StringKey.of_eq_of_iff

/-- An accented letter is equal to the letter and its accent. -/
example : stringEqual "\u00E9" "e\u0301" = true := by decide +kernel

/-! ## `String(cString:)` -/

/-- The byte continues a UTF-8 sequence. -/
def isContinuation (b : UInt8) : Bool := 0x80 ≤ b && b ≤ 0xBF

/-- The byte may come second after the lead byte of a three or four byte sequence. The
    narrower rows keep out overlong forms, surrogates and values above U+10FFFF. -/
def isSecond (lead b : UInt8) : Bool :=
  if lead = 0xE0 then 0xA0 ≤ b && b ≤ 0xBF
  else if lead = 0xED then 0x80 ≤ b && b ≤ 0x9F
  else if lead = 0xF0 then 0x90 ≤ b && b ≤ 0xBF
  else if lead = 0xF4 then 0x80 ≤ b && b ≤ 0x8F
  else if 0xE1 ≤ lead && lead ≤ 0xF3 then isContinuation b
  else false

/-- How many bytes one replacement character stands for: the longest start of a
    well-formed sequence, and at least one byte. -/
def illFormedLength : Data → Nat
  | lead :: second :: rest =>
    if isSecond lead second then
      if 0xF0 ≤ lead && rest.head?.any isContinuation then 3 else 2
    else 1
  | _ => 1

/-- Decoding with repair. The first argument bounds the number of characters, which the
    number of bytes always does. -/
def repaired : Nat → Data → List Char
  | 0, _ => []
  | _ + 1, [] => []
  | n + 1, b :: bs =>
    match ByteArray.utf8DecodeChar? ⟨(b :: bs).toArray⟩ 0 with
    | some c => c :: repaired n ((b :: bs).drop c.utf8Size)
    | none => '\uFFFD' :: repaired n ((b :: bs).drop (illFormedLength (b :: bs)))

/-- `String(cString:)` over the memory the pointer points into. -/
def cString (memory : Data) : String :=
  let bytes := memory.takeWhile (· ≠ 0)
  match utf8String bytes with
  | some string => string
  | none => String.ofList (repaired bytes.length bytes)

theorem cString_utf8Bytes {memory : Data} {s : String}
    (h : memory.takeWhile (· ≠ 0) = utf8Bytes s) : cString memory = s := by
  unfold cString
  dsimp only
  rw [h, utf8String_utf8Bytes]

end XMLPush

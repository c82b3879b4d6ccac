import XMLPush.Source.ElementParser

/-!
# What the text of an element is taken for

`intValue` and `intFromString` read the same numerals, and both of them every numeral of every
`Int`; they differ in what they make of the rest. `boolValue` and `boolFromString` agree
wherever the first one answers, and the second one knows two more words for true.
-/

set_option autoImplicit false

namespace XMLPush

open Decimal

theorem intOfString_eq_some_iff {string : String} {n : Int} :
    intOfString string = some n ↔ Spells string.toList n ∧ intMin ≤ n ∧ n ≤ intMax :=
  read_eq_some_iff (by decide) (by decide)

/-- **`intValue` answers an integer exactly for its numerals**, as far as integers go: a sign or
    none, and digits, zeros before them included. **`intFromString` answers the same**, and 0
    for everything else, so that of its zeros nothing tells which are numerals. -/
theorem int_conversions (element : XMLDataElement) (n : Int) :
    (element.intValue = some n ↔
      Spells element.value.toList n ∧ intMin ≤ n ∧ n ≤ intMax) ∧
    (intFromString (some element.value) = some n ↔
      (Spells element.value.toList n ∧ intMin ≤ n ∧ n ≤ intMax) ∨
        n = 0 ∧ ∀ m, Spells element.value.toList m → m < intMin ∨ intMax < m) := by
  have hread : element.intValue = some n ↔
      Spells element.value.toList n ∧ intMin ≤ n ∧ n ≤ intMax := intOfString_eq_some_iff
  refine ⟨hread, ?_⟩
  rw [← hread]
  cases hint : intOfString element.value with
  | none =>
    have hnone : element.intValue = none := hint
    have hout : ∀ m, Spells element.value.toList m → m < intMin ∨ intMax < m := by
      intro m hspells
      by_contra hnot
      have hrange : intMin ≤ m ∧ m ≤ intMax := by omega
      rw [intOfString_eq_some_iff.mpr ⟨hspells, hrange⟩] at hint
      cases hint
    rw [hnone]
    simp only [intFromString, hint, Option.some.injEq, reduceCtorEq, false_or]
    constructor
    · rintro rfl
      exact ⟨rfl, hout⟩
    · intro h
      exact h.1.symm
  | some m =>
    have hsome : element.intValue = some m := hint
    rw [hsome]
    simp only [intFromString, hint]
    constructor
    · exact Or.inl
    · rintro (h | ⟨rfl, hout⟩)
      · exact h
      · obtain ⟨hspells, hlo, hhi⟩ := intOfString_eq_some_iff.mp hint
        rcases hout m hspells with h | h
        · exact absurd hlo (Int.not_le.mpr h)
        · exact absurd hhi (Int.not_le.mpr h)

/-- Every integer survives being written down. -/
theorem intOfString_toString {n : Int} (hlo : intMin ≤ n) (hhi : n ≤ intMax) :
    intOfString (toString n) = some n :=
  intOfString_eq_some_iff.mpr ⟨spells_toString n, hlo, hhi⟩

/-- Where `boolValue` answers, `boolFromString` answers the same. -/
theorem boolFromString_of_boolValue {element : XMLDataElement} {b : Bool}
    (h : element.boolValue = some b) : boolFromString (some element.value) = some b := by
  unfold XMLDataElement.boolValue at h
  split at h
  · rename_i htrue
    simp only [boolFromString, htrue]
    exact h
  · split at h
    · rename_i hfalse
      simp only [boolFromString, hfalse]
      exact h
    · cases h

end XMLPush

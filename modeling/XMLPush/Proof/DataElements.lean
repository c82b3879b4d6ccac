import XMLPush.Proof.AttributeDictionary
import XMLPush.Source.ElementParser

/-!
# Equality of data elements

`==` on `XMLDataElement` enumerates the two attribute dictionaries and compares the keys and
the values as arrays. Is that equality of content, which is equal text and under every key
equal attributes?

**One way it is.** The keys and the values of a dictionary are enumerated alike, so equal arrays
are equal mappings (`XMLDataElement.equal_iff`).

**The other way it is not.** Two dictionaries with the same entries may enumerate them in
different orders, for instance because two start tags list the same attributes in different
orders (`elementAttributes_sameMapping`), and then the arrays differ. `equal_iff_content_iff`
says that nothing else goes wrong.
-/

set_option autoImplicit false

namespace XMLPush

open Dictionary

/-- Attributes that are `==`. -/
def LibXMLAttribute.Equal (lhs rhs : LibXMLAttribute) : Prop := lhs.equal rhs = true

theorem stringEqual_refl (s : String) : stringEqual s s = true :=
  StringKey.of_eq_of_iff.mp rfl

theorem optionalStringEqual_refl (s : Option String) : optionalStringEqual s s = true := by
  cases s with
  | none => rfl
  | some s => exact stringEqual_refl s

theorem LibXMLAttribute.Equal.refl (attr : LibXMLAttribute) : attr.Equal attr := by
  unfold Equal equal
  simp only [stringEqual_refl, optionalStringEqual_refl, Bool.and_self]

theorem isEqv_equal_iff {xs ys : List LibXMLAttribute} :
    xs.isEqv ys LibXMLAttribute.equal = true ↔ List.Forall₂ LibXMLAttribute.Equal xs ys := by
  induction xs generalizing ys with
  | nil =>
    cases ys with
    | nil => simp
    | cons y ys => simp
  | cons x xs ih =>
    cases ys with
    | nil => simp
    | cons y ys =>
      rw [List.isEqv_cons_cons, Bool.and_eq_true, ih, List.forall₂_cons]
      exact Iff.rfl

/-- **Equal elements have equal content, enumerated in the same order.** -/
theorem XMLDataElement.equal_iff {lhs rhs : XMLDataElement} :
    lhs.equal rhs = true ↔
      (stringEqual lhs.value rhs.value = true ∧
        SameMapping LibXMLAttribute.Equal lhs.attributes rhs.attributes) ∧
      lhs.attributes.keys = rhs.attributes.keys := by
  unfold equal
  rw [Bool.and_eq_true, Bool.and_eq_true, isEqv_equal_iff, beq_iff_eq]
  constructor
  · intro h
    obtain ⟨⟨hvalue, hkeys⟩, hvalues⟩ := h
    exact ⟨⟨hvalue, (forall₂_values_iff hkeys).mp hvalues⟩, hkeys⟩
  · intro h
    obtain ⟨⟨hvalue, hsame⟩, hkeys⟩ := h
    exact ⟨⟨hvalue, hkeys⟩, (forall₂_values_iff hkeys).mpr hsame⟩

/-- **Equality is equality of content exactly for elements that are not told apart by the order
    of enumeration**: their texts differ, or their attributes do, or their dictionaries
    enumerate the keys in one order. -/
theorem equal_iff_content_iff (lhs rhs : XMLDataElement) :
    (lhs.equal rhs = true ↔
        stringEqual lhs.value rhs.value = true ∧
          SameMapping LibXMLAttribute.Equal lhs.attributes rhs.attributes) ↔
      (stringEqual lhs.value rhs.value = true →
        SameMapping LibXMLAttribute.Equal lhs.attributes rhs.attributes →
          lhs.attributes.keys = rhs.attributes.keys) := by
  rw [XMLDataElement.equal_iff]
  constructor
  · intro hiff hvalue hsame
    exact (hiff.mpr ⟨hvalue, hsame⟩).2
  · intro hkeys
    constructor
    · intro h
      exact h.1
    · intro h
      exact ⟨h, hkeys h.1 h.2⟩

/-! ## Start tags that list the same attributes -/

/-- The order of the attributes in a start tag does not matter to the mapping. -/
theorem elementAttributes_sameMapping {memory memory' : Memory}
    {raws raws' : List LibXMLRawAttribute} {attributes attributes' : List LibXMLAttribute}
    (hraws : List.Forall₂ (LaidOut memory) raws attributes)
    (hraws' : List.Forall₂ (LaidOut memory') raws' attributes')
    (hperm : attributes.Perm attributes')
    (huncoloned : ∀ attr ∈ attributes, Uncoloned attr)
    (hdistinct : (attributes.map LibXMLAttribute.name).Nodup) :
    SameMapping LibXMLAttribute.Equal (elementAttributes memory raws)
      (elementAttributes memory' raws') := by
  have hkeyed : (keyed attributes).Perm (keyed attributes') := hperm.map _
  rw [elementAttributes_eq_fill hraws, elementAttributes_eq_fill hraws']
  exact fill_sameMapping LibXMLAttribute.Equal.refl hkeyed (keyed_nodup huncoloned hdistinct)

/-- `a` and `b` with their NUL, and the values `1` and `2` after them. -/
def pairMemory : Memory := [97, 0, 98, 0, 49, 50]

/-- `a="1"`. -/
def rawA : LibXMLRawAttribute := ⟨some 0, none, none, some 4, some 5⟩

/-- `b="2"`. -/
def rawB : LibXMLRawAttribute := ⟨some 2, none, none, some 5, some 6⟩

theorem rawA_laidOut : LaidOut pairMemory rawA { localName := "a", value := "1" } :=
  ⟨⟨0, rfl, by decide, _, rfl⟩, trivial, trivial, 4, 5, rfl, rfl, by decide, rfl⟩

theorem rawB_laidOut : LaidOut pairMemory rawB { localName := "b", value := "2" } :=
  ⟨⟨2, rfl, by decide, _, rfl⟩, trivial, trivial, 5, 6, rfl, rfl, by decide, rfl⟩

/-- A data element without text that starts with these attributes. -/
def emptyElement (raws : List LibXMLRawAttribute) : XMLDataElement where
  value := ""
  attributes := elementAttributes pairMemory raws

/-- `<d a="1" b="2"></d>` and `<d b="2" a="1"></d>` have the same content, the dictionaries
    enumerate it in the two orders, and the elements are not equal. -/
theorem swapped_attributes_unequal :
    stringEqual (emptyElement [rawA, rawB]).value (emptyElement [rawB, rawA]).value = true ∧
      SameMapping LibXMLAttribute.Equal (emptyElement [rawA, rawB]).attributes
        (emptyElement [rawB, rawA]).attributes ∧
      (emptyElement [rawA, rawB]).equal (emptyElement [rawB, rawA]) = false := by
  refine ⟨stringEqual_refl _, ?_, by decide +kernel⟩
  apply elementAttributes_sameMapping (.cons rawA_laidOut (.cons rawB_laidOut .nil))
    (.cons rawB_laidOut (.cons rawA_laidOut .nil)) (List.Perm.swap _ _ [])
  · simp [Uncoloned]
  · decide +kernel

end XMLPush

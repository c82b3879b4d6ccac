import Mathlib.Data.List.Sort

/-!
# Canonical equivalence

Two strings may be spelled differently and be the same text: an accented letter is one
character, or a letter and a mark, and marks that do not touch each other come in any order.
Unicode decides it by a normal form. Every character is taken apart, and then every run of
marks is put in order of their combining classes; strings with one normal form are canonically
equivalent.

What a character is taken apart into, and which class it is of, is data, and nothing in this
file is about any particular data.

A separator is inert: it stays as it is, marks do not move across it, and no other character
hides one. The text before it and the text behind it can then be compared on their own
(`equivalent_append_inert_iff`).
-/

set_option autoImplicit false

namespace Canonical

/-- What canonical equivalence depends on. -/
structure CharacterData where
  /-- The full canonical decomposition, which is the character alone if it has none. -/
  decomposition : Char → List Char
  /-- 0 for a character that marks stand behind. -/
  combiningClass : Char → Nat

namespace CharacterData

variable (data : CharacterData)

/-- A mark goes behind those of smaller classes, and nothing goes behind a character that marks
    stand behind. -/
def MayPrecede (c d : Char) : Prop :=
  data.combiningClass d = 0 ∨ data.combiningClass c ≤ data.combiningClass d

instance : DecidableRel data.MayPrecede := fun c d =>
  inferInstanceAs (Decidable (data.combiningClass d = 0 ∨
    data.combiningClass c ≤ data.combiningClass d))

/-- Put every run of marks in order. Marks of one class stay in the order they are in. -/
def order (cs : List Char) : List Char := cs.insertionSort data.MayPrecede

/-- The normal form. -/
def normalForm (cs : List Char) : List Char := data.order (cs.flatMap data.decomposition)

/-- Strings with one normal form. -/
def Equivalent (s t : String) : Prop := data.normalForm s.toList = data.normalForm t.toList

instance : DecidableRel data.Equivalent := fun s t =>
  inferInstanceAs (Decidable (data.normalForm s.toList = data.normalForm t.toList))

/-- A character that stays as it is, marks do not move across, and no other character hides. -/
structure Inert (c : Char) : Prop where
  alone : data.decomposition c = [c]
  starter : data.combiningClass c = 0
  hidden : ∀ d, c ∈ data.decomposition d → d = c

variable {data}

/-! ## Order -/

/-- Nothing from before a starter is put behind it. -/
theorem orderedInsert_append_starter {s : Char} (hs : data.combiningClass s = 0) (c : Char)
    (xs ys : List Char) :
    (xs ++ s :: ys).orderedInsert data.MayPrecede c =
      xs.orderedInsert data.MayPrecede c ++ s :: ys := by
  induction xs with
  | nil => exact List.orderedInsert_cons_of_le _ ys (Or.inl hs)
  | cons x xs ih =>
    rw [List.cons_append, List.orderedInsert_cons, List.orderedInsert_cons, ih]
    split
    · rfl
    · rfl

/-- A starter stays where it is, and both sides of it are put in order on their own. -/
theorem order_append_starter {s : Char} (hs : data.combiningClass s = 0) (xs ys : List Char) :
    data.order (xs ++ s :: ys) = data.order xs ++ s :: data.order ys := by
  induction xs with
  | nil =>
    apply List.insertionSort_cons_of_forall_rel
    intro y _
    apply Or.inr
    rw [hs]
    exact Nat.zero_le _
  | cons x xs ih =>
    unfold order at ih ⊢
    rw [List.cons_append, List.insertionSort_cons, ih, orderedInsert_append_starter hs,
      List.insertionSort_cons]

/-! ## Inert characters -/

theorem mem_normalForm_iff {c : Char} (hc : data.Inert c) {cs : List Char} :
    c ∈ data.normalForm cs ↔ c ∈ cs := by
  unfold normalForm
  rw [order, List.mem_insertionSort, List.mem_flatMap]
  constructor
  · rintro ⟨d, hmem, hd⟩
    rw [← hc.hidden d hd]
    exact hmem
  · intro hmem
    refine ⟨c, hmem, ?_⟩
    rw [hc.alone]
    exact List.mem_singleton_self c

theorem normalForm_append_inert {c : Char} (hc : data.Inert c) (xs ys : List Char) :
    data.normalForm (xs ++ c :: ys) = data.normalForm xs ++ c :: data.normalForm ys := by
  unfold normalForm
  rw [List.flatMap_append, List.flatMap_cons, hc.alone, List.singleton_append,
    order_append_starter hc.starter]

/-- A string with a separator in it is not equivalent to one without. -/
theorem Equivalent.mem_iff {c : Char} (hc : data.Inert c) {s t : String}
    (h : data.Equivalent s t) : c ∈ s.toList ↔ c ∈ t.toList := by
  have hforms : data.normalForm s.toList = data.normalForm t.toList := h
  rw [← mem_normalForm_iff hc, hforms, mem_normalForm_iff hc]

/-- **What stands at the two sides of a separator is compared on its own.** -/
theorem equivalent_append_inert_iff {c : Char} (hc : data.Inert c) {s s' t t' : String}
    (hs : c ∉ s.toList) (ht : c ∉ t.toList) :
    data.Equivalent (s ++ String.singleton c ++ t) (s' ++ String.singleton c ++ t') ↔
      data.Equivalent s s' ∧ data.Equivalent t t' := by
  unfold Equivalent
  simp only [String.toList_append, String.toList_singleton, List.append_assoc,
    List.singleton_append, normalForm_append_inert hc]
  rw [List.append_cons_inj_of_notMem (mt (mem_normalForm_iff hc).mp hs)
    (mt (mem_normalForm_iff hc).mp ht)]
  exact and_congr_right fun _ => and_iff_right rfl

end CharacterData

end Canonical

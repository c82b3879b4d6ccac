/-!
# Decimal numerals of a bounded integer type

`Decimal.read lo hi` reads what initialisers of fixed-width integers accept: a sign or none,
and then at least one decimal digit, up to the end. It accumulates digit by digit and gives
up at the first step that leaves the range `lo … hi`. Nothing in this file is about any
particular width.

`Spells` says the same thing without a loop: what the numeral is made of, and its value.
`read_eq_some_iff` connects the two. The point of it is that giving up early is exact: the
magnitude only grows, so a numeral that leaves the range on the way does not come back into
it.
-/

set_option autoImplicit false

namespace Decimal

/-- An integer of this sign and magnitude. -/
def signed (negative : Bool) (magnitude : Nat) : Int :=
  if negative then -(magnitude : Int) else magnitude

/-- Digits, read onto a magnitude that is there already. -/
def accumulate (lo hi : Int) (negative : Bool) (magnitude : Nat) : List Char → Option Int
  | [] => some (signed negative magnitude)
  | c :: cs =>
    if c.isDigit then
      let magnitude := 10 * magnitude + (c.toNat - '0'.toNat)
      if lo ≤ signed negative magnitude ∧ signed negative magnitude ≤ hi then
        accumulate lo hi negative magnitude cs
      else none
    else none

/-- The numeral, if it is one and in range. -/
def read (lo hi : Int) : List Char → Option Int
  | [] => none
  | '-' :: c :: cs => accumulate lo hi true 0 (c :: cs)
  | '+' :: c :: cs => accumulate lo hi false 0 (c :: cs)
  | c :: cs => accumulate lo hi false 0 (c :: cs)

/-- At least one digit, and nothing else. -/
def Digits (cs : List Char) : Prop := cs ≠ [] ∧ ∀ c ∈ cs, c.isDigit = true

/-- The characters are a numeral of the integer. -/
inductive Spells : List Char → Int → Prop where
  | unsigned {digits : List Char} (h : Digits digits) :
      Spells digits (Nat.ofDigitChars 10 digits 0)
  | plus {digits : List Char} (h : Digits digits) :
      Spells ('+' :: digits) (Nat.ofDigitChars 10 digits 0)
  | minus {digits : List Char} (h : Digits digits) :
      Spells ('-' :: digits) (-(Nat.ofDigitChars 10 digits 0 : Int))

/-- More digits only make the magnitude larger. -/
theorem le_ofDigitChars (cs : List Char) (magnitude : Nat) :
    magnitude ≤ Nat.ofDigitChars 10 cs magnitude := by
  induction cs generalizing magnitude with
  | nil => simp
  | cons c cs ih =>
    rw [Nat.ofDigitChars_cons]
    have hrest := ih (10 * magnitude + (c.toNat - '0'.toNat))
    omega

section Range

variable {lo hi : Int} (hlo : lo ≤ 0) (hhi : 0 ≤ hi)

include hlo hhi

/-- A magnitude within one in range is in range. -/
theorem signed_in_range {negative : Bool} {m m' : Nat} (hle : m ≤ m')
    (h : lo ≤ signed negative m' ∧ signed negative m' ≤ hi) :
    lo ≤ signed negative m ∧ signed negative m ≤ hi := by
  cases negative with
  | true =>
    simp only [signed, if_true] at h ⊢
    omega
  | false =>
    simp only [signed, Bool.false_eq_true, if_false] at h ⊢
    omega

/-- **Giving up early is exact**: what is accumulated is the value of all the digits, if they are
    digits and the value is in range. -/
theorem accumulate_eq_some_iff {negative : Bool} {magnitude : Nat} {cs : List Char} {n : Int}
    (hin : lo ≤ signed negative magnitude ∧ signed negative magnitude ≤ hi) :
    accumulate lo hi negative magnitude cs = some n ↔
      (∀ c ∈ cs, c.isDigit = true) ∧
        n = signed negative (Nat.ofDigitChars 10 cs magnitude) ∧ lo ≤ n ∧ n ≤ hi := by
  induction cs generalizing magnitude with
  | nil =>
    simp only [accumulate, Option.some.injEq, Nat.ofDigitChars_nil]
    constructor
    · rintro rfl
      exact ⟨by simp, rfl, hin⟩
    · rintro ⟨-, rfl, -⟩
      rfl
  | cons c cs ih =>
    cases hdigit : c.isDigit with
    | false => simp [accumulate, hdigit]
    | true =>
      rw [Nat.ofDigitChars_cons]
      by_cases hnext : lo ≤ signed negative (10 * magnitude + (c.toNat - '0'.toNat)) ∧
          signed negative (10 * magnitude + (c.toNat - '0'.toNat)) ≤ hi
      · simp only [accumulate, hdigit, if_true, hnext, and_self]
        rw [ih hnext]
        simp [hdigit]
      · simp only [accumulate, hdigit, if_true, hnext, if_false, reduceCtorEq, false_iff]
        rintro ⟨-, rfl, hrange⟩
        exact hnext (signed_in_range hlo hhi (le_ofDigitChars cs _) hrange)

/-- What is accumulated from nothing. -/
theorem accumulate_zero_eq_some_iff {negative : Bool} {c : Char} {cs : List Char} {n : Int} :
    accumulate lo hi negative 0 (c :: cs) = some n ↔
      Digits (c :: cs) ∧ n = signed negative (Nat.ofDigitChars 10 (c :: cs) 0) ∧ lo ≤ n ∧ n ≤ hi := by
  have hzero : lo ≤ signed negative 0 ∧ signed negative 0 ≤ hi := by
    cases negative with
    | true => exact ⟨hlo, hhi⟩
    | false => exact ⟨hlo, hhi⟩
  rw [accumulate_eq_some_iff hlo hhi hzero]
  simp [Digits]

omit hlo hhi in
/-- Neither sign is a digit. -/
theorem read_of_isDigit {c : Char} (hdigit : c.isDigit = true) (cs : List Char) :
    read lo hi (c :: cs) = accumulate lo hi false 0 (c :: cs) := by
  unfold read
  split
  · rename_i hcons
    cases hcons
  · rename_i hcons
    obtain ⟨rfl, -⟩ := List.cons.inj hcons
    cases hdigit
  · rename_i hcons
    obtain ⟨rfl, -⟩ := List.cons.inj hcons
    cases hdigit
  · rename_i hcons
    rw [hcons]

/-- **What is read is what is spelled, if it is in range.** -/
theorem read_eq_some_iff {cs : List Char} {n : Int} :
    read lo hi cs = some n ↔ Spells cs n ∧ lo ≤ n ∧ n ≤ hi := by
  constructor
  · intro h
    unfold read at h
    split at h
    · cases h
    · obtain ⟨hdigits, rfl, hrange⟩ := (accumulate_zero_eq_some_iff hlo hhi).mp h
      exact ⟨.minus hdigits, hrange⟩
    · obtain ⟨hdigits, rfl, hrange⟩ := (accumulate_zero_eq_some_iff hlo hhi).mp h
      exact ⟨.plus hdigits, hrange⟩
    · obtain ⟨hdigits, rfl, hrange⟩ := (accumulate_zero_eq_some_iff hlo hhi).mp h
      exact ⟨.unsigned hdigits, hrange⟩
  · rintro ⟨hspells, hrange⟩
    cases hspells with
    | unsigned hdigits =>
      cases cs with
      | nil => exact absurd rfl hdigits.1
      | cons c cs =>
        rw [read_of_isDigit (hdigits.2 c List.mem_cons_self)]
        exact (accumulate_zero_eq_some_iff hlo hhi).mpr ⟨hdigits, rfl, hrange⟩
    | @plus digits hdigits =>
      cases digits with
      | nil => exact absurd rfl hdigits.1
      | cons c cs => exact (accumulate_zero_eq_some_iff hlo hhi).mpr ⟨hdigits, rfl, hrange⟩
    | @minus digits hdigits =>
      cases digits with
      | nil => exact absurd rfl hdigits.1
      | cons c cs => exact (accumulate_zero_eq_some_iff hlo hhi).mpr ⟨hdigits, rfl, hrange⟩

end Range

/-! ## The usual numeral -/

theorem digits_toDigits (n : Nat) : Digits (Nat.toDigits 10 n) :=
  ⟨Nat.toDigits_ne_nil, fun _ hmem => Nat.isDigit_of_mem_toDigits (by decide) (by decide) hmem⟩

/-- Printing an integer spells it. -/
theorem spells_toString (n : Int) : Spells (toString n).toList n := by
  cases n with
  | ofNat m =>
    have htext : (toString (Int.ofNat m)).toList = Nat.toDigits 10 m := Nat.toList_repr
    rw [htext]
    have hspells := Spells.unsigned (digits_toDigits m)
    rw [Nat.ofDigitChars_ten_toDigits] at hspells
    exact hspells
  | negSucc m =>
    have htext : (toString (Int.negSucc m)).toList = '-' :: Nat.toDigits 10 (m + 1) := by
      show ("-" ++ Nat.repr (m + 1)).toList = _
      rw [String.toList_append, Nat.toList_repr]
      rfl
    rw [htext]
    have hspells := Spells.minus (digits_toDigits (m + 1))
    rw [Nat.ofDigitChars_ten_toDigits] at hspells
    exact hspells

end Decimal

import Mathlib.Data.List.Basic

/-!
# Cutting UTF-8

A buffer of bytes is cut after a number of bytes, and what is left is read as UTF-8. Whether
that succeeds is decided at one place: the byte behind the cut must begin a character. If it
does, what is read is the longest run of whole characters that fits; if it does not, nothing
is, however much of the text was whole.
-/

set_option autoImplicit false

namespace Utf8

/-- The UTF-8 bytes of a string. -/
def encode (s : String) : List UInt8 := s.toByteArray.data.toList

/-- The string these bytes encode, if they are UTF-8. -/
def decode? (bytes : List UInt8) : Option String := String.fromUTF8? ⟨bytes.toArray⟩

theorem length_encode (s : String) : (encode s).length = s.utf8ByteSize :=
  String.size_toByteArray

theorem encode_append (s t : String) : encode (s ++ t) = encode s ++ encode t := by
  unfold encode
  rw [String.toByteArray_append, ByteArray.data_append, Array.toList_append]

theorem encode_injective {s t : String} (h : encode s = encode t) : s = t := by
  apply String.toByteArray_inj.mp
  apply ByteArray.ext
  exact Array.toList_inj.mp h

/-- Decoding inverts encoding, and accepts nothing else. -/
theorem decode?_eq_some_iff {bytes : List UInt8} {s : String} :
    decode? bytes = some s ↔ bytes = encode s := by
  unfold decode? String.fromUTF8?
  constructor
  · intro h
    split at h
    · cases h
      rfl
    · cases h
  · intro h
    subst h
    exact dif_pos s.isValidUTF8

/-! ## Prefixes -/

/-- `p` is the longest prefix of `s` of whole characters that takes at most `limit` bytes. -/
structure LongestFitting (limit : Nat) (s p : String) : Prop where
  isPrefix : p.toList <+: s.toList
  fits : p.utf8ByteSize ≤ limit
  longest : ∀ q : String, q.toList <+: s.toList → q.utf8ByteSize ≤ limit → q.toList <+: p.toList

theorem exists_append_of_isPrefix {p s : String} (h : p.toList <+: s.toList) :
    ∃ t : String, s = p ++ t := by
  obtain ⟨t, ht⟩ := h
  refine ⟨String.ofList t, String.toList_inj.mp ?_⟩
  rw [String.toList_append, String.toList_ofList]
  exact ht.symm

theorem prefix_append (p t : String) : p.toList <+: (p ++ t).toList := by
  rw [String.toList_append]
  exact List.prefix_append _ _

/-- Of two prefixes of one string the one with fewer bytes is a prefix of the other. -/
theorem prefix_of_utf8ByteSize_le {p q s : String} (hp : p.toList <+: s.toList)
    (hq : q.toList <+: s.toList) (hle : q.utf8ByteSize ≤ p.utf8ByteSize) :
    q.toList <+: p.toList := by
  rcases List.prefix_or_prefix_of_prefix hq hp with h | h
  · exact h
  · obtain ⟨t, rfl⟩ := exists_append_of_isPrefix h
    rw [String.utf8ByteSize_append] at hle
    have hnone : t.utf8ByteSize = 0 := by omega
    obtain rfl := String.utf8ByteSize_eq_zero_iff.mp hnone
    simp

namespace LongestFitting

variable {limit : Nat} {s p q : String}

theorem unique (hp : LongestFitting limit s p) (hq : LongestFitting limit s q) : p = q := by
  have hle := hq.longest p hp.isPrefix hp.fits
  have hge := hp.longest q hq.isPrefix hq.fits
  exact String.toList_inj.mp (hle.eq_of_length_le hge.length_le)

/-- A string that fits is not cut. -/
theorem self (h : s.utf8ByteSize ≤ limit) : LongestFitting limit s s where
  isPrefix := List.prefix_rfl
  fits := h
  longest _ hq _ := hq

/-- A prefix that takes exactly the bytes there are is the longest. -/
theorem of_append (p t : String) : LongestFitting p.utf8ByteSize (p ++ t) p where
  isPrefix := prefix_append p t
  fits := Nat.le_refl _
  longest _ hq hfits := prefix_of_utf8ByteSize_le (prefix_append p t) hq hfits

/-- Four bytes are room for the first character, whichever it is. -/
theorem ne_empty (h : LongestFitting limit s p) (hlimit : 4 ≤ limit) (hs : s ≠ "") : p ≠ "" := by
  intro hp
  subst hp
  cases hchars : s.toList with
  | nil => exact hs (String.toList_inj.mp hchars)
  | cons c cs =>
    have hfirst : (String.singleton c).toList <+: s.toList := by
      rw [hchars, String.toList_singleton]
      exact ⟨cs, rfl⟩
    have hsize : (String.singleton c).utf8ByteSize ≤ limit := by
      rw [String.utf8ByteSize_singleton]
      exact Nat.le_trans c.utf8Size_le_four hlimit
    -- The first character would be a prefix of the empty string.
    have hnil := h.longest _ hfirst hsize
    rw [String.toList_singleton] at hnil
    exact absurd hnil.length_le (by simp)

end LongestFitting

/-! ## Cuts -/

/-- The cut after `n` bytes of `s` falls between two characters, or behind the last one. -/
def Between (s : String) (n : Nat) : Prop :=
  ∀ b, (encode s)[n]? = some b → b.IsUTF8FirstByte

theorem between_of_le {s : String} {n : Nat} (h : s.utf8ByteSize ≤ n) : Between s n := by
  intro b hb
  rw [List.getElem?_eq_none (by rw [length_encode]; exact h)] at hb
  cases hb

theorem isValid_iff_between {s : String} {n : Nat} (hn : n ≤ s.utf8ByteSize) :
    (String.Pos.Raw.mk n).IsValid s ↔ Between s n := by
  rw [String.Pos.Raw.isValid_iff_isUTF8FirstByte]
  constructor
  · intro h
    rcases h with hend | ⟨hlt, hfirst⟩
    · exact between_of_le (Nat.le_of_eq (congrArg String.Pos.Raw.byteIdx hend).symm)
    · intro b hb
      obtain ⟨hn, rfl⟩ := List.getElem?_eq_some_iff.mp hb
      exact hfirst
  · intro h
    rcases Nat.lt_or_eq_of_le hn with hlt | rfl
    · refine Or.inr ⟨hlt, h _ ?_⟩
      exact List.getElem?_eq_getElem (by rw [length_encode]; exact hlt)
    · exact Or.inl rfl

/-- A cut between two characters takes the string apart there. -/
theorem between_iff_exists_append {s : String} {n : Nat} (hn : n ≤ s.utf8ByteSize) :
    Between s n ↔ ∃ p t : String, s = p ++ t ∧ p.utf8ByteSize = n := by
  rw [← isValid_iff_between hn, String.Pos.Raw.isValid_iff_exists_append]
  constructor
  · intro h
    obtain ⟨p, t, rfl, hp⟩ := h
    exact ⟨p, t, rfl, (congrArg String.Pos.Raw.byteIdx hp).symm⟩
  · intro h
    obtain ⟨p, t, rfl, rfl⟩ := h
    exact ⟨p, t, rfl, rfl⟩

theorem take_encode_append (p t : String) :
    (encode (p ++ t)).take p.utf8ByteSize = encode p := by
  rw [encode_append, ← length_encode, List.take_left]

/-- Bytes that are left by a cut and are UTF-8 were cut between two characters. -/
theorem between_of_take {s p : String} {n : Nat} (hn : n ≤ s.utf8ByteSize)
    (h : (encode s).take n = encode p) : Between s n := by
  have hextract : s.toByteArray.extract 0 n = p.toByteArray := by
    apply ByteArray.ext
    rw [ByteArray.data_extract]
    apply Array.toList_inj.mp
    rw [Array.toList_extract, List.extract_eq_take_drop]
    exact h
  rw [← isValid_iff_between hn, String.Pos.Raw.isValid_iff_isValidUTF8_extract_zero]
  refine ⟨String.Pos.Raw.le_iff.mpr hn, ?_⟩
  show (s.toByteArray.extract 0 n).IsValidUTF8
  rw [hextract]
  exact p.isValidUTF8

/-- **Reading what a cut leaves**: it succeeds if and only if the cut falls between two
    characters, and then gives the longest prefix that fits. -/
theorem decode?_take_eq_some_iff {s p : String} {n : Nat} :
    decode? ((encode s).take n) = some p ↔ Between s n ∧ LongestFitting n s p := by
  rw [decode?_eq_some_iff]
  rcases Nat.le_total s.utf8ByteSize n with hall | hn
  · -- Nothing is cut off.
    rw [List.take_of_length_le (by rw [length_encode]; exact hall)]
    constructor
    · intro h
      cases encode_injective h
      exact ⟨between_of_le hall, .self hall⟩
    · intro h
      rw [h.2.unique (.self hall)]
  · constructor
    · intro h
      have hbetween := between_of_take hn h
      -- The cut takes `s` apart into `p'` and `t`, so what is left can only be read as `p'`.
      obtain ⟨p', t, rfl, rfl⟩ := (between_iff_exists_append hn).mp hbetween
      rw [take_encode_append] at h
      cases encode_injective h
      exact ⟨hbetween, .of_append _ t⟩
    · intro h
      obtain ⟨p', t, rfl, rfl⟩ := (between_iff_exists_append hn).mp h.1
      rw [take_encode_append, h.2.unique (.of_append p' t)]

/-- Something is read exactly when the cut falls between two characters. -/
theorem exists_decode?_take_iff {s : String} {n : Nat} :
    (∃ p, decode? ((encode s).take n) = some p) ↔ Between s n := by
  constructor
  · intro h
    obtain ⟨p, hp⟩ := h
    exact (decode?_take_eq_some_iff.mp hp).1
  · intro h
    rcases Nat.le_total s.utf8ByteSize n with hall | hn
    · exact ⟨s, decode?_take_eq_some_iff.mpr ⟨h, .self hall⟩⟩
    · obtain ⟨p, t, rfl, rfl⟩ := (between_iff_exists_append hn).mp h
      exact ⟨p, decode?_take_eq_some_iff.mpr ⟨h, .of_append p t⟩⟩

end Utf8

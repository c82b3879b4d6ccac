import Mathlib.Data.List.Forall2
import XMLPush.Lib.Dictionary
import XMLPush.Source.PushSAXParser

/-!
# The dictionary of a start tag's attributes

libxml2 hands over pointers; the delegates get a dictionary. This file says that nothing is
lost on the way, for every attribute list as libxml2 lays it out.

`LaidOut` is the layout of one attribute, in the memory its pointers point into: names with
their NUL, the value between two pointers. Decoding inverts it (`LaidOut.ofRaw`). The keys
are the names as the document spells them, and two of them are equal only if prefix and
local name are, as long as neither holds a colon (`key_injective`): the colon of a prefixed
key is the only one in it. So the fold that fills the dictionary overwrites nothing.
-/

set_option autoImplicit false

namespace XMLPush

open Canonical
open Dictionary

/-! ## The layout -/

/-- A string at a pointer, with its NUL. -/
def CStringAt (memory : Memory) (p : Pointer) (s : String) : Prop :=
  0 ∉ utf8Bytes s ∧ ∃ rest, memory.drop p = utf8Bytes s ++ 0 :: rest

/-- A pointer that is nil with no string to point at. -/
def OptionalAt (memory : Memory) : Option Pointer → Option String → Prop
  | none, none => True
  | some p, some s => CStringAt memory p s
  | _, _ => False

/-- One attribute, as libxml2 lays it out. -/
structure LaidOut (memory : Memory) (raw : LibXMLRawAttribute) (attr : LibXMLAttribute) :
    Prop where
  localName : ∃ p, raw.localName = some p ∧ CStringAt memory p attr.localName
  nsPrefix : OptionalAt memory raw.nsPrefix attr.nsPrefix
  URI : OptionalAt memory raw.uri attr.URI
  value : ∃ first last, raw.valueStart = some first ∧ raw.valueEnd = some last ∧ first ≤ last ∧
    memory.bytes first (last - first) = utf8Bytes attr.value

/-- The five pointers of an attribute. -/
def LibXMLRawAttribute.pointers (raw : LibXMLRawAttribute) : List (Option Pointer) :=
  [raw.localName, raw.nsPrefix, raw.uri, raw.valueStart, raw.valueEnd]

/-- A whole attribute list: the strides one after the other, and whatever follows them. -/
def LaidOutAll (memory : Memory) (pointers : List (Option Pointer))
    (attributes : List LibXMLAttribute) : Prop :=
  ∃ raws rest, pointers = raws.flatMap LibXMLRawAttribute.pointers ++ rest ∧
    List.Forall₂ (LaidOut memory) raws attributes

theorem getBufferPointerWithStart_pointers (raws : List LibXMLRawAttribute)
    (rest : List (Option Pointer)) :
    LibXMLRawAttribute.getBufferPointerWithStart
      (raws.flatMap LibXMLRawAttribute.pointers ++ rest) raws.length = raws := by
  induction raws with
  | nil =>
    unfold LibXMLRawAttribute.getBufferPointerWithStart
    split
    · rename_i hlength
      cases hlength
    · rfl
  | cons raw raws ih =>
    have hstep : LibXMLRawAttribute.getBufferPointerWithStart
        ((raw :: raws).flatMap LibXMLRawAttribute.pointers ++ rest) (raw :: raws).length =
        raw :: LibXMLRawAttribute.getBufferPointerWithStart
          (raws.flatMap LibXMLRawAttribute.pointers ++ rest) raws.length := rfl
    rw [hstep, ih]

/-! ## Decoding inverts it -/

theorem CStringAt.cString {memory : Memory} {p : Pointer} {s : String}
    (h : CStringAt memory p s) : memory.cString p = s := by
  obtain ⟨hzero, rest, hrest⟩ := h
  apply cString_utf8Bytes
  rw [hrest, List.takeWhile_append_of_pos]
  · simp
  · intro byte hmem
    have hne : byte ≠ 0 := fun heq => hzero (heq ▸ hmem)
    simp [hne]

theorem OptionalAt.getString {memory : Memory} {p : Option Pointer} {s : Option String}
    (h : OptionalAt memory p s) : getString memory p = s := by
  cases p with
  | none =>
    cases s with
    | none => rfl
    | some s => exact absurd h (by simp [OptionalAt])
  | some p =>
    cases s with
    | none => exact absurd h (by simp [OptionalAt])
    | some s => exact congrArg some (CStringAt.cString h)

/-- The key of an attribute: its name as the document spells it. -/
def LibXMLAttribute.key (attr : LibXMLAttribute) : String :=
  match attr.nsPrefix with
  | some nsPrefix => nsPrefix ++ ":" ++ attr.localName
  | none => attr.localName

namespace LaidOut

variable {memory : Memory} {raw : LibXMLRawAttribute} {attr : LibXMLAttribute}

theorem localNameString (h : LaidOut memory raw attr) :
    raw.localNameString memory = attr.localName := by
  obtain ⟨p, hp, hstring⟩ := h.localName
  unfold LibXMLRawAttribute.localNameString
  rw [hp]
  exact hstring.cString

theorem prefixString (h : LaidOut memory raw attr) :
    raw.prefixString memory = attr.nsPrefix := h.nsPrefix.getString

theorem attributeValue (h : LaidOut memory raw attr) :
    raw.attributeValue memory = attr.value := by
  obtain ⟨first, last, hfirst, hlast, -, hbytes⟩ := h.value
  have hlength : raw.valueLength = last - first := by
    unfold LibXMLRawAttribute.valueLength
    rw [hfirst, hlast]
  unfold LibXMLRawAttribute.attributeValue
  rw [hfirst, hlength]
  show (utf8String (memory.bytes first (last - first))).getD "" = attr.value
  rw [hbytes, utf8String_utf8Bytes]
  rfl

theorem ofRaw (h : LaidOut memory raw attr) :
    LibXMLAttribute.ofRaw memory raw = attr := by
  unfold LibXMLAttribute.ofRaw
  rw [h.localNameString, h.prefixString, h.attributeValue,
    show raw.URIString memory = attr.URI from h.URI.getString]

theorem key (h : LaidOut memory raw attr) : raw.key memory = attr.key := by
  cases hns : attr.nsPrefix with
  | none =>
    simp only [LibXMLRawAttribute.key, LibXMLAttribute.key, h.prefixString, h.localNameString, hns]
  | some p =>
    simp only [LibXMLRawAttribute.key, LibXMLAttribute.key, h.prefixString, h.localNameString, hns]

end LaidOut

/-- The attributes under their keys. -/
def keyed (attributes : List LibXMLAttribute) : List (StringKey × LibXMLAttribute) :=
  attributes.map fun attr => (.of attr.key, attr)

/-- The callback's dictionary is the attributes filled in by their keys. -/
theorem elementAttributes_eq_fill {memory : Memory} {raws : List LibXMLRawAttribute}
    {attributes : List LibXMLAttribute} (h : List.Forall₂ (LaidOut memory) raws attributes) :
    elementAttributes memory raws = fill ∅ (keyed attributes) := by
  unfold elementAttributes
  generalize (∅ : Attributes) = dictionary
  induction h generalizing dictionary with
  | nil => rfl
  | cons hhead _ ih =>
    rw [List.foldl_cons, hhead.key, hhead.ofRaw]
    exact ih _

/-! ## Keys -/

/-- Neither part of the attribute's name holds a colon. -/
def Uncoloned (attr : LibXMLAttribute) : Prop :=
  ':' ∉ attr.localName.toList ∧ ∀ p, attr.nsPrefix = some p → ':' ∉ p.toList

/-- The attribute's name, as `==` sees its two parts. -/
def LibXMLAttribute.name (attr : LibXMLAttribute) : Option StringKey × StringKey :=
  (attr.nsPrefix.map .of, .of attr.localName)

/-- A key with a colon is not equal to a name without one. -/
theorem key_ne_localName {s p l : String} (hs : ':' ∉ s.toList) :
    StringKey.of (p ++ ":" ++ l) ≠ StringKey.of s := by
  intro hkey
  have hmem := CharacterData.Equivalent.mem_iff inert_colon (Quotient.exact hkey)
  exact hs (hmem.mp (by simp))

/-- **Equal keys are equal names**, whatever the spelling. A prefixed key has one colon and an
    unprefixed one none, and no spelling of either has another. -/
theorem key_injective {a b : LibXMLAttribute} (ha : Uncoloned a) (hb : Uncoloned b)
    (hkey : StringKey.of a.key = StringKey.of b.key) : a.name = b.name := by
  obtain ⟨haName, haPrefix⟩ := ha
  obtain ⟨hbName, hbPrefix⟩ := hb
  unfold LibXMLAttribute.key at hkey
  unfold LibXMLAttribute.name
  cases hpa : a.nsPrefix with
  | none =>
    cases hpb : b.nsPrefix with
    | none =>
      rw [hpa, hpb] at hkey
      exact Prod.ext rfl hkey
    | some q =>
      rw [hpa, hpb] at hkey
      exact absurd hkey.symm (key_ne_localName haName)
  | some p =>
    cases hpb : b.nsPrefix with
    | none =>
      rw [hpa, hpb] at hkey
      exact absurd hkey (key_ne_localName hbName)
    | some q =>
      rw [hpa, hpb] at hkey
      obtain ⟨hns, hname⟩ := (CharacterData.equivalent_append_inert_iff inert_colon
        (haPrefix p hpa) haName).mp (Quotient.exact hkey)
      exact Prod.ext (congrArg some (Quotient.sound hns)) (Quotient.sound hname)

theorem keyed_nodup {attributes : List LibXMLAttribute}
    (huncoloned : ∀ attr ∈ attributes, Uncoloned attr)
    (hdistinct : (attributes.map LibXMLAttribute.name).Nodup) :
    ((keyed attributes).map Prod.fst).Nodup := by
  have hkeys : (keyed attributes).map Prod.fst =
      attributes.map fun attr => StringKey.of attr.key := by
    simp [keyed, Function.comp_def]
  rw [hkeys]
  apply List.Nodup.map_on
  · intro a ha b hb hkey
    exact List.inj_on_of_nodup_map hdistinct ha hb
      (key_injective (huncoloned a ha) (huncoloned b hb) hkey)
  · exact hdistinct.of_map _

/-- **The dictionary of a start tag holds exactly its attributes.** For every attribute list,
    laid out as libxml2 does, whose names are distinct and hold no colon, the callback passes
    on a dictionary in which the key of each attribute finds that attribute, decoded, no
    other key finds anything, and there are as many entries as attributes. -/
theorem startElement_dictionary {Ctx σ : Type} (handle : σ → Event → Except Trap σ)
    (s : LibXMLPushSAXParser Ctx σ) (memory : Memory) (localname : Pointer)
    (nsPrefix uri : Option Pointer) (pointers : List (Option Pointer))
    (attributes : List LibXMLAttribute) (hlaid : LaidOutAll memory pointers attributes)
    (huncoloned : ∀ attr ∈ attributes, Uncoloned attr)
    (hdistinct : (attributes.map LibXMLAttribute.name).Nodup) :
    ∃ dictionary : Attributes,
      XMLPushSAXParserStartElementSAX handle memory (some localname) nsPrefix uri
          attributes.length pointers s =
        s.elementEvent handle (.opening
          { nsPrefix := getString memory nsPrefix
            URI := getString memory uri
            localName := memory.cString localname } dictionary) ∧
      (∀ key attr, dictionary.lookup (.of key) = some attr ↔
        attr ∈ attributes ∧ stringEqual attr.key key = true) ∧
      dictionary.keys.length = attributes.length := by
  obtain ⟨raws, rest, rfl, hraws⟩ := hlaid
  have hnodup := keyed_nodup huncoloned hdistinct
  have hbuffer : LibXMLRawAttribute.getBufferPointerWithStart
      (raws.flatMap LibXMLRawAttribute.pointers ++ rest) attributes.length = raws := by
    rw [← hraws.length_eq]
    exact getBufferPointerWithStart_pointers raws rest
  have hfill : elementAttributes memory raws = fill ∅ (keyed attributes) :=
    elementAttributes_eq_fill hraws
  refine ⟨fill ∅ (keyed attributes), ?_, ?_, ?_⟩
  · show s.elementEvent handle (.opening _ (elementAttributes memory
      (LibXMLRawAttribute.getBufferPointerWithStart _ _))) = _
    rw [hbuffer, hfill]
  · intro key attr
    rw [lookup_fill hnodup, ← StringKey.of_eq_of_iff]
    constructor
    · intro hmem
      obtain ⟨a, ha, heq⟩ := List.mem_map.mp hmem
      obtain ⟨hkey, rfl⟩ := Prod.mk.inj heq
      exact ⟨ha, hkey⟩
    · intro h
      rw [← h.2]
      exact List.mem_map_of_mem h.1
  · rw [keys_fill_length hnodup]
    · simp [keyed]
    · intro key _
      exact AList.notMem_empty key

/-- `a="v"` and `p:a="w"`, with `p` bound to `u`. -/
def namesakes : List LibXMLAttribute :=
  [{ localName := "a", value := "v" },
    { localName := "a", nsPrefix := some "p", URI := some "u", value := "w" }]

/-- `a`, `p` and `u` with their NUL, and the values in one buffer after them. -/
def namesakeMemory : Memory := [97, 0, 112, 0, 117, 0, 118, 34, 119]

def namesakePointers : List (Option Pointer) :=
  [some 0, none, none, some 6, some 7, some 0, some 2, some 4, some 8, some 9]

theorem namesakes_laidOut : LaidOutAll namesakeMemory namesakePointers namesakes := by
  refine ⟨[⟨some 0, none, none, some 6, some 7⟩, ⟨some 0, some 2, some 4, some 8, some 9⟩], [],
    rfl, ?_⟩
  refine .cons ⟨⟨0, rfl, by decide, _, rfl⟩, trivial, trivial, 6, 7, rfl, rfl, by decide, rfl⟩ ?_
  refine .cons ⟨⟨0, rfl, by decide, _, rfl⟩, ⟨by decide, _, rfl⟩, ⟨by decide, _, rfl⟩,
    8, 9, rfl, rfl, by decide, rfl⟩ .nil

/-- A subclass that keeps the events it gets. -/
def keeping (events : List Event) (event : Event) : Except Trap (List Event) :=
  .ok (events ++ [event])

/-- A parser with that subclass. -/
def keeper : LibXMLPushSAXParser Unit (List Event) :=
  .init { xmlCreatePushParserCtxt := some (), xmlParseChunk := fun _ _ _ => ([], ()) } []

/-- Two attributes with one local name keep apart. -/
theorem namesakes_dictionary : ∃ dictionary : Attributes,
    XMLPushSAXParserStartElementSAX keeping namesakeMemory (some 0) none none 2 namesakePointers
        keeper =
      keeper.elementEvent keeping (.opening { localName := "a" } dictionary) ∧
    dictionary.lookup (.of "a") = some { localName := "a", value := "v" } ∧
    dictionary.lookup (.of "p:a") =
      some { localName := "a", nsPrefix := some "p", URI := some "u", value := "w" } ∧
    dictionary.keys.length = 2 := by
  obtain ⟨dictionary, hcallback, hlookup, hlength⟩ := startElement_dictionary keeping keeper
    namesakeMemory 0 none none namesakePointers namesakes namesakes_laidOut
    (by simp [namesakes, Uncoloned]) (by decide +kernel)
  refine ⟨dictionary, hcallback, ?_, ?_, hlength⟩
  · exact (hlookup _ _).mpr ⟨by decide, by decide +kernel⟩
  · exact (hlookup _ _).mpr ⟨by decide, by decide +kernel⟩

/-! ## Whatever the pointers point at -/

/-- An attribute that was read keeps its key. -/
theorem LibXMLAttribute.key_ofRaw (memory : Memory) (raw : LibXMLRawAttribute) :
    (LibXMLAttribute.ofRaw memory raw).key = raw.key memory := by
  unfold key LibXMLRawAttribute.key ofRaw
  cases raw.prefixString memory with
  | none => rfl
  | some nsPrefix => rfl

/-- The callback's dictionary is what was read filled in, whatever was read. -/
theorem elementAttributes_eq_fill_read (memory : Memory) (raws : List LibXMLRawAttribute) :
    elementAttributes memory raws =
      fill ∅ (raws.map fun raw => (.of (raw.key memory), LibXMLAttribute.ofRaw memory raw)) := by
  unfold elementAttributes fill
  rw [List.foldl_map]

/-- **Under each key stands what was read of the last attribute with an equal key**, whatever the
    pointers point at: namesakes overwrite one another, however they are spelled, nothing else is
    in the dictionary, and no attribute stands under a key that is not equal to its own. -/
theorem dictionary_last (memory : Memory) (pointers : List (Option Pointer)) (count : Nat)
    (key : String) :
    let raws := LibXMLRawAttribute.getBufferPointerWithStart pointers count
    (elementAttributes memory raws).lookup (.of key) =
        (raws.reverse.find? fun raw => stringEqual (raw.key memory) key).map
          (LibXMLAttribute.ofRaw memory) ∧
      ∀ attr, (elementAttributes memory raws).lookup (.of key) = some attr →
        stringEqual attr.key key = true := by
  intro raws
  have hlookup : (elementAttributes memory raws).lookup (.of key) =
      (raws.reverse.find? fun raw => stringEqual (raw.key memory) key).map
        (LibXMLAttribute.ofRaw memory) := by
    rw [elementAttributes_eq_fill_read, lookup_fill_last, AList.lookup_empty, Option.or_none,
      ← List.map_reverse, List.find?_map, Option.map_map]
    simp only [Function.comp_def, StringKey.decide_of_eq_of]
  refine ⟨hlookup, ?_⟩
  intro attr hattr
  rw [hlookup] at hattr
  obtain ⟨raw, hfound, rfl⟩ := Option.map_eq_some_iff.mp hattr
  have hkey := List.find?_some hfound
  rw [LibXMLAttribute.key_ofRaw]
  exact hkey

end XMLPush

import XMLPush.Proof.TrapFreeDocuments
import XMLPush.Proof.Decoding

/-!
# Writing a document and reading it back

A `Record` is what one wants to say to a parser of a class: data under keys and records for
its children under keys, in some order. With a name for every key (`Schema.Naming`) a record
is written as a document, and `record_read_back` reads it back: the document never traps, and
the objects the run leaves hold the record again, under each key, in order, at every depth.

The meaning of the document (`dataIn`, `childrenIn`) is the bridge. Writing and then taking
the meaning gives back the entries of the record, by induction on the record, and what the
objects represent was said in `run_represents`.
-/

set_option autoImplicit false

namespace XMLPush

open Nesting
open Machine
open Dictionary
open XMLSAXElementParser

variable {S : Schema}

/-- A name for every key of a family of element types, from which the key is made again. -/
structure Schema.Naming (S : Schema) where
  dataName : (c : S.Class) → S.DataElement c → ElementName
  childName : (c : S.Class) → S.ChildElement c → ElementName
  dataElement : ∀ c key, S.dataElement c (dataName c key) = some key
  /-- `startElement` asks `DataElement` first. -/
  notData : ∀ c key, S.dataElement c (childName c key) = none
  childElement : ∀ c key, S.childElement c (childName c key) = some key

/-- What a parser of class `c` is told: data, and records for its children. -/
inductive Record (S : Schema) : S.Class → Type where
  | nil {c : S.Class} : Record S c
  | datum {c : S.Class} (key : S.DataElement c) (element : XMLDataElement) (rest : Record S c) :
      Record S c
  | child {c : S.Class} (key : S.ChildElement c) (content : Record S (S.type c key))
      (rest : Record S c) : Record S c

namespace Record

/-- The document that says it. -/
def encode (N : S.Naming) : {c : S.Class} → Record S c → Content
  | _, .nil => .nil
  | c, .datum key element rest =>
    .node (N.dataName c key) element.attributes (.text (utf8Bytes element.value) .nil)
      (rest.encode N)
  | c, .child key content rest => .node (N.childName c key) ∅ (content.encode N) (rest.encode N)

/-- Its data, in order. -/
def data : {c : S.Class} → Record S c → List (S.DataElement c × XMLDataElement)
  | _, .nil => []
  | _, .datum key element rest => (key, element) :: rest.data
  | _, .child _ _ rest => rest.data

/-- The children under a key, in order. -/
def childrenAt : {c : S.Class} → Record S c → (key : S.ChildElement c) →
    List (Record S (S.type c key))
  | _, .nil, _ => []
  | _, .datum _ _ rest, key => rest.childrenAt key
  | _, .child key' content rest, key =>
    if h : key' = key then (h ▸ content) :: rest.childrenAt key else rest.childrenAt key

theorem childrenAt_child_self {c : S.Class} (key : S.ChildElement c)
    (content : Record S (S.type c key)) (rest : Record S c) :
    (Record.child key content rest).childrenAt key = content :: rest.childrenAt key := by
  simp [childrenAt]

theorem childrenAt_child_of_ne {c : S.Class} {key key' : S.ChildElement c} (hne : key' ≠ key)
    (content : Record S (S.type c key')) (rest : Record S c) :
    (Record.child key' content rest).childrenAt key = rest.childrenAt key := by
  simp [childrenAt, hne]

/-- What is written means what was said. -/
theorem dataIn_encode (N : S.Naming) {c : S.Class} (r : Record S c) :
    S.dataIn c (r.encode N) = r.data := by
  induction r with
  | nil => rfl
  | datum key element rest ih =>
    simp only [encode, Schema.dataIn, N.dataElement, ih, data, Forest.allText, List.append_nil,
      List.nil_append, ← stringFromData_eq_getD, stringFromData_utf8Bytes]
  | child key content rest _ ih =>
    simp only [encode, Schema.dataIn, N.notData, ih, data]

theorem childrenIn_datum (N : S.Naming) {c : S.Class} (key : S.DataElement c)
    (element : XMLDataElement) (rest : Record S c) :
    S.childrenIn c ((datum key element rest).encode N) = S.childrenIn c (rest.encode N) := by
  simp only [encode, Schema.childrenIn, N.dataElement, List.nil_append]

theorem childrenIn_child (N : S.Naming) {c : S.Class} (key : S.ChildElement c)
    (content : Record S (S.type c key)) (rest : Record S c) :
    S.childrenIn c ((child key content rest).encode N) =
      (key, content.encode N) :: S.childrenIn c (rest.encode N) := by
  simp only [encode, Schema.childrenIn, N.notData, N.childElement]

end Record

mutual

/-- The object at `p`, and what it leads to, hold the record: under each key the data that was
    said, and parsers that hold the children that were said, in order. -/
inductive Holds (objects : List (XMLSAXElementParser S)) :
    Reference → (c : S.Class) → Record S c → Prop where
  | object {p : Reference} {parser : XMLSAXElementParser S} {r : Record S parser.parserClass}
      (hparser : objects[p]? = some parser)
      (hdata : ∀ key, (parser.data.lookup key).getD [] = valuesAt key r.data)
      (hchildren : ∀ key, AllHold objects (S.type parser.parserClass key)
        ((parser.children.lookup key).getD []) (r.childrenAt key)) :
      Holds objects p parser.parserClass r

/-- The objects at these references hold these records, one for one. -/
inductive AllHold (objects : List (XMLSAXElementParser S)) :
    (c : S.Class) → List Reference → List (Record S c) → Prop where
  | nil {c : S.Class} : AllHold objects c [] []
  | cons {c : S.Class} {q : Reference} {r : Record S c} {qs : List Reference}
      {rs : List (Record S c)} (hhead : Holds objects q c r) (htail : AllHold objects c qs rs) :
      AllHold objects c (q :: qs) (r :: rs)

end

/-! ## What represents the document holds the record -/

section Holds

variable {objects : List (XMLSAXElementParser S)} (N : S.Naming)

/-- An object that represents the document holds the record, if its children do. -/
theorem Represents.holds {p : Reference} {c : S.Class} {content : Content}
    (h : Represents objects p c content) (r : Record S c) (hcontent : content = r.encode N)
    (hchildren : ∀ (q : Reference) (children : List (S.ChildElement c × Reference)),
      AllRepresent objects q c children (S.childrenIn c content) →
      ∀ key, AllHold objects (S.type c key) (valuesAt key children) (r.childrenAt key)) :
    Holds objects p c r := by
  cases h with
  | object hself hdata hfiled hall =>
    refine .object hself ?_ ?_
    · intro key
      rw [hdata.getD, hcontent, r.dataIn_encode]
    · intro key
      rw [hfiled.getD]
      exact hchildren _ _ hall key

/-- **References that represent the children hold them**, under each key and in order. The
    induction is on the record, so the content of a child is covered with the rest of it. -/
theorem AllRepresent.hold {c : S.Class} (r : Record S c) (p : Reference)
    (children : List (S.ChildElement c × Reference))
    (h : AllRepresent objects p c children (S.childrenIn c (r.encode N)))
    (key : S.ChildElement c) :
    AllHold objects (S.type c key) (valuesAt key children) (r.childrenAt key) := by
  induction r generalizing p with
  | nil =>
    cases h
    exact .nil
  | datum key' element rest ih =>
    rw [Record.childrenIn_datum] at h
    exact ih p children h key
  | child key' content rest ihc ihr =>
    rw [Record.childrenIn_child] at h
    cases h with
    | cons hlt hhead htail =>
      have hcontent := hhead.holds N content rfl fun q children hall key =>
        ihc q children hall key
      by_cases hkey : key' = key
      · subst hkey
        rw [valuesAt_cons_self, Record.childrenAt_child_self]
        exact .cons hcontent (ihr p _ htail key')
      · rw [valuesAt_cons_of_ne hkey, Record.childrenAt_child_of_ne hkey]
        exact ihr p _ htail key

/-- In a document that was written no data element holds another. -/
theorem dataApart_encode {c : S.Class} (r : Record S c) (p : Reference)
    (h : Host (List (XMLSAXElementParser S)) Reference) {parser : XMLSAXElementParser S}
    (hparser : h.world[p]? = some parser) (hclass : parser.parserClass = c) :
    dataApart (parsable S) p (r.encode N) h = true := by
  induction r generalizing p h parser with
  | nil => rfl
  | datum key element rest ih =>
    subst hclass
    have hoffered := host_startElement (startElement_of_data hparser (N.dataElement _ key))
      element.attributes
    obtain ⟨children, hnode⟩ := traverse_files
      (.node (N.dataName _ key) element.attributes (.text (utf8Bytes element.value) .nil) .nil)
      p h hparser
    simp only [Record.encode, dataApart, hoffered, takesData, Bool.not_false, Bool.true_and]
    exact ih p _ hnode.own rfl
  | child key content rest ihc ihr =>
    subst hclass
    have hoffered := host_startElement
      (startElement_of_child hparser (N.notData _ key) (N.childElement _ key)) ∅
    obtain ⟨children, hnode⟩ := traverse_files
      (.node (N.childName _ key) ∅ (content.encode N) .nil) p h hparser
    simp only [Record.encode, dataApart, hoffered, Bool.and_eq_true]
    constructor
    · have hmade : (h.world ++ [init (S.type parser.parserClass key)])[h.world.length]? =
          some (init (S.type parser.parserClass key)) := by simp
      exact ihc h.world.length _ hmade rfl
    · exact ihr p _ hnode.own rfl

end Holds

/-- **What was written is read back.** For every family of element types and every record, the
    document that says the record is parsed without a trap, and the root holds the record. -/
theorem record_read_back (S : Schema) (N : S.Naming) (c : S.Class) (r : Record S c) :
    ∃ s, run (XMLPushParser.handle (parsable S)) (.init 0 [init c]) (r.encode N).tokens = .ok s ∧
      Holds s.host.world 0 c r := by
  have hrun := (document_runs_iff (parsable S) 0 [init c] (r.encode N) _).mpr
    ⟨dataApart_encode N r 0 (.start [init c]) rfl rfl, rfl⟩
  refine ⟨_, hrun, ?_⟩
  exact (traverse_represents c (r.encode N)).holds N r rfl (AllRepresent.hold N r)

/-- The names of the catalogs. -/
def catalogNames : catalogs.Naming where
  dataName
    | .document, key => nomatch key
    | .catalog, _ => { localName := "owner" }
    | .book, .author => { localName := "author" }
    | .book, .title => { localName := "title" }
  childName
    | .document, _ => { localName := "catalog" }
    | .catalog, _ => { localName := "book" }
    | .book, key => nomatch key
  dataElement c key := by
    cases c with
    | document => cases key
    | catalog => rfl
    | book =>
      cases key with
      | author => rfl
      | title => rfl
  notData c key := by
    cases c with
    | document => rfl
    | catalog => rfl
    | book => cases key
  childElement c key := by
    cases c with
    | document => rfl
    | catalog => rfl
    | book => cases key

/-- A title of a book. -/
def titled (title : String) (rest : Record catalogs CatalogClass.book) :
    Record catalogs CatalogClass.book :=
  .datum (S := catalogs) (c := CatalogClass.book) BookElement.title { value := title, attributes := ∅ } rest

/-- A book of a catalog. -/
def shelved (book : Record catalogs CatalogClass.book)
    (rest : Record catalogs CatalogClass.catalog) : Record catalogs CatalogClass.catalog :=
  .child (S := catalogs) (c := CatalogClass.catalog) () book rest

/-- A catalog of two books, the second with two titles. -/
def twoBooks : Record catalogs CatalogClass.document :=
  .child (S := catalogs) (c := CatalogClass.document) ()
    (shelved (titled "t" .nil) (shelved (titled "u" (titled "v" .nil)) .nil)) .nil

theorem twoBooks_read_back :
    ∃ s, run (XMLPushParser.handle (parsable catalogs)) (.init 0 [init .document])
        (twoBooks.encode catalogNames).tokens = .ok s ∧
      Holds s.host.world 0 .document twoBooks :=
  record_read_back catalogs catalogNames .document twoBooks

end XMLPush

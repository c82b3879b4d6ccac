import XMLPush.Proof.Documents
import XMLPush.Proof.Filing

/-!
# What a document decodes to

The parsers of a schema are a way to say what a document means: to a parser of a class,
its content is a list of data under keys and a list of child contents under keys, each of
those to be read by a parser of the class its key names. `Schema.dataIn` and
`Schema.childrenIn` are that meaning, two structural recursions with no parser in them.

What a run leaves is objects that refer to one another. `Represents` relates the two: the
object at a reference has filed the data of the content, and the references it has filed
lead to objects that represent the child contents, one for one and under the same keys.
References only lead to later objects, so this is a tree, and what happens to the earlier
objects does not matter to it (`Represents.transport`).

`run_represents` is the theorem. The induction is on the document, for the traversal the
parser performs; the object it is at takes in entries, the earlier ones are left alone, and
the later ones represent what was under the elements they were made for.
-/

set_option autoImplicit false

namespace XMLPush

open Nesting
open Machine
open Dictionary
open XMLSAXElementParser

variable {S : Schema}

/-! ## The meaning of a document -/

/-- The data of a content, to a parser of class `c`, in the order the elements end. -/
def Schema.dataIn (S : Schema) (c : S.Class) : Content → List (S.DataElement c × XMLDataElement)
  | .nil => []
  | .text _ rest => S.dataIn c rest
  | .node name attributes content rest =>
    match S.dataElement c name with
    | some key =>
      -- What stands in a data element goes to the same parser, and ends first.
      S.dataIn c content ++
        (key, { value := (Utf8.decode? content.allText).getD "", attributes := attributes }) ::
          S.dataIn c rest
    | none => S.dataIn c rest

/-- The contents of its child elements. -/
def Schema.childrenIn (S : Schema) (c : S.Class) : Content → List (S.ChildElement c × Content)
  | .nil => []
  | .text _ rest => S.childrenIn c rest
  | .node name _ content rest =>
    match S.dataElement c name with
    | some _ => S.childrenIn c content ++ S.childrenIn c rest
    | none =>
      match S.childElement c name with
      | some key => (key, content) :: S.childrenIn c rest
      | none => S.childrenIn c rest

/-! ## Objects that represent it -/

mutual

/-- The object at `p`, and what it leads to, represent the content. -/
inductive Represents (objects : List (XMLSAXElementParser S)) :
    Reference → S.Class → Content → Prop where
  | object {p : Reference} {self : XMLSAXElementParser S} {content : Content}
      {children : List (S.ChildElement self.parserClass × Reference)}
      (hself : objects[p]? = some self)
      (hdata : Filed self.data (S.dataIn self.parserClass content))
      (hchildren : Filed self.children children)
      (hall : AllRepresent objects p self.parserClass children
        (S.childrenIn self.parserClass content)) :
      Represents objects p self.parserClass content

/-- The objects at these references, all beyond `p`, represent these contents one for one. -/
inductive AllRepresent (objects : List (XMLSAXElementParser S)) :
    Reference → (c : S.Class) → List (S.ChildElement c × Reference) →
      List (S.ChildElement c × Content) → Prop where
  | nil {p : Reference} {c : S.Class} : AllRepresent objects p c [] []
  | cons {p : Reference} {c : S.Class} {key : S.ChildElement c} {r : Reference}
      {content : Content} {children : List (S.ChildElement c × Reference)}
      {contents : List (S.ChildElement c × Content)} (hlt : p < r)
      (hhead : Represents objects r (S.type c key) content)
      (htail : AllRepresent objects p c children contents) :
      AllRepresent objects p c ((key, r) :: children) ((key, content) :: contents)

end

mutual

/-- Nothing before the object matters. -/
theorem Represents.transport {objects objects' : List (XMLSAXElementParser S)} {p : Reference}
    {c : S.Class} {content : Content} : Represents objects p c content →
    (∀ (q : Reference) (self : XMLSAXElementParser S), p ≤ q → objects[q]? = some self →
      objects'[q]? = some self) → Represents objects' p c content
  | .object hself hdata hchildren hall, hkept =>
    .object (hkept _ _ (Nat.le_refl p) hself) hdata hchildren
      (hall.transport fun q self hlt => hkept q self (Nat.le_of_lt hlt))

theorem AllRepresent.transport {objects objects' : List (XMLSAXElementParser S)} {p : Reference}
    {c : S.Class} {children : List (S.ChildElement c × Reference)}
    {contents : List (S.ChildElement c × Content)} : AllRepresent objects p c children contents →
    (∀ (q : Reference) (self : XMLSAXElementParser S), p < q → objects[q]? = some self →
      objects'[q]? = some self) → AllRepresent objects' p c children contents
  | .nil, _ => .nil
  | .cons hlt hhead htail, hkept =>
    .cons hlt (hhead.transport fun q self hle => hkept q self (Nat.lt_of_lt_of_le hlt hle))
      (htail.transport hkept)

end

theorem AllRepresent.append {objects : List (XMLSAXElementParser S)} {p : Reference} {c : S.Class}
    {children more : List (S.ChildElement c × Reference)}
    {contents moreContents : List (S.ChildElement c × Content)}
    (h' : AllRepresent objects p c more moreContents) :
    AllRepresent objects p c children contents →
      AllRepresent objects p c (children ++ more) (contents ++ moreContents)
  | .nil => h'
  | .cons hlt hhead htail => .cons hlt hhead (append h' htail)

/-! ## The traversal files it -/

/-- The object with more filed. -/
def XMLSAXElementParser.filing (self : XMLSAXElementParser S)
    (data : List (S.DataElement self.parserClass × XMLDataElement))
    (children : List (S.ChildElement self.parserClass × Reference)) : XMLSAXElementParser S :=
  { self with data := fileAll data self.data, children := fileAll children self.children }

theorem XMLSAXElementParser.filing_filing (self : XMLSAXElementParser S)
    (data more : List (S.DataElement self.parserClass × XMLDataElement))
    (children moreChildren : List (S.ChildElement self.parserClass × Reference)) :
    (self.filing data children).filing more moreChildren =
      self.filing (data ++ more) (children ++ moreChildren) := by
  unfold filing
  rw [fileAll_append, fileAll_append]

/-- What the traversal of a content on the object at `p` does to the objects. -/
structure Traversed (objects objects' : List (XMLSAXElementParser S)) (p : Reference)
    (object : XMLSAXElementParser S) (content : Content)
    (children : List (S.ChildElement object.parserClass × Reference)) : Prop where
  others : ∀ (q : Reference) (other : XMLSAXElementParser S), q ≠ p → objects[q]? = some other →
    objects'[q]? = some other
  own : objects'[p]? = some (object.filing (S.dataIn object.parserClass content) children)
  all : AllRepresent objects' p object.parserClass children
    (S.childrenIn object.parserClass content)

/-- What comes after a node adds to what the node has left. -/
theorem dataIn_node (c : S.Class) (name : ElementName) (attributes : Attributes)
    (content rest : Content) :
    S.dataIn c (.node name attributes content rest) =
      S.dataIn c (.node name attributes content .nil) ++ S.dataIn c rest := by
  simp only [Schema.dataIn]
  cases S.dataElement c name with
  | none => rfl
  | some key => simp

theorem childrenIn_node (c : S.Class) (name : ElementName) (attributes : Attributes)
    (content rest : Content) :
    S.childrenIn c (.node name attributes content rest) =
      S.childrenIn c (.node name attributes content .nil) ++ S.childrenIn c rest := by
  simp only [Schema.childrenIn]
  cases S.dataElement c name with
  | some key => simp
  | none =>
    cases S.childElement c name with
    | none => rfl
    | some key => rfl

/-- A node and then what comes after it. -/
theorem Traversed.trans {objects objects' objects'' : List (XMLSAXElementParser S)} {p : Reference}
    {self : XMLSAXElementParser S} {name : ElementName} {attributes : Attributes}
    {content rest : Content} {children more : List (S.ChildElement self.parserClass × Reference)}
    (h : Traversed objects objects' p self (.node name attributes content .nil) children)
    (h' : Traversed objects' objects'' p
      (self.filing (S.dataIn self.parserClass (.node name attributes content .nil)) children)
      rest more) :
    Traversed objects objects'' p self (.node name attributes content rest) (children ++ more) where
  others q other hne hother := h'.others q other hne (h.others q other hne hother)
  own := by
    rw [dataIn_node, ← filing_filing]
    exact h'.own
  all := by
    rw [childrenIn_node]
    -- What the node has left is beyond `p`, where the rest changes nothing.
    refine AllRepresent.append h'.all (h.all.transport ?_)
    exact fun q other hlt hother => h'.others q other (Nat.ne_of_gt hlt) hother

/-- The object at `p` takes in one data entry. -/
theorem Traversed.data {objects objects' : List (XMLSAXElementParser S)} {p : Reference}
    {self : XMLSAXElementParser S} {name : ElementName} {attributes : Attributes}
    {content : Content} {children : List (S.ChildElement self.parserClass × Reference)}
    (h : Traversed objects objects' p self content children)
    {key : S.DataElement self.parserClass} (hkey : S.dataElement self.parserClass name = some key) :
    Traversed objects (objects'.modify p (endDataElement name attributes content.allText)) p self
      (.node name attributes content .nil) children where
  others q other hne hother := by
    rw [List.getElem?_modify_ne _ _ (Ne.symm hne)]
    exact h.others q other hne hother
  own := by
    have hended : (self.filing (S.dataIn self.parserClass content) children).endDataElement name
        attributes content.allText =
        self.filing (S.dataIn self.parserClass content ++
          [(key, { value := (Utf8.decode? content.allText).getD "", attributes := attributes })])
          children := by
      have hkey' : S.dataElement (self.filing (S.dataIn self.parserClass content)
          children).parserClass name = some key := hkey
      unfold endDataElement
      rw [hkey', ← stringFromData_eq_getD]
      unfold filing
      rw [fileAll_append]
      rfl
    have hdata : S.dataIn self.parserClass (.node name attributes content .nil) =
        S.dataIn self.parserClass content ++
          [(key, { value := (Utf8.decode? content.allText).getD "", attributes := attributes })] := by
      simp only [Schema.dataIn, hkey]
    rw [List.getElem?_modify_eq, h.own, Option.map_eq_map, Option.map_some, hended, hdata]
  all := by
    have hchildren : S.childrenIn self.parserClass (.node name attributes content .nil) =
        S.childrenIn self.parserClass content := by
      simp only [Schema.childrenIn, hkey, List.append_nil]
    rw [hchildren]
    refine h.all.transport fun q other hlt hother => ?_
    rw [List.getElem?_modify_ne _ _ (Nat.ne_of_lt hlt)]
    exact hother

/-- The object at `p` takes in a child, which was made for it and represents its content. -/
theorem Traversed.child {objects objects' : List (XMLSAXElementParser S)} {p : Reference}
    {self : XMLSAXElementParser S} (hself : objects[p]? = some self) {name : ElementName}
    {attributes : Attributes} {content : Content} {key : S.ChildElement self.parserClass}
    (hdata : S.dataElement self.parserClass name = none)
    (hkey : S.childElement self.parserClass name = some key)
    {children : List (S.ChildElement (S.type self.parserClass key) × Reference)}
    (h : Traversed (objects ++ [init (S.type self.parserClass key)]) objects' objects.length
      (init (S.type self.parserClass key)) content children) :
    Traversed objects (objects'.modify p (endChildElement name objects.length)) p self
      (.node name attributes content .nil) [(key, objects.length)] where
  others q other hne hother := by
    have hlt := (List.getElem?_eq_some_iff.mp hother).1
    rw [List.getElem?_modify_ne _ _ (Ne.symm hne)]
    apply h.others q other (Nat.ne_of_lt hlt)
    rw [List.getElem?_append_left hlt]
    exact hother
  own := by
    have hlt := (List.getElem?_eq_some_iff.mp hself).1
    have hkept : objects'[p]? = some self := by
      apply h.others p self (Nat.ne_of_lt hlt)
      rw [List.getElem?_append_left hlt]
      exact hself
    have hnone : S.dataIn self.parserClass (.node name attributes content .nil) = [] := by
      simp only [Schema.dataIn, hdata]
    rw [List.getElem?_modify_eq, hkept, Option.map_eq_map, Option.map_some, hnone]
    simp only [endChildElement, hkey]
    rfl
  all := by
    have hlt := (List.getElem?_eq_some_iff.mp hself).1
    have hone : S.childrenIn self.parserClass (.node name attributes content .nil) =
        [(key, content)] := by
      simp only [Schema.childrenIn, hdata, hkey]
    rw [hone]
    refine .cons hlt ?_ .nil
    have hchild : Represents objects' objects.length (S.type self.parserClass key) content :=
      .object h.own (Filed.nil.fileAll _) (Filed.nil.fileAll _) h.all
    refine hchild.transport fun q other hle hother => ?_
    rw [List.getElem?_modify_ne _ _ (Nat.ne_of_lt (Nat.lt_of_lt_of_le hlt hle))]
    exact hother

/-- What the traversal of one node does to the objects, by the answer to its start. -/
theorem visited_world {p : Reference} {name : ElementName}
    {h : Host (List (XMLSAXElementParser S)) Reference} {answer : SAXStartElement Reference}
    {objects : List (XMLSAXElementParser S)}
    (hstart : startElement p name h.world = (answer, objects)) (attributes : Attributes)
    (content : Content) :
    (visited (parsable S) p name attributes content h).world =
      let offered : Host (List (XMLSAXElementParser S)) Reference :=
        ⟨objects, h.calls ++ [.startElement p name attributes]⟩
      match answer with
      | .ignore => objects
      | .handleAsData =>
        (traverse (parsable S) p content offered).world.modify p
          (endDataElement name attributes content.allText)
      | .handleWithChild child =>
        (traverse (parsable S) child content offered).world.modify p
          (endChildElement name child) := by
  simp only [visited, traverse, host_startElement hstart]
  cases answer with
  | ignore => rfl
  | handleAsData => rfl
  | handleWithChild child => rfl

/-- The traversal of a node whose name is nothing to the object leaves the objects alone. -/
theorem Traversed.ignored {objects : List (XMLSAXElementParser S)} {p : Reference}
    {self : XMLSAXElementParser S} (hself : objects[p]? = some self) {name : ElementName}
    {attributes : Attributes} {content : Content}
    (hdata : S.dataElement self.parserClass name = none)
    (hchild : S.childElement self.parserClass name = none) :
    Traversed objects objects p self (.node name attributes content .nil) [] where
  others _ _ _ hother := hother
  own := by
    have hnone : S.dataIn self.parserClass (.node name attributes content .nil) = [] := by
      simp only [Schema.dataIn, hdata]
    rw [hnone]
    exact hself
  all := by
    have hnone : S.childrenIn self.parserClass (.node name attributes content .nil) = [] := by
      simp only [Schema.childrenIn, hdata, hchild]
    rw [hnone]
    exact .nil

/-- One node, given what the traversal of its content does: the three things the element types
    can make of its name. -/
theorem visited_files {content : Content} {p : Reference}
    {h : Host (List (XMLSAXElementParser S)) Reference} {self : XMLSAXElementParser S}
    (hself : h.world[p]? = some self) (name : ElementName) (attributes : Attributes)
    (ih : ∀ (p : Reference) (h : Host (List (XMLSAXElementParser S)) Reference)
      {self : XMLSAXElementParser S}, h.world[p]? = some self →
      ∃ children, Traversed h.world (traverse (parsable S) p content h).world p self content
        children) :
    ∃ children, Traversed h.world (visited (parsable S) p name attributes content h).world p self
      (.node name attributes content .nil) children := by
  cases hdata : S.dataElement self.parserClass name with
  | some key =>
    rw [visited_world (startElement_of_data hself hdata)]
    obtain ⟨children, hcontent⟩ := ih p
      ⟨h.world, h.calls ++ [.startElement p name attributes]⟩ hself
    exact ⟨children, hcontent.data hdata⟩
  | none =>
    cases hchild : S.childElement self.parserClass name with
    | none =>
      rw [visited_world (startElement_of_neither hself hdata hchild)]
      exact ⟨[], Traversed.ignored hself hdata hchild⟩
    | some key =>
      rw [visited_world (startElement_of_child hself hdata hchild)]
      have hmade : (h.world ++ [init (S.type self.parserClass key)])[h.world.length]? =
          some (init (S.type self.parserClass key)) := by simp
      obtain ⟨children, hcontent⟩ := ih h.world.length
        ⟨h.world ++ [init (S.type self.parserClass key)],
          h.calls ++ [.startElement p name attributes]⟩ hmade
      exact ⟨_, Traversed.child hself hdata hchild hcontent⟩

/-- **The traversal of a document on a parser files what the document means to it.** -/
theorem traverse_files (content : Content) (p : Reference)
    (h : Host (List (XMLSAXElementParser S)) Reference) {self : XMLSAXElementParser S}
    (hself : h.world[p]? = some self) :
    ∃ children, Traversed h.world (traverse (parsable S) p content h).world p self content
      children := by
  induction content generalizing p h self with
  | nil => exact ⟨[], fun _ _ _ hother => hother, hself, .nil⟩
  | text bytes rest ih =>
    obtain ⟨children, hothers, hown, hall⟩ := ih p h hself
    exact ⟨children, hothers, hown, hall⟩
  | node name attributes content rest ihc ihr =>
    have hnode : ∃ children, Traversed h.world
        (visited (parsable S) p name attributes content h).world p self
        (.node name attributes content .nil) children :=
      visited_files hself name attributes ihc
    obtain ⟨children, hnode⟩ := hnode
    obtain ⟨more, hrest⟩ : ∃ more : List (S.ChildElement self.parserClass × Reference),
        Traversed (visited (parsable S) p name attributes content h).world
          (traverse (parsable S) p rest (visited (parsable S) p name attributes content h)).world p
          (self.filing (S.dataIn self.parserClass (.node name attributes content .nil)) children)
          rest more := ihr p (visited (parsable S) p name attributes content h) hnode.own
    rw [traverse_node]
    exact ⟨children ++ more, hnode.trans hrest⟩

/-- The traversal of a document on one new parser leaves what represents it. -/
theorem traverse_represents (c : S.Class) (doc : Content) :
    Represents (traverse (parsable S) 0 doc (.start [init c])).world 0 c doc := by
  have hself : (Host.start (P := Reference) [init c]).world[0]? = some (init c) := rfl
  obtain ⟨children, -, hown, hall⟩ := traverse_files doc 0 (.start [init c]) hself
  exact .object hown (Filed.nil.fileAll _) (Filed.nil.fileAll _) hall

/-- **What a run leaves represents the document it was given.** For every family of element types
    and every document the parser comes through, the root and the objects it leads to are what
    the document means to the root's class. -/
theorem run_represents (S : Schema) (c : S.Class) (doc : Content)
    (s : XMLPushParser (List (XMLSAXElementParser S)) Reference)
    (h : run (XMLPushParser.handle (parsable S)) (.init 0 [init c]) doc.tokens = .ok s) :
    Represents s.host.world 0 c doc := by
  obtain ⟨-, rfl⟩ := (run_ok_iff _).mp h
  rw [after_tokens]
  exact traverse_represents c doc

/-! ## The catalogs of the tests -/

/-- A document has a catalog, a catalog owners and books, and a book an author and a title. -/
inductive CatalogClass where
  | document
  | catalog
  | book

/-- The data elements of a book. -/
inductive BookElement where
  | author
  | title
  deriving DecidableEq

def BookElement.rawValue : String → Option BookElement
  | "author" => some .author
  | "title" => some .title
  | _ => none

/-- An enumeration of one case. -/
def onlyCase (localName : String) : String → Option Unit :=
  fun rawValue => if rawValue = localName then some () else none

/-- The parsers of the catalogs. -/
def catalogs : Schema where
  Class := CatalogClass
  DataElement
    | .document => XMLElementsNone
    | .catalog => Unit
    | .book => BookElement
  ChildElement
    | .document => Unit
    | .catalog => Unit
    | .book => XMLElementsNone
  decidableEqData
    | .document => inferInstanceAs (DecidableEq XMLElementsNone)
    | .catalog => inferInstanceAs (DecidableEq Unit)
    | .book => inferInstanceAs (DecidableEq BookElement)
  decidableEqChild
    | .document => inferInstanceAs (DecidableEq Unit)
    | .catalog => inferInstanceAs (DecidableEq Unit)
    | .book => inferInstanceAs (DecidableEq XMLElementsNone)
  dataElement
    | .document => XMLElementsNone.init
    | .catalog => XMLElementStringEnum.init (onlyCase "owner")
    | .book => XMLElementStringEnum.init BookElement.rawValue
  childElement
    | .document => XMLElementStringEnum.init (onlyCase "catalog")
    | .catalog => XMLElementStringEnum.init (onlyCase "book")
    | .book => XMLElementsNone.init
  type
    | .document, _ => .catalog
    | .catalog, _ => .book
    | .book, key => nomatch key

/-- `<localName>…</localName>` with this text. -/
def textElement (localName : String) (text : Data) (rest : Content) : Content :=
  .node { localName := localName } ∅ (.text text .nil) rest

/-- `<catalog><owner>a</owner><book><title>t</title><x/><author>u</author></book></catalog>`. -/
def catalogDocument : Content :=
  .node { localName := "catalog" } ∅
    (textElement "owner" [97]
      (.node { localName := "book" } ∅
        (textElement "title" [116] (.node { localName := "x" } ∅ .nil (textElement "author" [117] .nil)))
        .nil)) .nil

theorem catalog_represented :
    ∃ s, run (XMLPushParser.handle (parsable catalogs)) (.init 0 [init .document])
        catalogDocument.tokens = .ok s ∧
      Represents s.host.world 0 .document catalogDocument :=
  ⟨_, rfl, run_represents catalogs .document catalogDocument _ rfl⟩

end XMLPush

import XMLPush.Proof.Safety

/-!
# Complete documents

A complete document is a forest, and its stream is what the parser is fed. Two results
about it.

* **The parser performs the traversal** of any document no data element of which holds
  another, and is left as it was made.
* **What an ignored element contains** reaches a delegate in exactly one way: through the
  text of a data element around it. `SameOutsideIgnored` compares two documents along the
  answers the first one gets, and lets them differ below `ignore`; the callbacks are then
  the same if and only if every data element has the same text in both, which is what
  `SameDataText` says. The start and end handlers ask `ignoringElements` first and
  `charactersFound` does not, so without that condition they differ.
-/

set_option autoImplicit false

namespace XMLPush

open Nesting
open Machine

variable {W P : Type}

/-! ## The parser performs the traversal -/

theorem after_tokens (D : SAXParsable W P) (root : P) (world : W) (doc : Content) :
    (Walk.after D root world doc.tokens).parser =
      { XMLPushParser.init root world with host := traverse D root doc (.start world) } := by
  obtain ⟨hroot, ⟨marks, hopened⟩, hhost⟩ := Walk.follow_tokens D doc (Walk.init root world)
  have hnil : (Walk.after D root world doc.tokens).opened = [] := hopened
  have htraverse : (Walk.after D root world doc.tokens).host =
      traverse D root doc (.start world) := hhost
  simp only [Walk.parser, hnil, htraverse]
  rw [show (Walk.after D root world doc.tokens).root = root from hroot]
  rfl

/-- **A document no data element of which holds another is traversed**: the parser neither
    traps nor makes any callback but those of the traversal, in its order, and its own
    fields end as `init` made them. -/
theorem run_tokens_eq_traverse (D : SAXParsable W P) (root : P) (world : W) (doc : Content)
    (h : (Walk.after D root world doc.tokens).NoDataInData) :
    run (XMLPushParser.handle D) (.init root world) doc.tokens =
      .ok { XMLPushParser.init root world with host := traverse D root doc (.start world) } := by
  rw [← after_tokens]
  exact (run_wellNested_iff D root world doc.complete_tokens.wellNested).mpr ⟨h.closed, rfl⟩

/-- `<c><d a="v">t<x>u</x><c></c></d></c>`: a child element, in it a data element, and in that
    an ignored element and another child. -/
def mixedDocument : Content :=
  .node { localName := "c" } ∅
    (.node { localName := "d" } (AList.insert (.of "a") { localName := "a", value := "v" } ∅)
      (.text [116] (.node { localName := "x" } ∅ (.text [117] .nil)
        (.node { localName := "c" } ∅ .nil .nil))) .nil) .nil

theorem mixedDocument_traversed :
    run (XMLPushParser.handle lettered) (.init 0 ()) mixedDocument.tokens =
      .ok { XMLPushParser.init 0 () with host := traverse lettered 0 mixedDocument (.start ()) } :=
  run_tokens_eq_traverse lettered 0 () mixedDocument (by
    unfold Walk.NoDataInData
    decide)

/-! ## What an ignored element contains -/

/-- The delegates once a node and everything in it are done: where a comparison of two
    documents takes up the siblings. -/
def visited (D : SAXParsable W P) (target : P) (name : ElementName) (attributes : Attributes)
    (content : Content) (h : Host W P) : Host W P :=
  traverse D target (.node name attributes content .nil) h

theorem traverse_node (D : SAXParsable W P) (target : P) (name : ElementName)
    (attributes : Attributes) (content rest : Content) (h : Host W P) :
    traverse D target (.node name attributes content rest) h =
      traverse D target rest (visited D target name attributes content h) := rfl

/-- Two documents differ only inside elements answered `ignore`. The answers are those the
    first document gets. -/
def SameOutsideIgnored (D : SAXParsable W P) : P → Content → Content → Host W P → Prop
  | _, .nil, .nil, _ => True
  | target, .text bytes rest, .text bytes' rest', h =>
    bytes = bytes' ∧ SameOutsideIgnored D target rest rest' h
  | target, .node name attributes content rest, .node name' attributes' content' rest', h =>
    name = name' ∧ attributes = attributes' ∧
      (match h.startElement D target name attributes with
        | (.ignore, _) => True
        | (.handleAsData, h) => SameOutsideIgnored D target content content' h
        | (.handleWithChild child, h) => SameOutsideIgnored D child content content' h) ∧
      SameOutsideIgnored D target rest rest' (visited D target name attributes content h)
  | _, _, _, _ => False

/-- Every element answered `handleAsData` has the same text in both documents: what the ignored
    elements below it add to it is the same. -/
def SameDataText (D : SAXParsable W P) : P → Content → Content → Host W P → Prop
  | target, .text _ rest, .text _ rest', h => SameDataText D target rest rest' h
  | target, .node name attributes content rest, .node _ _ content' rest', h =>
    (match h.startElement D target name attributes with
      | (.ignore, _) => True
      | (.handleAsData, h) =>
        content.allText = content'.allText ∧ SameDataText D target content content' h
      | (.handleWithChild child, h) => SameDataText D child content content' h) ∧
    SameDataText D target rest rest' (visited D target name attributes content h)
  | _, _, _, _ => True

/-! ### Logs that part -/

/-- Two logs agree up to a callback in which they differ. -/
def Part (xs ys : List (Callback P)) : Prop :=
  ∃ common x y xs' ys', x ≠ y ∧ xs = common ++ x :: xs' ∧ ys = common ++ y :: ys'

theorem Part.ne {xs ys : List (Callback P)} (h : Part xs ys) : xs ≠ ys := by
  obtain ⟨common, x, y, xs', ys', hne, rfl, rfl⟩ := h
  intro heq
  exact hne (List.cons.inj (List.append_cancel_left heq)).1

/-- Logs that have parted stay parted, however they go on. -/
theorem Part.extend {xs ys us vs : List (Callback P)} (h : Part xs ys) (hxs : xs <+: us)
    (hys : ys <+: vs) : Part us vs := by
  obtain ⟨common, x, y, xs', ys', hne, rfl, rfl⟩ := h
  obtain ⟨us', rfl⟩ := hxs
  obtain ⟨vs', rfl⟩ := hys
  exact ⟨common, x, y, xs' ++ us', ys' ++ vs', hne, by simp, by simp⟩

/-- A traversal only adds to the log. -/
theorem calls_traverse (D : SAXParsable W P) (c : Content) (target : P) (h : Host W P) :
    h.calls <+: (traverse D target c h).calls := by
  induction c generalizing target h with
  | nil => exact ⟨[], by simp [traverse]⟩
  | text bytes rest ih => exact ih target h
  | node name attributes content rest ihc ihr =>
    rw [traverse_node]
    refine List.IsPrefix.trans ?_ (ihr target _)
    have hstart : h.calls <+: (h.startElement D target name attributes).2.calls :=
      ⟨_, (Host.startElement_calls D target name attributes h).symm⟩
    simp only [visited, traverse]
    cases hs : h.startElement D target name attributes with
    | mk answer h₁ =>
      rw [hs] at hstart
      cases answer with
      | ignore => exact hstart
      | handleAsData =>
        refine (hstart.trans (ihc target h₁)).trans ?_
        exact ⟨_, (Host.endDataElement_calls D target name attributes _ _).symm⟩
      | handleWithChild child =>
        refine (hstart.trans (ihc child h₁)).trans ?_
        exact ⟨_, (Host.endChildElement_calls D target name child _).symm⟩

/-- One pair of nodes, given what is known of what they contain: with the same text for every
    data element in them the delegates are left the same, and otherwise the logs part. -/
theorem visited_same_or_part (D : SAXParsable W P) (target : P) (name : ElementName)
    (attributes : Attributes) (content content' : Content) (h : Host W P)
    (ih : ∀ target h, SameOutsideIgnored D target content content' h →
      (SameDataText D target content content' h →
        traverse D target content h = traverse D target content' h) ∧
      (¬ SameDataText D target content content' h →
        Part (traverse D target content h).calls (traverse D target content' h).calls))
    (hsame : SameOutsideIgnored D target (.node name attributes content .nil)
      (.node name attributes content' .nil) h) :
    (SameDataText D target (.node name attributes content .nil)
        (.node name attributes content' .nil) h →
      visited D target name attributes content h = visited D target name attributes content' h) ∧
    (¬ SameDataText D target (.node name attributes content .nil)
        (.node name attributes content' .nil) h →
      Part (visited D target name attributes content h).calls
        (visited D target name attributes content' h).calls) := by
  simp only [SameOutsideIgnored, SameDataText, true_and, and_true, visited, traverse] at hsame ⊢
  cases hs : h.startElement D target name attributes with
  | mk answer h₁ =>
    rw [hs] at hsame
    cases answer with
    | ignore => exact ⟨fun _ => rfl, fun hnot => absurd trivial hnot⟩
    | handleAsData =>
      -- What stands in a data element goes to the delegate the element itself was offered to.
      obtain ⟨hagree, hpart⟩ := ih target h₁ hsame
      constructor
      · rintro ⟨htext, hinner⟩
        show Host.endDataElement _ _ _ _ _ _ = Host.endDataElement _ _ _ _ _ _
        rw [hagree hinner, htext]
      · intro hnot
        show Part (Host.endDataElement _ _ _ _ _ _).calls (Host.endDataElement _ _ _ _ _ _).calls
        by_cases hinner : SameDataText D target content content' h₁
        · -- The contents are the first argument in which the two logs differ.
          have htext : content.allText ≠ content'.allText := fun heq => hnot ⟨heq, hinner⟩
          rw [hagree hinner]
          refine ⟨(traverse D target content' h₁).calls, _, _, [], [], ?_, rfl, rfl⟩
          intro heq
          injection heq with _ _ _ hcontents
          exact htext hcontents
        · exact (hpart hinner).extend ⟨_, rfl⟩ ⟨_, rfl⟩
    | handleWithChild child =>
      obtain ⟨hagree, hpart⟩ := ih child h₁ hsame
      constructor
      · intro hinner
        show Host.endChildElement _ _ _ _ _ = Host.endChildElement _ _ _ _ _
        rw [hagree hinner]
      · intro hnot
        exact (hpart hnot).extend ⟨_, rfl⟩ ⟨_, rfl⟩

/-- Documents that differ only inside ignored elements are traversed alike if their data
    elements have the same text, and otherwise the logs part at the first one that has not. -/
theorem traverse_same_or_part (D : SAXParsable W P) (c c' : Content) (target : P)
    (h : Host W P) (hsame : SameOutsideIgnored D target c c' h) :
    (SameDataText D target c c' h → traverse D target c h = traverse D target c' h) ∧
    (¬ SameDataText D target c c' h →
      Part (traverse D target c h).calls (traverse D target c' h).calls) := by
  induction c generalizing c' target h with
  | nil =>
    cases c' with
    | nil => exact ⟨fun _ => rfl, fun hnot => absurd trivial hnot⟩
    | text bytes rest => exact absurd hsame (by simp [SameOutsideIgnored])
    | node name attributes content rest => exact absurd hsame (by simp [SameOutsideIgnored])
  | text bytes rest ih =>
    cases c' with
    | nil => exact absurd hsame (by simp [SameOutsideIgnored])
    | text bytes' rest' => exact ih rest' target h hsame.2
    | node name attributes content rest' => exact absurd hsame (by simp [SameOutsideIgnored])
  | node name attributes content rest ihc ihr =>
    cases c' with
    | nil => exact absurd hsame (by simp [SameOutsideIgnored])
    | text bytes rest' => exact absurd hsame (by simp [SameOutsideIgnored])
    | node name' attributes' content' rest' =>
      obtain ⟨rfl, rfl, hcontent, hrest⟩ := hsame
      obtain ⟨hagree, hpart⟩ := visited_same_or_part D target name attributes content content' h
        (fun target h => ihc content' target h) ⟨rfl, rfl, hcontent, trivial⟩
      obtain ⟨hagreeRest, hpartRest⟩ := ihr rest' target _ hrest
      rw [traverse_node, traverse_node]
      constructor
      · rintro ⟨hnode, htail⟩
        rw [← hagree ⟨hnode, trivial⟩]
        exact hagreeRest htail
      · intro hnot
        by_cases hnode : SameDataText D target (.node name attributes content .nil)
            (.node name attributes content' .nil) h
        · rw [← hagree hnode]
          exact hpartRest fun htail => hnot ⟨hnode.1, htail⟩
        · exact (hpart hnode).extend (calls_traverse D rest target _)
            (calls_traverse D rest' target _)

/-- **What an ignored element contains reaches a delegate exactly through the text of a data
    element around it.** Two documents that differ only inside elements answered `ignore`, on
    runs that do not trap, make the same callbacks if and only if every data element has the
    same text in both. -/
theorem ignored_content_iff (D : SAXParsable W P) (root : P) (world : W) (doc doc' : Content)
    (s s' : XMLPushParser W P)
    (hsame : SameOutsideIgnored D root doc doc' (.start world))
    (hrun : run (XMLPushParser.handle D) (.init root world) doc.tokens = .ok s)
    (hrun' : run (XMLPushParser.handle D) (.init root world) doc'.tokens = .ok s') :
    s.host.calls = s'.host.calls ↔ SameDataText D root doc doc' (.start world) := by
  obtain ⟨-, rfl⟩ := (run_wellNested_iff D root world doc.complete_tokens.wellNested).mp hrun
  obtain ⟨-, rfl⟩ := (run_wellNested_iff D root world doc'.complete_tokens.wellNested).mp hrun'
  rw [after_tokens, after_tokens]
  obtain ⟨hagree, hpart⟩ := traverse_same_or_part D doc doc' root (.start world) hsame
  constructor
  · intro hcalls
    by_contra hnot
    exact (hpart hnot).ne hcalls
  · intro htext
    exact congrArg Host.calls (hagree htext)

/-- `<d>t<x>…</x></d>`: an ignored element, with one byte of text, inside a data element. -/
def ignoredInData (byte : UInt8) : Content :=
  .node { localName := "d" } ∅
    (.text [116] (.node { localName := "x" } ∅ (.text [byte] .nil) .nil)) .nil

/-- The contents a callback hands over. -/
def Callback.contents : Callback P → Data
  | .endDataElement _ _ _ contents => contents
  | .startElement _ _ _ => []
  | .endChildElement _ _ _ => []

/-- The byte inside the ignored element is handed over with the contents of the data element. -/
theorem ignored_text_handed_over :
    SameOutsideIgnored lettered 0 (ignoredInData 117) (ignoredInData 118) (.start ()) ∧
      ∃ s s', run (XMLPushParser.handle lettered) (.init 0 ()) (ignoredInData 117).tokens = .ok s ∧
        run (XMLPushParser.handle lettered) (.init 0 ()) (ignoredInData 118).tokens = .ok s' ∧
        s.host.calls ≠ s'.host.calls := by
  refine ⟨⟨rfl, rfl, ⟨rfl, rfl, rfl, trivial, trivial⟩, trivial⟩, _, _, rfl, rfl, ?_⟩
  intro hcalls
  have hcontents := congrArg (List.map Callback.contents) hcalls
  exact absurd hcontents (by decide)

/-- `<c><x>…</x></c>`: an ignored element inside a child element. -/
def ignoredInChild (byte : UInt8) : Content :=
  .node { localName := "c" } ∅ (.node { localName := "x" } ∅ (.text [byte] .nil) .nil) .nil

theorem ignored_text_dropped :
    (traverse lettered 0 (ignoredInChild 117) (.start ())).calls =
        (traverse lettered 0 (ignoredInChild 118) (.start ())).calls ↔
      SameDataText lettered 0 (ignoredInChild 117) (ignoredInChild 118) (.start ()) :=
  ignored_content_iff lettered 0 () (ignoredInChild 117) (ignoredInChild 118)
    { XMLPushParser.init 0 () with host := traverse lettered 0 (ignoredInChild 117) (.start ()) }
    { XMLPushParser.init 0 () with host := traverse lettered 0 (ignoredInChild 118) (.start ()) }
    ⟨rfl, rfl, ⟨rfl, rfl, trivial, trivial⟩, trivial⟩ rfl rfl

end XMLPush

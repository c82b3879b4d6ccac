import XMLPush.Proof.Fields

/-!
# The conversation with the delegates

What a delegate may rely on, whatever is parsed. The log of callbacks is played back
against the delegates alone, with no stream and no parser: a `Conversation` remembers what
the delegates remember, and which starts they were promised an end for. `hear` is the
protocol. A start goes to the child promised last, or to the root; an end goes to whoever
was promised one last, on the delegate that gave the answer, and hands back what came with
it, the attributes of a data element or the child that was answered.

`calls_conversation` says that every run keeps to it, on any stream at all, and that the
parser's stack is the list of the children whose end is still owed. Names are another
matter: the parser never compares the name of an end to that of its start, so an end carries
the name of its start exactly as far as the stream does.
-/

set_option autoImplicit false

namespace XMLPush

open Nesting
open Machine

variable {W P : Type}

/-- A start the delegates answered, and whose end they have not been told. -/
inductive Pending (P : Type) where
  | dataEnd (target : P) (name : ElementName) (attributes : Attributes)
  | childEnd (target : P) (name : ElementName) (child : P)
  deriving DecidableEq

/-- The delegate that takes what stands in the element. -/
def Pending.child? : Pending P → Option P
  | .dataEnd _ _ _ => none
  | .childEnd _ _ child => some child

/-- How a log breaks the protocol. -/
inductive Breach where
  /-- A start to another delegate than the one whose turn it is. -/
  | misdirected
  /-- An end nobody was promised. -/
  | unowed
  deriving DecidableEq, Repr

/-- The delegates' side of a run. -/
structure Conversation (W P : Type) where
  root : P
  world : W
  /-- The ends they are owed, innermost first. -/
  pending : List (Pending P)

namespace Conversation

/-- Nothing said yet. -/
def init (root : P) (world : W) : Conversation W P := ⟨root, world, []⟩

/-- Whose turn it is: the child that was promised last, or the root. -/
def turn (root : P) : List (Pending P) → P
  | [] => root
  | promise :: rest =>
    match promise.child? with
    | some child => child
    | none => turn root rest

/-- What the delegates are owed after an answer. -/
def promised (target : P) (name : ElementName) (attributes : Attributes)
    (pending : List (Pending P)) : SAXStartElement P → List (Pending P)
  | .ignore => pending
  | .handleAsData => .dataEnd target name attributes :: pending
  | .handleWithChild child => .childEnd target name child :: pending

variable [DecidableEq P]

/-- One callback. If `named`, an end has to carry the name of its start. -/
def hear (named : Bool) (D : SAXParsable W P) (c : Conversation W P) :
    Callback P → Except Breach (Conversation W P)
  | .startElement target name attributes =>
    if target = turn c.root c.pending then
      let (answer, world) := D.startElement target name attributes c.world
      .ok { c with world := world, pending := promised target name attributes c.pending answer }
    else .error .misdirected
  | .endDataElement target name attributes contents =>
    match c.pending with
    | .dataEnd target' name' attributes' :: rest =>
      if target = target' ∧ attributes = attributes' ∧ (named → name = name') then
        .ok { c with
          world := D.endDataElement target name attributes contents c.world, pending := rest }
      else .error .unowed
    | _ => .error .unowed
  | .endChildElement target name child =>
    match c.pending with
    | .childEnd target' name' child' :: rest =>
      if target = target' ∧ child = child' ∧ (named → name = name') then
        .ok { c with world := D.endChildElement target name child c.world, pending := rest }
      else .error .unowed
    | _ => .error .unowed

end Conversation

/-! ## The conversation of a walk -/

/-- What an open element still owes its delegate. -/
def Element.pending? (e : Element P) : Option (Pending P) :=
  match e.offer with
  | some (target, .handleAsData) => some (.dataEnd target e.name e.attributes)
  | some (target, .handleWithChild child) => some (.childEnd target e.name child)
  | some (_, .ignore) => none
  | none => none

/-- The promises open elements have left. -/
def pendingOf (opened : List (Element P)) : List (Pending P) := opened.filterMap Element.pending?

theorem pendingOf_settle (bytes : Data) (marks : Bool) (opened : List (Element P)) :
    pendingOf (opened.map (·.settle bytes marks)) = pendingOf opened := by
  unfold pendingOf
  rw [List.filterMap_map]
  rfl

theorem pendingOf_cons (e : Element P) (outer : List (Element P)) :
    pendingOf (e :: outer) = e.pending?.toList ++ pendingOf outer := by
  unfold pendingOf
  rw [List.filterMap_cons]
  cases e.pending? with
  | none => rfl
  | some promise => rfl

/-- A promise brings the child its element brings. -/
theorem Element.child?_of_pending? (e : Element P) :
    e.child? = e.pending?.bind Pending.child? := by
  cases hoffer : e.offer with
  | none => simp only [child?, pending?, hoffer, Option.bind_none]
  | some offer =>
    obtain ⟨target, answer⟩ := offer
    cases answer with
    | ignore => simp only [child?, pending?, hoffer, Option.bind_none]
    | handleAsData => simp only [child?, pending?, hoffer, Option.bind_some, Pending.child?]
    | handleWithChild child =>
      simp only [child?, pending?, hoffer, Option.bind_some, Pending.child?]

/-- The delegate of the next element is the one whose turn it is. -/
theorem turn_pendingOf (root : P) (opened : List (Element P)) :
    Conversation.turn root (pendingOf opened) = delegate root opened := by
  induction opened with
  | nil => rfl
  | cons e outer ih =>
    rw [pendingOf_cons, delegate, e.child?_of_pending?, ← ih]
    cases e.pending? with
    | none => rfl
    | some promise => cases promise <;> rfl

/-- The promised children are the children of the open elements. -/
theorem filterMap_child?_pendingOf (opened : List (Element P)) :
    (pendingOf opened).filterMap Pending.child? = opened.filterMap Element.child? := by
  unfold pendingOf
  rw [List.filterMap_filterMap]
  exact List.filterMap_congr fun e _ => e.child?_of_pending?.symm

/-- What has been said to the delegates of a walk. -/
def Walk.conversation (a : Walk W P) : Conversation W P := ⟨a.root, a.host.world, pendingOf a.opened⟩

namespace Conversation

variable [DecidableEq P]

omit [DecidableEq P] in
/-- An answer leaves the promise of the element that was answered. -/
theorem pendingOf_fresh (target : P) (name : ElementName) (attributes : Attributes)
    (answer : SAXStartElement P) (a : Walk W P) :
    pendingOf (a.fresh name attributes (some (target, answer)) ::
        Walk.around (a.fresh name attributes (some (target, answer))) a.opened) =
      promised target name attributes (pendingOf a.opened) answer := by
  rw [pendingOf_cons, Walk.around_eq_settle, pendingOf_settle]
  cases answer <;> rfl

/-- A start is said to the delegate whose turn it is. -/
theorem hear_opening (named : Bool) (D : SAXParsable W P) (name : ElementName)
    (attributes : Attributes) {a : Walk W P} (hig : ignoring a.opened = false) :
    hear named D a.conversation (.startElement (delegate a.root a.opened) name attributes) =
      .ok (a.startElement D name attributes).conversation := by
  have hturn : delegate a.root a.opened = turn a.conversation.root a.conversation.pending :=
    (turn_pendingOf a.root a.opened).symm
  have hoffer := Walk.offer_of_not_ignoring D name attributes hig
  unfold hear
  simp only
  rw [if_pos hturn]
  simp only [Walk.conversation, Walk.startElement, hoffer, pendingOf_fresh]
  rfl

/-- An end below an ignored element, or of one, is said to nobody, and any other to the delegate
    that was promised one last. -/
theorem hear_closing (named : Bool) (D : SAXParsable W P) {a : Walk W P} {e : Element P}
    {outer : List (Element P)} (hopened : a.opened = e :: outer) {name : ElementName}
    (hname : named = true → name = e.name) :
    ∃ said, (a.endElement D name).host.calls = a.host.calls ++ said ∧
      run (hear named D) a.conversation said = .ok (a.endElement D name).conversation := by
  obtain ⟨hopened', hhost, -, hroot⟩ := Walk.endElement_of_opened D name hopened
  have hpending : a.conversation.pending = e.pending?.toList ++ pendingOf outer := by
    rw [← pendingOf_cons, ← hopened]
    rfl
  have hafter : (a.endElement D name).conversation =
      ⟨a.root, (Walk.endCallback D name e a.host).world, pendingOf outer⟩ := by
    rw [Walk.conversation, hopened', hhost, hroot]
  rw [hafter, hhost]
  unfold Walk.endCallback
  cases hoffer : e.offer with
  | none =>
    refine ⟨[], (List.append_nil _).symm, ?_⟩
    simp only [Element.pending?, hoffer, Option.toList_none, List.nil_append] at hpending
    rw [run_nil, ← hpending]
    rfl
  | some offer =>
    obtain ⟨target, answer⟩ := offer
    cases answer with
    | ignore =>
      refine ⟨[], (List.append_nil _).symm, ?_⟩
      simp only [Element.pending?, hoffer, Option.toList_none, List.nil_append] at hpending
      rw [run_nil, ← hpending]
      rfl
    | handleAsData =>
      refine ⟨[_], rfl, ?_⟩
      simp only [Element.pending?, hoffer, Option.toList_some, List.singleton_append] at hpending
      refine run_cons_ok ?_ []
      simp only [hear, hpending]
      exact if_pos ⟨trivial, trivial, hname⟩
    | handleWithChild child =>
      refine ⟨[_], rfl, ?_⟩
      simp only [Element.pending?, hoffer, Option.toList_some, List.singleton_append] at hpending
      refine run_cons_ok ?_ []
      simp only [hear, hpending]
      exact if_pos ⟨trivial, trivial, hname⟩

/-- **What one event says keeps to the protocol.** -/
theorem hear_next (named : Bool) (D : SAXParsable W P) {event : Event} {events : List Event}
    {a : Walk W P} (hnamed : named = true → (openNames a.names (event :: events)).isSome) :
    ∃ said, (a.next D event).host.calls = a.host.calls ++ said ∧
      run (hear named D) a.conversation said = .ok (a.next D event).conversation := by
  cases event with
  | opening name attributes =>
    cases hig : ignoring a.opened with
    | true =>
      have hoffer := Walk.offer_of_ignoring D name attributes hig
      refine ⟨[], ?_, ?_⟩
      · simp only [Walk.next, Walk.startElement, hoffer, List.append_nil]
      · simp only [Walk.next, Walk.startElement, Walk.conversation, hoffer, pendingOf_cons,
          Walk.around_eq_settle, pendingOf_settle]
        rfl
    | false =>
      refine ⟨[.startElement (delegate a.root a.opened) name attributes], ?_, ?_⟩
      · simp only [Walk.next, Walk.startElement, Walk.offer_of_not_ignoring D name attributes hig]
        rfl
      · exact run_cons_ok (hear_opening named D name attributes hig) []
  | text bytes =>
    refine ⟨[], (List.append_nil _).symm, ?_⟩
    have hpending : pendingOf (a.characters bytes).opened = pendingOf a.opened := by
      refine Eq.trans ?_ (pendingOf_settle bytes false a.opened)
      exact congrArg pendingOf (List.map_congr_left fun e _ => Element.receive_eq_settle bytes e)
    rw [run_nil, Walk.next, Walk.conversation, Walk.conversation, hpending]
    rfl
  | closing name =>
    cases hopened : a.opened with
    | nil =>
      rw [Walk.next, Walk.endElement_of_nil D name hopened]
      exact ⟨[], (List.append_nil _).symm, rfl⟩
    | cons e outer =>
      apply hear_closing named D hopened
      intro hn
      have hopen := hnamed hn
      simp only [Walk.names, hopened, List.map_cons, openNames] at hopen
      by_contra hne
      rw [if_neg hne] at hopen
      cases hopen

/-- What has kept to the protocol goes on keeping to it. -/
theorem run_hear_follow (named : Bool) (D : SAXParsable W P) {start : Conversation W P}
    {events : List Event} {a : Walk W P}
    (hnamed : named = true → (openNames a.names events).isSome)
    (hcalls : run (hear named D) start a.host.calls = .ok a.conversation) :
    run (hear named D) start (a.follow D events).host.calls =
      .ok (a.follow D events).conversation := by
  induction events generalizing a with
  | nil => exact hcalls
  | cons event events ih =>
    rw [Walk.follow_cons]
    apply ih
    · intro hn
      rw [Walk.openNames_next D (hnamed hn)]
      exact hnamed hn
    · obtain ⟨said, hsaid, hrun⟩ := hear_next named D hnamed
      rw [hsaid, run_append_ok hcalls]
      exact hrun

end Conversation

/-- **Every run keeps to the protocol with its delegates**, on any stream: played back against
    the delegates alone, each start is said to the delegate whose turn it is and each end to the
    one that is owed it, with what it is owed. The children whose end is owed are the parser's
    stack, and at level 0 nothing is owed. On a well-nested stream the ends also carry the names
    of their starts. -/
theorem calls_conversation [DecidableEq P] (D : SAXParsable W P) (root : P) (world : W)
    (events : List Event) (named : Bool) (hnamed : named = true → WellNested events)
    (s : XMLPushParser W P)
    (h : run (XMLPushParser.handle D) (.init root world) events = .ok s) :
    ∃ c, run (Conversation.hear named D) (.init root world) s.host.calls = .ok c ∧
      c.world = s.host.world ∧
      s.stack.map (·.parseItem) = c.pending.filterMap Pending.child? ++ [root] ∧
      (s.level = 0 → c.pending = []) := by
  obtain ⟨-, rfl⟩ := (run_ok_iff D).mp h
  have hroot : (Walk.after D root world events).root = root := root_after ..
  refine ⟨(Walk.after D root world events).conversation, ?_, rfl, ?_, ?_⟩
  · exact Conversation.run_hear_follow named D (a := .init root world) hnamed rfl
  · refine (map_parseItem_stackOf _ _).trans ?_
    rw [hroot, ← filterMap_child?_pendingOf]
    rfl
  · intro hlevel
    have hopened : (Walk.after D root world events).opened = [] :=
      List.length_eq_zero_iff.mp (Int.ofNat_eq_zero.mp hlevel)
    simp only [Walk.conversation, hopened]
    rfl

/-- `<c><d></x></y><c>`: ends under other names, and a child that stays open. -/
theorem misnamed_conversation :
    ∃ c, run (Conversation.hear false lettered) (.init 0 ())
        [.startElement 0 { localName := "c" } ∅, .startElement 1 { localName := "d" } ∅,
          .endDataElement 1 { localName := "x" } ∅ [], .endChildElement 0 { localName := "y" } 1,
          .startElement 0 { localName := "c" } ∅] = .ok c ∧ c.world = () ∧
      [1, 0] = c.pending.filterMap Pending.child? ++ [0] ∧ ((1 : Int) = 0 → c.pending = []) :=
  calls_conversation lettered 0 () [startTag "c", startTag "d", endTag "x", endTag "y", startTag "c"]
    false (fun h => absurd h (by simp)) _ rfl

end XMLPush

import Mathlib.Data.List.Induction
import XMLPush.Lib.Brackets
import XMLPush.Proof.Calls
import XMLPush.Proof.Fields

/-!
# Elements whose start is rejected

A start callback without a local name is rejected: an error is recorded, and the handler of
elements never hears of it. The end callback that belongs to it is not: it goes on under an
empty name, lowers the level, and ends whatever element is open around the rejected one.

So it takes only the end. As long as it has not come the rejected element has changed nothing
(`run_withoutRejected`), and once it has, the level is lower than it was before the start
(`level_lt_of_rejected`). `intact_iff` puts the two together: the rejected elements of a
sequence of callbacks leave the rest of it intact if and only if none of them is ended by a
parser that is still running.
-/

set_option autoImplicit false

namespace XMLPush

open Nesting
open Machine
open LibXMLPushSAXParser

variable {Ctx W P : Type}

/-! ## Callbacks as brackets -/

namespace SAXCallback

/-- A callback starts an element, ends one, or does neither. -/
def kind : SAXCallback → Brackets.Kind
  | .startElementNs _ _ _ _ _ _ => .opening
  | .endElementNs _ _ _ _ => .closing
  | .characters _ _ _ => .other
  | .error _ => .other

/-- A start that is rejected with "No local name for element". -/
def isRejected : SAXCallback → Bool
  | .startElementNs memory localname _ _ _ _ => (getString memory localname).isNone
  | .endElementNs _ _ _ _ => false
  | .characters _ _ _ => false
  | .error _ => false

/-- The element events of some callbacks. -/
def elements (callbacks : List SAXCallback) : List Event :=
  elementsOf (callbacks.map SAXCallback.event)

/-- The callbacks without those of the elements that are rejected. -/
def withoutRejected (callbacks : List SAXCallback) : List SAXCallback :=
  Brackets.kept kind isRejected [] callbacks

theorem elements_append (xs ys : List SAXCallback) :
    elements (xs ++ ys) = elements xs ++ elements ys := by
  unfold elements
  rw [List.map_append, elementsOf_append]

theorem kind_of_isRejected {callback : SAXCallback} (h : callback.isRejected = true) :
    callback.kind = .opening := by
  cases callback with
  | startElementNs => rfl
  | endElementNs => cases h
  | characters => cases h
  | error => cases h

/-- A rejected start is a report. -/
theorem event_of_isRejected {callback : SAXCallback} (h : callback.isRejected = true) :
    callback.event = .errorOccurred "No local name for element" := by
  cases callback with
  | startElementNs memory localname =>
    have hnone : getString memory localname = none := Option.isNone_iff_eq_none.mp h
    simp only [event, hnone]
  | endElementNs => cases h
  | characters => cases h
  | error => cases h

theorem elements_cons_of_isRejected {callback : SAXCallback} (h : callback.isRejected = true)
    (callbacks : List SAXCallback) : elements (callback :: callbacks) = elements callbacks := by
  simp only [elements, List.map_cons, event_of_isRejected h, elementsOf_cons_errorOccurred]

/-- What a callback that is not rejected comes to: an element event of its kind, or none if it
    neither starts nor ends an element. -/
theorem event_cases {callback : SAXCallback} (h : callback.isRejected = false) :
    (∃ event : Event, callback.event = .element event ∧ event.kind = callback.kind) ∨
      (∃ message, callback.event = .errorOccurred message) ∧ callback.kind = .other := by
  cases callback with
  | startElementNs memory localname nsPrefix uri nb_attributes attributes =>
    cases hname : getString memory localname with
    | none => simp [isRejected, hname] at h
    | some elementLocalName =>
      refine Or.inl ⟨.opening
        { nsPrefix := getString memory nsPrefix
          URI := getString memory uri
          localName := elementLocalName }
        (elementAttributes memory
          (LibXMLRawAttribute.getBufferPointerWithStart attributes nb_attributes)), ?_, rfl⟩
      simp only [event, hname]
  | endElementNs => exact Or.inl ⟨_, rfl, rfl⟩
  | characters memory ch len =>
    cases ch with
    | none => exact Or.inr ⟨⟨_, rfl⟩, rfl⟩
    | some ch => exact Or.inl ⟨_, rfl, rfl⟩
  | error => exact Or.inr ⟨⟨_, rfl⟩, rfl⟩

/-- Without a rejected start the element events nest as the callbacks do. -/
theorem depth_elements {callbacks : List SAXCallback}
    (h : ∀ callback ∈ callbacks, callback.isRejected = false) (n : Nat) :
    Brackets.depth Token.kind n (elements callbacks) = Brackets.depth kind n callbacks := by
  induction callbacks generalizing n with
  | nil => rfl
  | cons callback callbacks ih =>
    have hrest := ih fun c hc => h c (List.mem_cons_of_mem _ hc)
    rcases event_cases (h callback List.mem_cons_self) with ⟨event, hevent, hkind⟩ |
      ⟨⟨message, hevent⟩, hkind⟩
    · have hstep : Brackets.depthStep Token.kind n event = Brackets.depthStep kind n callback := by
        simp only [Brackets.depthStep, hkind]
      simp only [elements, List.map_cons, hevent, elementsOf_cons_element, Brackets.depth_cons, hstep]
      exact congrArg _ (funext hrest)
    · have hstep : Brackets.depthStep kind n callback = some n := by
        simp only [Brackets.depthStep, hkind]
      simp only [elements, List.map_cons, hevent, elementsOf_cons_errorOccurred,
        Brackets.depth_cons, hstep]
      exact hrest n

/-- The element events raise the level by no more than the callbacks raise the depth: a
    rejected start raises only the latter. -/
theorem height_elements (callbacks : List SAXCallback) :
    Brackets.height Token.kind (elements callbacks) ≤ Brackets.height kind callbacks := by
  induction callbacks with
  | nil => exact Int.le_refl 0
  | cons callback callbacks ih =>
    rw [Brackets.height_cons]
    cases hrejected : callback.isRejected with
    | true =>
      -- Here the two part: the callback opens, and there is no event.
      rw [elements_cons_of_isRejected hrejected, kind_of_isRejected hrejected,
        Brackets.Kind.rise_opening]
      omega
    | false =>
      rcases event_cases hrejected with ⟨event, hevent, hkind⟩ | ⟨⟨message, hevent⟩, hkind⟩
      · simp only [elements, List.map_cons, hevent, elementsOf_cons_element, Brackets.height_cons,
          hkind] at ih ⊢
        omega
      · simp only [elements, List.map_cons, hevent, elementsOf_cons_errorOccurred, hkind,
          Brackets.Kind.rise_other] at ih ⊢
        omega

theorem isRejected_of_mem_withoutRejected {callbacks : List SAXCallback} {callback : SAXCallback}
    (h : callback ∈ withoutRejected callbacks) : callback.isRejected = false := by
  cases hrejected : callback.isRejected with
  | false => rfl
  | true =>
    rw [← hrejected]
    exact Brackets.not_marked_of_mem_kept h (kind_of_isRejected hrejected)

/-- What is kept of balanced callbacks is a balanced stream. -/
theorem balanced_withoutRejected {callbacks : List SAXCallback}
    (h : Brackets.Balanced kind callbacks) :
    Brackets.Balanced Token.kind (elements (withoutRejected callbacks)) := by
  obtain ⟨opened, hopened⟩ := Brackets.balanced_iff.mp h
  unfold Brackets.Balanced
  rw [depth_elements fun _ => isRejected_of_mem_withoutRejected]
  exact Brackets.balanced_iff.mpr ⟨_, Brackets.unclosed_kept hopened⟩

/-- …and runs to its end exactly when no data element it closes holds another. -/
theorem run_withoutRejected_iff (D : SAXParsable W P) (root : P) (world : W)
    {callbacks : List SAXCallback} (h : Brackets.Balanced kind callbacks)
    {s : XMLPushParser W P} :
    run (XMLPushParser.handle D) (.init root world) (elements (withoutRejected callbacks)) =
        .ok s ↔
      (Walk.after D root world (elements (withoutRejected callbacks))).NoDataInClosedData ∧
        s = (Walk.after D root world (elements (withoutRejected callbacks))).parser :=
  run_balanced_iff D root world (balanced_withoutRejected h)

end SAXCallback

open SAXCallback

/-! ## Levels -/

namespace XMLPushParser

variable {D : SAXParsable W P} {s s' : XMLPushParser W P}

/-- The body of `endElementWithPrefix` leaves the level to the `defer` block. -/
theorem endElementBody_level {name : ElementName} (h : s.endElementBody D name = .ok s') :
    s'.level = s.level := by
  unfold endElementBody at h
  split at h
  · cases h
    rfl
  · split at h
    · cases h
    · split at h
      · obtain ⟨current, -, hreturn⟩ := bind_eq_ok h
        cases hreturn
        rfl
      · obtain ⟨current, -, hrest⟩ := bind_eq_ok h
        split at hrest
        · cases hrest
        · split at hrest
          · cases hrest
          · cases hrest
            rfl

theorem startElementWithPrefix_level {name : ElementName} {attributes : Attributes}
    (h : s.startElementWithPrefix D name attributes = .ok s') : s'.level = s.level + 1 := by
  unfold startElementWithPrefix at h
  dsimp only at h
  split at h
  · cases h
    rfl
  · obtain ⟨current, -, hreturn⟩ := bind_eq_ok h
    cases hreturn
    unfold answered
    split
    · rfl
    · rfl
    · rfl

/-- An event raises the level as it raises the depth. -/
theorem handle_level {event : Event} (h : handle D s event = .ok s') :
    s'.level = s.level + event.kind.rise := by
  cases event with
  | opening name attributes => exact startElementWithPrefix_level h
  | text characters =>
    cases h
    exact (Int.add_zero _).symm
  | closing name =>
    obtain ⟨t, hbody, hreturn⟩ := bind_eq_ok h
    cases hreturn
    show t.level - 1 = s.level + -1
    rw [endElementBody_level hbody]
    rfl

theorem run_level {events : List Event} (h : run (handle D) s events = .ok s') :
    s'.level = s.level + Brackets.height Token.kind events := by
  induction events generalizing s with
  | nil =>
    cases h
    exact (Int.add_zero _).symm
  | cons event events ih =>
    obtain ⟨t, hstep, hrest⟩ := run_cons_ok_iff.mp h
    rw [ih hrest, handle_level hstep, Brackets.height_cons, Int.add_assoc]

end XMLPushParser

/-! ## Callbacks on a fresh parser -/

section Delivered

variable (lib : LibXML2 Ctx) (D : SAXParsable W P) (root : P) (world : W)

/-- The callbacks made on a fresh parser, one after the other. -/
def delivered (callbacks : List SAXCallback) : Except Trap (XMLPushParser.Object Ctx W P) :=
  run (SAXCallback.dispatch (XMLPushParser.handle D)) (XMLPushParser.fresh lib root world) callbacks

variable {lib D root world}

theorem delivered_eq (callbacks : List SAXCallback) :
    delivered lib D root world callbacks =
      (run (XMLPushParser.handle D) (.init root world) (elements callbacks)).map fun subclass =>
        { (XMLPushParser.fresh lib root world).record
            (reportsOf (callbacks.map SAXCallback.event)) with subclass := subclass } :=
  run_dispatch (XMLPushParser.handle D) callbacks (XMLPushParser.fresh lib root world)

/-- The element state they leave is that of their element events. -/
theorem run_of_delivered {callbacks : List SAXCallback} {s : XMLPushParser.Object Ctx W P}
    (h : delivered lib D root world callbacks = .ok s) :
    run (XMLPushParser.handle D) (.init root world) (elements callbacks) = .ok s.subclass := by
  rw [delivered_eq] at h
  cases hrun : run (XMLPushParser.handle D) (.init root world) (elements callbacks) with
  | error trap =>
    rw [hrun] at h
    cases h
  | ok subclass =>
    rw [hrun] at h
    cases h
    rfl

theorem delivered_of_run (lib : LibXML2 Ctx) {callbacks : List SAXCallback} {subclass : XMLPushParser W P}
    (h : run (XMLPushParser.handle D) (.init root world) (elements callbacks) = .ok subclass) :
    ∃ s, delivered lib D root world callbacks = .ok s ∧ s.subclass = subclass := by
  rw [delivered_eq, h]
  exact ⟨_, rfl, rfl⟩

theorem delivered_eq_error_iff {callbacks : List SAXCallback} {trap : Trap} :
    delivered lib D root world callbacks = .error trap ↔
      run (XMLPushParser.handle D) (.init root world) (elements callbacks) = .error trap := by
  rw [delivered_eq]
  cases run (XMLPushParser.handle D) (.init root world) (elements callbacks) with
  | error trap' => simp [Except.map]
  | ok subclass => simp [Except.map]

/-- A report among the callbacks is an error recorded. -/
theorem recorded_of_delivered {callbacks : List SAXCallback} {s : XMLPushParser.Object Ctx W P}
    (h : delivered lib D root world callbacks = .ok s) {callback : SAXCallback}
    (hmem : callback ∈ callbacks) {message : String}
    (hevent : callback.event = .errorOccurred message) :
    s.error ≠ none ∧ Effect.errorOccurred message ∈ s.log := by
  have hreport : message ∈ reportsOf (callbacks.map SAXCallback.event) :=
    List.mem_filterMap.mpr ⟨_, List.mem_map_of_mem hmem, by rw [hevent]; rfl⟩
  rw [delivered_eq] at h
  cases hrun : run (XMLPushParser.handle D) (.init root world) (elements callbacks) with
  | error trap =>
    rw [hrun] at h
    cases h
  | ok subclass =>
    rw [hrun] at h
    cases h
    refine ⟨?_, List.mem_append_right _ (List.mem_map_of_mem hreport)⟩
    obtain ⟨last, hlast⟩ := Option.ne_none_iff_exists'.mp
      (mt List.getLast?_eq_none_iff.mp (List.ne_nil_of_mem hreport))
    show ((reportsOf (callbacks.map SAXCallback.event)).getLast?.map _).or _ ≠ none
    rw [hlast]
    exact nofun

theorem delivered_of_append {xs ys : List SAXCallback} {s : XMLPushParser.Object Ctx W P}
    (h : delivered lib D root world (xs ++ ys) = .ok s) :
    ∃ t, delivered lib D root world xs = .ok t := by
  obtain ⟨t, ht, -⟩ := run_append_ok_iff.mp h
  exact ⟨t, ht⟩

end Delivered

/-! ## Rejected elements -/

/-- An element whose start is rejected: the start, the callbacks inside it, and its end. -/
structure RejectedElement (start : SAXCallback) (inner : List SAXCallback)
    (finish : SAXCallback) : Prop where
  start : start.isRejected = true
  inner : Brackets.Complete kind inner
  finish : finish.kind = .closing

section Rejected

variable {lib : LibXML2 Ctx} {D : SAXParsable W P} {root : P} {world : W}
  {callbacks before inner : List SAXCallback} {start finish : SAXCallback}

/-- The callbacks up to an end are those before it, and the end. -/
theorem append_cons_concat (before inner : List SAXCallback) (start finish : SAXCallback) :
    before ++ start :: (inner ++ [finish]) = (before ++ start :: inner) ++ [finish] := by
  rw [List.append_assoc, List.cons_append]

theorem isPrefix_of_concat (h : before ++ start :: (inner ++ [finish]) <+: callbacks) :
    before ++ start :: inner <+: callbacks := by
  rw [append_cons_concat] at h
  exact (List.prefix_append _ _).trans h

/-- The end of a rejected element leaves the level below the one its start found. -/
theorem level_lt_of_rejected (hrejected : RejectedElement start inner finish)
    {s₀ s : XMLPushParser.Object Ctx W P} (hbefore : delivered lib D root world before = .ok s₀)
    (hafter : delivered lib D root world (before ++ start :: (inner ++ [finish])) = .ok s) :
    s.subclass.level < s₀.subclass.level := by
  have hrun := run_of_delivered hafter
  rw [elements_append, elements_cons_of_isRejected hrejected.start,
    run_append_ok (run_of_delivered hbefore)] at hrun
  have hlevel := XMLPushParser.run_level hrun
  -- The start is no event, what is inside raises nothing, and the end lowers by one.
  have hheight := height_elements (inner ++ [finish])
  rw [Brackets.height_append, hrejected.inner.height, Brackets.height_cons, Brackets.height_nil,
    hrejected.finish, Brackets.Kind.rise_closing] at hheight
  omega

/-- The end of a rejected element is not kept. -/
theorem withoutRejected_finish (hrejected : RejectedElement start inner finish)
    (hbalanced : Brackets.Balanced kind (before ++ start :: inner)) :
    withoutRejected (before ++ start :: (inner ++ [finish])) =
      withoutRejected (before ++ start :: inner) := by
  obtain ⟨opened, hopened⟩ := Brackets.balanced_iff.mp hbalanced.of_append
  have hunclosed := Brackets.unclosed_opening hopened (kind_of_isRejected hrejected.start)
    hrejected.inner
  have hstep : Brackets.unclosedStep kind (start :: opened) finish = some opened := by
    simp only [Brackets.unclosedStep, hrejected.finish, List.tail?_cons]
  have hdrops : Brackets.drops kind isRejected (start :: opened) finish = true := by
    simp only [Brackets.drops, hrejected.finish, List.head?_cons, Option.any_some, hrejected.start]
  have hkept : withoutRejected (before ++ start :: inner ++ [finish]) = _ :=
    Brackets.kept_concat hunclosed hstep
  rw [if_pos hdrops, List.append_nil] at hkept
  rw [append_cons_concat]
  exact hkept

end Rejected

/-- No rejected element is ended by a parser that is still running: each is open where the
    callbacks stop, or a data element has closed over another one before its end, and crashed the
    parser. -/
def RejectedStayOpen (D : SAXParsable W P) (root : P) (world : W)
    (callbacks : List SAXCallback) : Prop :=
  ∀ before start inner finish, RejectedElement start inner finish →
    before ++ start :: (inner ++ [finish]) <+: callbacks →
      ¬ (Walk.after D root world
        (elements (withoutRejected (before ++ start :: inner)))).NoDataInClosedData

/-- The rejected elements of the callbacks leave the rest intact, over every prefix. -/
structure Intact (lib : LibXML2 Ctx) (D : SAXParsable W P) (root : P) (world : W)
    (callbacks : List SAXCallback) : Prop where
  /-- Each leaves its error recorded. -/
  recorded : ∀ before start after s, start.isRejected = true →
    before ++ start :: after <+: callbacks →
      delivered lib D root world (before ++ start :: after) = .ok s →
        s.error ≠ none ∧ Effect.errorOccurred "No local name for element" ∈ s.log
  /-- None is the cause of a trap: the callbacks without them trap as well. -/
  traps : ∀ callbacks' trap, callbacks' <+: callbacks →
    delivered lib D root world callbacks' = .error trap →
      delivered lib D root world (withoutRejected callbacks') = .error trap
  /-- Its end leaves the fields as its start found them. -/
  restored : ∀ before start inner finish s₀ s, RejectedElement start inner finish →
    before ++ start :: (inner ++ [finish]) <+: callbacks →
      delivered lib D root world before = .ok s₀ →
        delivered lib D root world (before ++ start :: (inner ++ [finish])) = .ok s →
          s.subclass.level = s₀.subclass.level ∧ s.subclass.stack = s₀.subclass.stack ∧
            s.subclass.ignoreElementsUntilLevel = s₀.subclass.ignoreElementsUntilLevel
  /-- The delegates are told what they are told without them, and so of no end of an element
      that is still open. -/
  told : ∀ callbacks' s, callbacks' <+: callbacks →
    delivered lib D root world callbacks' = .ok s →
      ∃ t, delivered lib D root world (withoutRejected callbacks') = .ok t ∧
        s.subclass.host.calls = t.subclass.host.calls
  /-- The root entry is on the stack. -/
  root : ∀ callbacks' s, callbacks' <+: callbacks →
    delivered lib D root world callbacks' = .ok s →
      s.subclass.stack.getLast? = some ⟨root, 0⟩

/-- **What is rejected and not ended changes nothing**: the element state is the one the
    callbacks leave without the rejected elements. The induction is from the left, over the
    callbacks made so far. -/
theorem run_withoutRejected {D : SAXParsable W P} {root : P} {world : W}
    {callbacks : List SAXCallback} (hbalanced : Brackets.Balanced kind callbacks)
    (hopen : RejectedStayOpen D root world callbacks) (callbacks' : List SAXCallback)
    (hpart : callbacks' <+: callbacks) :
    run (XMLPushParser.handle D) (.init root world) (elements callbacks') =
      run (XMLPushParser.handle D) (.init root world) (elements (withoutRejected callbacks')) := by
  induction callbacks' using List.reverseRecOn with
  | nil => rfl
  | append_singleton sofar callback ih =>
    have hsofar : sofar <+: callbacks := (List.prefix_append _ _).trans hpart
    have hrun := ih hsofar
    obtain ⟨opened, hopened⟩ := Brackets.balanced_iff.mp (hbalanced.of_isPrefix hsofar)
    obtain ⟨opened', hopened'⟩ := Brackets.balanced_iff.mp (hbalanced.of_isPrefix hpart)
    rw [Brackets.unclosed_concat, hopened, Option.bind_some] at hopened'
    have hkept : withoutRejected (sofar ++ [callback]) = _ := Brackets.kept_concat hopened hopened'
    rw [hkept, elements_append, elements_append]
    by_cases hdrops : Brackets.drops kind isRejected opened callback = true
    · rw [if_pos hdrops]
      show _ = run _ _ (elements (withoutRejected sofar) ++ [])
      rw [List.append_nil]
      rcases Brackets.drops_cases hdrops with ⟨-, hrejected⟩ | ⟨hclosing, start, outer, rfl, hstart⟩
      · -- A rejected start is no element event.
        rw [elements_cons_of_isRejected hrejected]
        show run _ _ (elements sofar ++ []) = _
        rw [List.append_nil]
        exact hrun
      · -- The end of a rejected element comes too late to do anything.
        obtain ⟨before, inner, rfl, -, -, hinner⟩ := Brackets.exists_of_unclosed hopened
        rw [← append_cons_concat] at hpart
        have hcrashed := hopen before start inner callback ⟨hstart, hinner, hclosing⟩ hpart
        cases hkeptrun : run (XMLPushParser.handle D) (.init root world)
            (elements (withoutRejected (before ++ start :: inner))) with
        | ok s =>
          have hno := ((run_withoutRejected_iff D root world
            (hbalanced.of_isPrefix hsofar)).mp hkeptrun).1
          exact absurd hno hcrashed
        | error trap => exact run_append_error (hrun.trans hkeptrun) _
    · rw [if_neg hdrops]
      exact run_append_congr hrun _

/-- …so a parser that is still running has not seen its end. -/
theorem rejected_not_ended {lib : LibXML2 Ctx} {D : SAXParsable W P} {root : P} {world : W}
    {callbacks : List SAXCallback} (hbalanced : Brackets.Balanced kind callbacks)
    (hopen : RejectedStayOpen D root world callbacks) {before inner : List SAXCallback}
    {start finish : SAXCallback} (hrejected : RejectedElement start inner finish)
    (hpart : before ++ start :: (inner ++ [finish]) <+: callbacks)
    (s : XMLPushParser.Object Ctx W P) :
    delivered lib D root world (before ++ start :: (inner ++ [finish])) ≠ .ok s := by
  intro hs
  have hshorter := isPrefix_of_concat hpart
  rw [append_cons_concat] at hs
  obtain ⟨t, ht⟩ := delivered_of_append hs
  have hrun := run_of_delivered ht
  rw [run_withoutRejected hbalanced hopen _ hshorter] at hrun
  have hno := ((run_withoutRejected_iff D root world (hbalanced.of_isPrefix hshorter)).mp hrun).1
  exact hopen before start inner finish hrejected hpart hno

/-- **The rejected elements leave the rest intact if and only if none of them is ended** by a
    parser that is still running. -/
theorem intact_iff (lib : LibXML2 Ctx) (D : SAXParsable W P) (root : P) (world : W)
    (callbacks : List SAXCallback) (hbalanced : Brackets.Balanced kind callbacks) :
    Intact lib D root world callbacks ↔ RejectedStayOpen D root world callbacks := by
  constructor
  · intro hintact before start inner finish hrejected hpart hno
    have hshorter := isPrefix_of_concat hpart
    have hkept := withoutRejected_finish hrejected (hbalanced.of_isPrefix hshorter)
    have hkeptrun := (run_withoutRejected_iff D root world
      (hbalanced.of_isPrefix hshorter)).mpr ⟨hno, rfl⟩
    -- The end has not trapped, for there is nothing it could have trapped on.
    cases hafter : delivered lib D root world (before ++ start :: (inner ++ [finish])) with
    | error trap =>
      have htrap := hintact.traps _ trap hpart hafter
      rw [hkept, delivered_eq_error_iff, hkeptrun] at htrap
      cases htrap
    | ok s =>
      obtain ⟨s₀, hbefore⟩ := delivered_of_append hafter
      have hlevel := (hintact.restored before start inner finish s₀ s hrejected hpart hbefore
        hafter).1
      exact absurd hlevel (Int.ne_of_lt (level_lt_of_rejected hrejected hbefore hafter))
  · intro hopen
    have hruns := run_withoutRejected hbalanced hopen
    refine ⟨?_, ?_, ?_, ?_, ?_⟩
    · intro before start after s hrejected hpart hs
      exact recorded_of_delivered hs (by simp) (event_of_isRejected hrejected)
    · intro callbacks' trap hpart htrap
      rw [delivered_eq_error_iff] at htrap ⊢
      rw [← hruns callbacks' hpart]
      exact htrap
    · intro before start inner finish s₀ s hrejected hpart _ hs
      exact absurd hs (rejected_not_ended hbalanced hopen hrejected hpart s)
    · intro callbacks' s hpart hs
      have hrun := run_of_delivered hs
      rw [hruns callbacks' hpart] at hrun
      obtain ⟨t, ht, hsubclass⟩ := delivered_of_run lib hrun
      exact ⟨t, ht, by rw [hsubclass]⟩
    · intro callbacks' s hpart hs
      have hrun := run_of_delivered hs
      rw [hruns callbacks' hpart] at hrun
      obtain ⟨-, hparser⟩ := (run_withoutRejected_iff D root world
        (hbalanced.of_isPrefix hpart)).mp hrun
      rw [hparser, List.getLast?_eq_head?_reverse]
      simp only [Walk.parser, root_after, stackOf_reverse, List.head?_cons]

/-- An element without a local name starts in `<c>`, and some text in it: it is not ended. -/
def namelessOpen : List SAXCallback :=
  [.startElementNs [99, 0] (some 0) none none 0 [],
    .startElementNs [] none none none 0 [],
    .characters [116] (some 0) 1]

/-- Up to there all is well. -/
theorem namelessOpen_intact : Intact silent lettered 0 () namelessOpen := by
  refine (intact_iff silent lettered 0 () namelessOpen (by decide)).mpr ?_
  intro before start inner finish hrejected hpart
  have hmem : finish ∈ namelessOpen := hpart.subset (by simp)
  have hfinish := hrejected.finish
  simp only [namelessOpen, List.mem_cons, List.not_mem_nil, or_false] at hmem
  rcases hmem with rfl | rfl | rfl
  · cases hfinish
  · cases hfinish
  · cases hfinish

/-- It is ended, and so is `<c>`. -/
def namelessEnded : List SAXCallback :=
  [.startElementNs [99, 0] (some 0) none none 0 [],
    .startElementNs [] none none none 0 [],
    .endElementNs [] none none none,
    .endElementNs [99, 0] (some 0) none none]

/-- Its end ends `<c>`: the root's delegate is told so, under an empty name, while `<c>` is
    open and the level is back at 0. The end of `<c>` then takes the root entry off the stack,
    and traps. -/
theorem namelessEnded_not_intact :
    Brackets.Balanced kind namelessEnded ∧ ¬ Intact silent lettered 0 () namelessEnded ∧
      (∃ s, delivered silent lettered 0 () (namelessEnded.take 3) = .ok s ∧
        s.subclass.level = 0 ∧
        s.subclass.host.calls.getLast? = some (.endChildElement 0 { localName := "" } 1)) ∧
      delivered silent lettered 0 () namelessEnded = .error .emptyStack := by
  refine ⟨by decide, ?_, ⟨_, rfl, rfl, rfl⟩, rfl⟩
  intro hintact
  have htrap := hintact.traps namelessEnded .emptyStack List.prefix_rfl rfl
  cases htrap

end XMLPush

import XMLPush.Session.Chunk

/-!
# The lifetime of a parser

A parser may be called in any order, as often as one likes. `Kept` is what holds between
calls, of every parser whose context was created:

* the slot holds an error exactly when one was ever recorded;
* the log is feeding, and at most once, at its end, the release: `xmlFreeParserCtxt` and
  `deinitialize`, next to each other;
* a live context is the one libxml2 leaves after some data chunks, and the subclass is what
  the element events of those chunks made of it.

Each call keeps it (`Kept.step`), so every sequence of calls does, and what one call returns
is then read off its cases.
-/

set_option autoImplicit false

namespace XMLPush

open Nesting
open Machine

variable {Ctx σ W P : Type}

namespace LibXMLPushSAXParser

/-! ## What a call of the public interface can do -/

/-- How a call ends, if it does not trap. -/
inductive Ends (handle : σ → Event → Except Trap σ) (lib : LibXML2 Ctx)
    (s : LibXMLPushSAXParser Ctx σ) :
    Call → Outcome Unit → LibXMLPushSAXParser Ctx σ → Prop where
  | finished {call : Call} {outcome : Outcome Unit} {s' : LibXMLPushSAXParser Ctx σ}
      (h : Finished s outcome s') : Ends handle lib s call outcome s'
  | fed {data : Data} {outcome : Outcome Unit} {s' : LibXMLPushSAXParser Ctx σ} {context : Ctx}
      {subclass : σ} (h : Fed handle lib data s outcome s' context subclass) :
      Ends handle lib s (.parseData data) outcome s'
  | threw {data : Data} {outcome : Outcome Unit} {s' : LibXMLPushSAXParser Ctx σ} {context : Ctx}
      {subclass : σ} (h : Fed handle lib data s outcome s' context subclass)
      (herror : s'.error ≠ none) : Ends handle lib s (.parse data) outcome s'
  | terminated {outcome : Outcome Unit} {s' : LibXMLPushSAXParser Ctx σ} {context : Ctx}
      {subclass : σ} (h : Terminated handle lib s outcome s' context subclass) :
      Ends handle lib s .finishParsing outcome s'
  | parsed {data : Data} {outcome : Outcome Unit} {between s' : LibXMLPushSAXParser Ctx σ}
      {context context' : Ctx} {subclass subclass' : σ}
      (h : Fed handle lib data s (.ok ()) between context subclass)
      (h' : Terminated handle lib between outcome s' context' subclass') :
      Ends handle lib s (.parse data) outcome s'

/-- Without a context every call has nothing to do. -/
theorem Ends.finished_of_none {handle : σ → Event → Except Trap σ} {lib : LibXML2 Ctx}
    {s s' : LibXMLPushSAXParser Ctx σ} {call : Call} {outcome : Outcome Unit}
    (h : Ends handle lib s call outcome s') (hnone : s.context = none) :
    Finished s outcome s' := by
  have hdead : ∀ {context : Ctx}, s.context ≠ some context := by
    intro context hlive
    rw [hnone] at hlive
    cases hlive
  cases h with
  | finished h => exact h
  | fed h => exact absurd h.live hdead
  | threw h _ => exact absurd h.live hdead
  | terminated h => exact absurd h.live hdead
  | parsed h _ => exact absurd h.live hdead

end LibXMLPushSAXParser

open LibXMLPushSAXParser

/-- What a call hands back when it returns: `parse` and `finishParsing` the root. -/
def Call.result (s : XMLPushParser.Object Ctx W P) : Call → Option P
  | .parse _ => some s.subclass.root
  | .parseData _ => none
  | .finishParsing => some s.subclass.root

theorem Call.perform_ends {lib : LibXML2 Ctx} {D : SAXParsable W P}
    {s s' : XMLPushParser.Object Ctx W P} {call : Call} {outcome : Outcome (Option P)}
    (h : call.perform lib D s = .ok (outcome, s')) :
    ∃ base, Ends (XMLPushParser.handle D) lib s call base s' ∧
      outcome = base.map fun _ => call.result s' := by
  cases call with
  | parse data =>
    obtain ⟨⟨outcome₁, t⟩, hparse, hreturn⟩ := bind_eq_ok h
    obtain ⟨⟨base, u⟩, hbase, hreturn₁⟩ := bind_eq_ok hparse
    cases hreturn₁
    cases hreturn
    refine ⟨base, ?_, by cases base <;> rfl⟩
    rcases _parse_cases _ lib hbase with hfin | ⟨c, sub, hfed, herror⟩ | ⟨t, c, sub, c', sub', hfed, hterm⟩
    · exact .finished hfin
    · exact .threw hfed herror
    · exact .parsed hfed hterm
  | parseData data =>
    obtain ⟨⟨base, t⟩, hbase, hreturn⟩ := bind_eq_ok h
    cases hreturn
    refine ⟨base, ?_, by cases base <;> rfl⟩
    rcases _parseData_cases _ lib hbase with hfin | ⟨c, sub, hfed⟩
    · exact .finished hfin
    · exact .fed hfed
  | finishParsing =>
    obtain ⟨⟨outcome₁, t⟩, hfinish, hreturn⟩ := bind_eq_ok h
    obtain ⟨⟨base, u⟩, hbase, hreturn₁⟩ := bind_eq_ok hfinish
    cases hreturn₁
    cases hreturn
    refine ⟨base, ?_, by cases base <;> rfl⟩
    rcases _finishParsing_cases _ lib hbase with hfin | ⟨c, sub, hterm⟩
    · exact .finished hfin
    · exact .terminated hterm

/-! ## Data that fits -/

/-- The length of the data a call passes on is an `Int32`. -/
def Call.Fits : Call → Prop
  | .parse data => data.length ≤ int32Max
  | .parseData data => data.length ≤ int32Max
  | .finishParsing => True

/-- An element handler converts no length: what it traps on is a nil. -/
theorem XMLPushParser.handle_ne_overflow (D : SAXParsable W P) (s : XMLPushParser W P)
    (event : Event) : handle D s event ≠ .error .int32Overflow := by
  have hcurrent : ∀ t : XMLPushParser W P, t.current ≠ .error .int32Overflow := by
    intro t
    unfold current
    split
    · simp
    · simp
  cases event with
  | opening name attributes =>
    simp only [handle, startElementWithPrefix]
    split
    · exact ok_ne_error
    · exact bind_ne_error (hcurrent _) fun _ => ok_ne_error
  | text bytes => exact ok_ne_error
  | closing name =>
    refine bind_ne_error ?_ fun _ => ok_ne_error
    unfold endElementBody
    split
    · exact ok_ne_error
    · split
      · exact nofun
      · split
        · exact bind_ne_error (hcurrent _) fun _ => ok_ne_error
        · refine bind_ne_error (hcurrent _) fun _ => ?_
          split
          · exact nofun
          · split
            · exact nofun
            · exact ok_ne_error

section Fits

variable (lib : LibXML2 Ctx) {handle : σ → Event → Except Trap σ}
  (hhandle : ∀ s event, handle s event ≠ .error .int32Overflow)

include hhandle

theorem xmlParseChunk_ne_overflow (context : Ctx) (chunk : Data) (terminate : Bool)
    (s : LibXMLPushSAXParser Ctx σ) :
    s.xmlParseChunk lib handle context chunk terminate ≠ .error .int32Overflow := by
  apply run_ne_error
  intro _ callback _ t _ _
  rw [callback.dispatch_eq]
  split
  · exact bind_ne_error (hhandle _ _) fun _ => ok_ne_error
  · exact ok_ne_error

theorem _parseData_ne_overflow {data : Data} (hfits : data.length ≤ int32Max)
    (s : LibXMLPushSAXParser Ctx σ) : s._parseData lib handle data ≠ .error .int32Overflow := by
  unfold _parseData
  split
  · exact ok_ne_error
  · rw [if_neg (Nat.not_lt.mpr hfits)]
    exact bind_ne_error (xmlParseChunk_ne_overflow lib hhandle _ _ _ _) fun _ => ok_ne_error

theorem _finishParsing_ne_overflow (s : LibXMLPushSAXParser Ctx σ) :
    s._finishParsing lib handle ≠ .error .int32Overflow := by
  unfold _finishParsing
  split
  · exact ok_ne_error
  · exact bind_ne_error (xmlParseChunk_ne_overflow lib hhandle _ _ _ _) fun _ => ok_ne_error

theorem _parse_ne_overflow {data : Data} (hfits : data.length ≤ int32Max)
    (s : LibXMLPushSAXParser Ctx σ) : s._parse lib handle data ≠ .error .int32Overflow := by
  unfold _parse
  split
  · exact ok_ne_error
  · refine bind_ne_error (_parseData_ne_overflow lib hhandle hfits s) fun result => ?_
    obtain ⟨outcome, t⟩ := result
    cases outcome with
    | error error => exact ok_ne_error
    | ok _ => exact _finishParsing_ne_overflow lib hhandle t

end Fits

/-- A call whose data fits does not trap on its length. -/
theorem Call.perform_ne_overflow (lib : LibXML2 Ctx) (D : SAXParsable W P) {call : Call}
    (hfits : call.Fits) (s : XMLPushParser.Object Ctx W P) :
    call.perform lib D s ≠ .error .int32Overflow := by
  have hhandle := XMLPushParser.handle_ne_overflow D
  cases call with
  | parse data =>
    refine bind_ne_error (bind_ne_error ?_ fun _ => ok_ne_error) fun _ => ok_ne_error
    exact _parse_ne_overflow lib hhandle hfits s
  | parseData data =>
    refine bind_ne_error ?_ fun _ => ok_ne_error
    exact _parseData_ne_overflow lib hhandle hfits s
  | finishParsing =>
    refine bind_ne_error (bind_ne_error ?_ fun _ => ok_ne_error) fun _ => ok_ne_error
    exact _finishParsing_ne_overflow lib hhandle s

theorem Call.perform_of_finished (lib : LibXML2 Ctx) (D : SAXParsable W P)
    {s : XMLPushParser.Object Ctx W P} (h : s.context = none) (call : Call) :
    call.perform lib D s = .ok (.error .usedAfterFinished, s) := by
  cases call with
  | parse data =>
    simp only [perform, XMLPushParser.parse, _parse_of_finished _ lib h]
    rfl
  | parseData data =>
    simp only [perform, XMLPushParser.parseData, _parseData_of_finished _ lib h]
    rfl
  | finishParsing =>
    simp only [perform, XMLPushParser.finishParsing, _finishParsing_of_finished _ lib h]
    rfl

/-- What is passed on by calls made while the context is live fits. After that the length is not
    looked at. -/
def FitWhileLive (lib : LibXML2 Ctx) (D : SAXParsable W P) (s : XMLPushParser.Object Ctx W P)
    (calls : List Call) : Prop :=
  ∀ earlier call later t, calls = earlier ++ call :: later →
    performAll lib D s earlier = .ok t → t.context.isSome = true → call.Fits

theorem performAll_ne_overflow {lib : LibXML2 Ctx} {D : SAXParsable W P} {calls : List Call}
    {s : XMLPushParser.Object Ctx W P} (hfits : FitWhileLive lib D s calls) :
    performAll lib D s calls ≠ .error .int32Overflow := by
  apply run_ne_error
  intro earlier call later t hsplit hearlier
  refine bind_ne_error ?_ fun _ => ok_ne_error
  cases hcontext : t.context with
  | none =>
    rw [Call.perform_of_finished lib D hcontext]
    exact ok_ne_error
  | some context =>
    apply Call.perform_ne_overflow
    apply hfits earlier call later t hsplit hearlier
    rw [hcontext]
    rfl

/-! ## Between calls -/

/-- The effect is a chunk passed to libxml2, or an error recorded. -/
def Effect.isFeeding : Effect → Bool
  | .xmlParseChunk _ _ => true
  | .errorOccurred _ => true
  | .xmlFreeParserCtxt => false
  | .deinitializeUnsafeSelf => false

/-- An error has been recorded at some time. -/
def Recorded (s : LibXMLPushSAXParser Ctx σ) : Prop :=
  ∃ message, Effect.errorOccurred message ∈ s.log

/-- The log is feeding, and the release after it if the context is gone. -/
def Lifetime (s : LibXMLPushSAXParser Ctx σ) : Prop :=
  ∃ feeding : List Effect, (∀ effect ∈ feeding, effect.isFeeding = true) ∧
    ((s.context.isSome = true ∧ s.unsafeSelf = true ∧ s.log = feeding) ∨
      (s.context = none ∧ s.unsafeSelf = false ∧
        s.log = feeding ++ [.xmlFreeParserCtxt, .deinitializeUnsafeSelf]))

/-- What holds of a parser between calls. -/
structure Kept (handle : σ → Event → Except Trap σ) (lib : LibXML2 Ctx) (context₀ : Ctx)
    (subclass₀ : σ) (s : LibXMLPushSAXParser Ctx σ) : Prop where
  recorded : s.error ≠ none ↔ Recorded s
  once : s.once = s.context.isNone
  lifetime : Lifetime s
  chunks : ∀ context, s.context = some context → ∃ chunks,
    context = lib.after context₀ chunks ∧
      run handle subclass₀ (elementsOf (lib.eventsSoFar context₀ chunks)) = .ok s.subclass ∧
      (s.error = none → reportsOf (lib.eventsSoFar context₀ chunks) = [])

namespace Kept

variable {handle : σ → Event → Except Trap σ} {lib : LibXML2 Ctx} {context₀ : Ctx}
  {subclass₀ : σ} {s s' t : LibXMLPushSAXParser Ctx σ}

theorem init (hcreated : lib.xmlCreatePushParserCtxt = some context₀) :
    Kept handle lib context₀ subclass₀ (LibXMLPushSAXParser.init lib subclass₀) where
  recorded := by simp [LibXMLPushSAXParser.init, Recorded]
  once := by simp [LibXMLPushSAXParser.init, hcreated]
  lifetime := ⟨[], by simp, Or.inl ⟨by simp [LibXMLPushSAXParser.init, hcreated], rfl, rfl⟩⟩
  chunks context hcontext := by
    refine ⟨[], ?_, rfl, fun _ => rfl⟩
    simp only [LibXMLPushSAXParser.init, hcreated, Option.some.injEq] at hcontext
    exact hcontext.symm

/-- A parser that is live holds the reference to itself and has released nothing. -/
theorem of_live (h : Kept handle lib context₀ subclass₀ s) {context : Ctx}
    (hlive : s.context = some context) :
    s.unsafeSelf = true ∧ s.once = false ∧ ∀ effect ∈ s.log, effect.isFeeding = true := by
  obtain ⟨feeding, hfeeding, ⟨-, hself, hlog⟩ | ⟨hnone, -, -⟩⟩ := h.lifetime
  · refine ⟨hself, ?_, by rwa [hlog]⟩
    rw [h.once, hlive]
    rfl
  · rw [hlive] at hnone
    cases hnone

/-- A parser that has freed its context has none. -/
theorem context_of_freed (h : Kept handle lib context₀ subclass₀ s)
    (hfreed : Effect.xmlFreeParserCtxt ∈ s.log) : s.context = none := by
  obtain ⟨feeding, hfeeding, ⟨-, -, hlog⟩ | ⟨hnone, -, -⟩⟩ := h.lifetime
  · rw [hlog] at hfreed
    exact absurd (hfeeding _ hfreed) (by simp [Effect.isFeeding])
  · exact hnone

/-- The log of a chunk adds an error exactly when the chunk reports one. -/
theorem recorded_fed (h : Kept handle lib context₀ subclass₀ s) (context : Ctx) (chunk : Data)
    (terminate : Bool) (subclass : σ) :
    (s.fed lib context chunk terminate subclass).error ≠ none ↔
      Recorded (s.fed lib context chunk terminate subclass) := by
  have hlog : Recorded (s.fed lib context chunk terminate subclass) ↔
      Recorded s ∨ reportsOf (lib.chunkEvents context chunk terminate) ≠ [] := by
    simp only [Recorded, fed, List.mem_append, List.mem_cons, reduceCtorEq, false_or,
      List.mem_map, Effect.errorOccurred.injEq, exists_eq_right, exists_or]
    refine or_congr_right ⟨?_, List.exists_mem_of_ne_nil _⟩
    rintro ⟨message, hmem⟩
    exact List.ne_nil_of_mem hmem
  rw [hlog, ← h.recorded, Ne, fed_error_eq_none_iff, not_and_or, or_comm]

theorem feeding_fed (lib : LibXML2 Ctx) (hlog : ∀ effect ∈ s.log, effect.isFeeding = true) (context : Ctx)
    (chunk : Data) (terminate : Bool) (subclass : σ) :
    ∀ effect ∈ (s.fed lib context chunk terminate subclass).log, effect.isFeeding = true := by
  intro effect hmem
  simp only [fed, List.mem_append, List.mem_cons, List.mem_map] at hmem
  rcases hmem with hmem | rfl | ⟨message, -, rfl⟩
  · exact hlog effect hmem
  · rfl
  · rfl

/-- The element events of a chunk go on where the ones so far have stopped. -/
theorem run_chunk (h : Kept handle lib context₀ subclass₀ s) {context : Ctx} {chunk : Data}
    {terminate : Bool} {subclass : σ} (hlive : s.context = some context)
    (hrun : run handle s.subclass (elementsOf (lib.chunkEvents context chunk terminate)) =
      .ok subclass) : ∃ chunks, context = lib.after context₀ chunks ∧
      run handle subclass₀ (elementsOf (lib.eventsSoFar context₀ chunks ++
        lib.chunkEvents (lib.after context₀ chunks) chunk terminate)) = .ok subclass ∧
      (s.error = none → reportsOf (lib.eventsSoFar context₀ chunks) = []) := by
  obtain ⟨chunks, rfl, hsofar, hquiet⟩ := h.chunks context hlive
  refine ⟨chunks, rfl, ?_, hquiet⟩
  rw [elementsOf_append, run_append_ok hsofar]
  exact hrun

/-- Feeding a data chunk keeps it. -/
theorem feed (h : Kept handle lib context₀ subclass₀ s) {data : Data} {outcome : Outcome Unit}
    {context : Ctx} {subclass : σ} (hfed : Fed handle lib data s outcome s' context subclass) :
    Kept handle lib context₀ subclass₀ s' := by
  obtain ⟨hself, honce, hfeeding⟩ := h.of_live hfed.live
  have hlog := feeding_fed lib hfeeding context data false subclass
  rw [hfed.after]
  refine ⟨h.recorded_fed context data false subclass, honce,
    ⟨_, hlog, Or.inl ⟨rfl, hself, rfl⟩⟩, ?_⟩
  intro context' hcontext'
  obtain ⟨chunks, rfl, hrun, hquiet⟩ := h.run_chunk hfed.live hfed.handled
  refine ⟨chunks ++ [data], ?_, ?_, ?_⟩
  · rw [LibXML2.after_append_singleton]
    exact (Option.some.inj hcontext').symm
  · rw [LibXML2.eventsSoFar_append_singleton]
    exact hrun
  · intro hnone
    obtain ⟨hchunk, herror⟩ := (fed_error_eq_none_iff lib).mp hnone
    rw [LibXML2.eventsSoFar_append_singleton, reportsOf_append, hquiet herror, hchunk,
      List.append_nil]

/-- What the terminating chunk leaves: the context is gone. -/
theorem terminate (h : Kept handle lib context₀ subclass₀ s) {outcome : Outcome Unit}
    {context : Ctx} {subclass : σ} (hterm : Terminated handle lib s outcome s' context subclass) :
    Kept handle lib context₀ subclass₀ s' ∧ s'.context = none := by
  obtain ⟨-, honce, hfeeding⟩ := h.of_live hterm.live
  have hlog := feeding_fed lib hfeeding context [] true subclass
  have hcleanup : s' = { s.fed lib context [] true subclass with
      once := true
      context := none
      unsafeSelf := false
      log := (s.fed lib context [] true subclass).log ++ [.xmlFreeParserCtxt, .deinitializeUnsafeSelf] } := by
    have hnot : ¬ (s.fed lib context [] true subclass).once = true := by
      show ¬ s.once = true
      simp [honce]
    rw [hterm.after, cleanupContext, if_neg hnot]
    rfl
  have hrecorded := h.recorded_fed context [] true subclass
  refine ⟨⟨?_, ?_, ?_, ?_⟩, ?_⟩
  · rw [hcleanup]
    refine Iff.trans hrecorded ?_
    simp [Recorded]
  · rw [hcleanup]
    rfl
  · rw [hcleanup]
    exact ⟨_, hlog, Or.inr ⟨rfl, rfl, rfl⟩⟩
  · intro context' hcontext'
    rw [hcleanup] at hcontext'
    cases hcontext'
  · rw [hcleanup]

/-- **Every call keeps it.** -/
theorem step (h : Kept handle lib context₀ subclass₀ s) {call : Call} {outcome : Outcome Unit}
    (hends : Ends handle lib s call outcome s') : Kept handle lib context₀ subclass₀ s' := by
  cases hends with
  | finished hfin =>
    obtain ⟨-, -, rfl⟩ := hfin
    exact h
  | fed hfed => exact h.feed hfed
  | threw hfed _ => exact h.feed hfed
  | terminated hterm => exact (h.terminate hterm).1
  | parsed hfed hterm => exact ((h.feed hfed).terminate hterm).1

/-- **What a call returns**: it returns normally if and only if the context was live and no
    error has been recorded by its end. -/
theorem outcome_iff (h : Kept handle lib context₀ subclass₀ s) {call : Call}
    {outcome : Outcome Unit} (hends : Ends handle lib s call outcome s') :
    outcome = .ok () ↔ s.context.isSome = true ∧ ¬ Recorded s' := by
  have hkept := h.step hends
  rw [← hkept.recorded, not_not]
  have hlive : ∀ {context : Ctx}, s.context = some context →
      outcome = s'.pendingError →
        (outcome = .ok () ↔ s.context.isSome = true ∧ s'.error = none) := by
    intro context hcontext houtcome
    rw [houtcome, pendingError_eq_ok_iff, hcontext]
    simp
  cases hends with
  | finished hfin =>
    obtain ⟨hnone, rfl, -⟩ := hfin
    rw [hnone]
    simp
  | fed hfed => exact hlive hfed.live hfed.outcome
  | threw hfed _ => exact hlive hfed.live hfed.outcome
  | terminated hterm => exact hlive hterm.live hterm.outcome
  | parsed hfed hterm => exact hlive hfed.live hterm.outcome

end Kept

end XMLPush

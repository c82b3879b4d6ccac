import XMLPush.Source.PushSAXParser

/-!
# What one call does

Every entry point comes down to feeding libxml2 one chunk, and what a chunk does to the
parser is decided by the events libxml2 makes of it: its element events go to the
subclass, in order, and its reports to the error slot and the log. The two do not meet —
a handler never sees the error, a report never touches the subclass — so the effect of a
chunk is `fed`: run the one, record the other.

The entry points are then described by cases: what each of them can do, guards included,
once and for all. Nothing after this file unfolds them.
-/

set_option autoImplicit false

namespace XMLPush

open Nesting
open Machine

variable {Ctx σ : Type}

/-! ## Events -/

/-- A callback, decoded: an element event, or a report of an error. -/
inductive SAXEvent where
  | element (event : Event)
  | errorOccurred (message : String)

namespace SAXEvent

def element? : SAXEvent → Option Event
  | element event => some event
  | errorOccurred _ => none

def report? : SAXEvent → Option String
  | element _ => none
  | errorOccurred message => some message

end SAXEvent

/-- What a callback is, to the parser. A start without a local name and characters without a
    pointer are errors. -/
def SAXCallback.event : SAXCallback → SAXEvent
  | .startElementNs memory localname nsPrefix uri nb_attributes attributes =>
    match getString memory localname with
    | none => .errorOccurred "No local name for element"
    | some elementLocalName =>
      .element (.opening
        { nsPrefix := getString memory nsPrefix
          URI := getString memory uri
          localName := elementLocalName }
        (elementAttributes memory
          (LibXMLRawAttribute.getBufferPointerWithStart attributes nb_attributes)))
  | .endElementNs memory localname nsPrefix uri =>
    .element (.closing
      { nsPrefix := getString memory nsPrefix
        URI := getString memory uri
        localName := (getString memory localname).getD "" })
  | .characters memory ch len =>
    match ch with
    | none => .errorOccurred "reported nil characters found"
    | some ch => .element (.text (memory.bytes ch len))
  | .error formatted => .errorOccurred (errorMessage formatted)

/-- The element events of a stream. -/
def elementsOf (events : List SAXEvent) : List Event := events.filterMap SAXEvent.element?

/-- The messages it reports. -/
def reportsOf (events : List SAXEvent) : List String := events.filterMap SAXEvent.report?

@[simp] theorem elementsOf_nil : elementsOf [] = [] := rfl
@[simp] theorem reportsOf_nil : reportsOf [] = [] := rfl

theorem elementsOf_append (xs ys : List SAXEvent) :
    elementsOf (xs ++ ys) = elementsOf xs ++ elementsOf ys := List.filterMap_append

theorem reportsOf_append (xs ys : List SAXEvent) :
    reportsOf (xs ++ ys) = reportsOf xs ++ reportsOf ys := List.filterMap_append

@[simp] theorem elementsOf_cons_element (event : Event) (events : List SAXEvent) :
    elementsOf (.element event :: events) = event :: elementsOf events := rfl
@[simp] theorem elementsOf_cons_errorOccurred (message : String) (events : List SAXEvent) :
    elementsOf (.errorOccurred message :: events) = elementsOf events := rfl
@[simp] theorem reportsOf_cons_element (event : Event) (events : List SAXEvent) :
    reportsOf (.element event :: events) = reportsOf events := rfl
@[simp] theorem reportsOf_cons_errorOccurred (message : String) (events : List SAXEvent) :
    reportsOf (.errorOccurred message :: events) = message :: reportsOf events := rfl

namespace LibXMLPushSAXParser

/-- The parser after some reports. The slot keeps the last one. -/
def record (messages : List String) (s : LibXMLPushSAXParser Ctx σ) :
    LibXMLPushSAXParser Ctx σ :=
  { s with
    error := (messages.getLast?.map .libXML2Error).or s.error
    log := s.log ++ messages.map .errorOccurred }

theorem record_nil (s : LibXMLPushSAXParser Ctx σ) : s.record [] = s := by
  simp [record]

theorem record_cons (message : String) (messages : List String)
    (s : LibXMLPushSAXParser Ctx σ) :
    s.record (message :: messages) = (s.errorOccurred message).record messages := by
  cases messages with
  | nil => simp [record, errorOccurred]
  | cons m ms =>
    simp only [record, errorOccurred, List.getLast?_cons_cons, List.map_cons, List.append_assoc,
      List.cons_append, List.nil_append]
    rw [List.getLast?_eq_some_getLast (List.cons_ne_nil m ms)]
    rfl

end LibXMLPushSAXParser

variable (handle : σ → Event → Except Trap σ)

/-- A callback does what its event says. -/
theorem SAXCallback.dispatch_eq (callback : SAXCallback) (s : LibXMLPushSAXParser Ctx σ) :
    callback.dispatch handle s =
      match callback.event with
      | .element event => s.elementEvent handle event
      | .errorOccurred message => .ok (s.errorOccurred message) := by
  cases callback with
  | startElementNs memory localname nsPrefix uri nb_attributes attributes =>
    simp only [dispatch, XMLPushSAXParserStartElementSAX, event]
    cases getString memory localname with
    | none => rfl
    | some elementLocalName => rfl
  | endElementNs memory localname nsPrefix uri => rfl
  | characters memory ch len =>
    cases ch with
    | none => rfl
    | some ch => rfl
  | error formatted => rfl

/-- **Elements go to the subclass and reports to the slot**, whatever their order. -/
theorem run_dispatch (callbacks : List SAXCallback) (s : LibXMLPushSAXParser Ctx σ) :
    run (SAXCallback.dispatch handle) s callbacks =
      (run handle s.subclass (elementsOf (callbacks.map SAXCallback.event))).map fun subclass =>
        { s.record (reportsOf (callbacks.map SAXCallback.event)) with subclass := subclass } := by
  induction callbacks generalizing s with
  | nil => simp [LibXMLPushSAXParser.record_nil, Except.map]
  | cons callback callbacks ih =>
    have hdispatch := callback.dispatch_eq handle s
    cases hevent : callback.event with
    | element event =>
      rw [hevent] at hdispatch
      rw [List.map_cons, hevent, elementsOf_cons_element, reportsOf_cons_element]
      cases hhandle : handle s.subclass event with
      | error trap =>
        -- What would be reported after the trap is lost on both sides.
        have hfault : callback.dispatch handle s = .error trap := by
          simp only [hdispatch, LibXMLPushSAXParser.elementEvent, hhandle]
          rfl
        rw [run_cons_error hfault, run_cons_error hhandle]
        rfl
      | ok subclass =>
        have hstep : callback.dispatch handle s = .ok { s with subclass := subclass } := by
          simp only [hdispatch, LibXMLPushSAXParser.elementEvent, hhandle]
          rfl
        rw [run_cons_ok hstep, run_cons_ok hhandle, ih]
        rfl
    | errorOccurred message =>
      rw [hevent] at hdispatch
      rw [run_cons_ok hdispatch, ih, List.map_cons, hevent, elementsOf_cons_errorOccurred,
        reportsOf_cons_errorOccurred, LibXMLPushSAXParser.record_cons]
      rfl

/-! ## What libxml2 makes of a chunk -/

namespace LibXML2

variable (lib : LibXML2 Ctx)

/-- The events of one chunk. -/
def chunkEvents (context : Ctx) (chunk : Data) (terminate : Bool) : List SAXEvent :=
  (lib.xmlParseChunk context chunk terminate).1.map SAXCallback.event

/-- The context a chunk leaves. -/
def afterChunk (context : Ctx) (chunk : Data) (terminate : Bool) : Ctx :=
  (lib.xmlParseChunk context chunk terminate).2

/-- The context after the chunks of a document so far. -/
def after (context : Ctx) (chunks : List Data) : Ctx :=
  chunks.foldl (fun context chunk => lib.afterChunk context chunk false) context

/-- The events of the chunks so far. -/
def eventsSoFar : Ctx → List Data → List SAXEvent
  | _, [] => []
  | context, chunk :: chunks =>
    lib.chunkEvents context chunk false ++ eventsSoFar (lib.afterChunk context chunk false) chunks

/-- The events of the terminating chunk. -/
def lastEvents (context : Ctx) (chunks : List Data) : List SAXEvent :=
  lib.chunkEvents (lib.after context chunks) [] true

/-- All the events of a document that arrives in these chunks. -/
def events (context : Ctx) (chunks : List Data) : List SAXEvent :=
  lib.eventsSoFar context chunks ++ lib.lastEvents context chunks

theorem after_append_singleton (context : Ctx) (chunks : List Data) (chunk : Data) :
    lib.after context (chunks ++ [chunk]) =
      lib.afterChunk (lib.after context chunks) chunk false := by
  simp [after]

theorem eventsSoFar_append_singleton (context : Ctx) (chunks : List Data) (chunk : Data) :
    lib.eventsSoFar context (chunks ++ [chunk]) =
      lib.eventsSoFar context chunks ++
        lib.chunkEvents (lib.after context chunks) chunk false := by
  induction chunks generalizing context with
  | nil => simp [eventsSoFar, after]
  | cons c chunks ih =>
    simp only [List.cons_append, eventsSoFar, ih, List.append_assoc]
    rfl

theorem events_nil (context : Ctx) :
    lib.events context [] = lib.chunkEvents context [] true := rfl

theorem events_cons (context : Ctx) (chunk : Data) (chunks : List Data) :
    lib.events context (chunk :: chunks) =
      lib.chunkEvents context chunk false ++
        lib.events (lib.afterChunk context chunk false) chunks := by
  simp only [events, eventsSoFar, List.append_assoc]
  rfl

end LibXML2

/-! ## What a call does with it -/

namespace LibXMLPushSAXParser

variable (lib : LibXML2 Ctx)

/-- The parser after a chunk, if the subclass came through its element events as `subclass`. -/
def fed (context : Ctx) (chunk : Data) (terminate : Bool) (subclass : σ)
    (s : LibXMLPushSAXParser Ctx σ) : LibXMLPushSAXParser Ctx σ :=
  let reports := reportsOf (lib.chunkEvents context chunk terminate)
  { s with
    context := some (lib.afterChunk context chunk terminate)
    error := (reports.getLast?.map .libXML2Error).or s.error
    subclass := subclass
    log := s.log ++ .xmlParseChunk chunk terminate :: reports.map .errorOccurred }

theorem xmlParseChunk_eq (context : Ctx) (chunk : Data) (terminate : Bool)
    (s : LibXMLPushSAXParser Ctx σ) :
    s.xmlParseChunk lib handle context chunk terminate =
      (run handle s.subclass (elementsOf (lib.chunkEvents context chunk terminate))).map
        fun subclass => s.fed lib context chunk terminate subclass := by
  refine (run_dispatch handle _ _).trans ?_
  refine congrArg (Except.map · _) (funext fun subclass => ?_)
  simp [record, fed, LibXML2.chunkEvents, LibXML2.afterChunk]

theorem fed_error_eq_none_iff {context : Ctx} {chunk : Data} {terminate : Bool} {subclass : σ}
    {s : LibXMLPushSAXParser Ctx σ} :
    (s.fed lib context chunk terminate subclass).error = none ↔
      reportsOf (lib.chunkEvents context chunk terminate) = [] ∧ s.error = none := by
  simp [fed]

/-- The last report of a chunk is in the slot after it. -/
theorem fed_error_of_last {context : Ctx} {chunk : Data} {terminate : Bool} {subclass : σ}
    {s : LibXMLPushSAXParser Ctx σ} {message : String}
    (hlast : (reportsOf (lib.chunkEvents context chunk terminate)).getLast? = some message) :
    (s.fed lib context chunk terminate subclass).error = some (.libXML2Error message) := by
  simp only [fed, hlast]
  rfl

/-- Releasing the context leaves the slot as it is… -/
theorem cleanupContext_error (s : LibXMLPushSAXParser Ctx σ) :
    s.cleanupContext.error = s.error := by
  unfold cleanupContext
  split
  · rfl
  · split
    · rfl
    · rfl

/-- …and the subclass… -/
theorem cleanupContext_subclass (s : LibXMLPushSAXParser Ctx σ) :
    s.cleanupContext.subclass = s.subclass := by
  unfold cleanupContext
  split
  · rfl
  · split
    · rfl
    · rfl

/-- …and only adds to the log. -/
theorem cleanupContext_log (s : LibXMLPushSAXParser Ctx σ) : s.log <+: s.cleanupContext.log := by
  unfold cleanupContext
  split
  · exact List.prefix_rfl
  · split
    · exact List.prefix_rfl
    · exact ⟨_, rfl⟩

theorem pendingError_of_none {s : LibXMLPushSAXParser Ctx σ} (h : s.error = none) :
    s.pendingError = .ok () := by
  simp only [pendingError, h]

theorem pendingError_of_some {s : LibXMLPushSAXParser Ctx σ} {error : PushSaxParserErrorCode}
    (h : s.error = some error) : s.pendingError = .error error := by
  simp only [pendingError, h]

theorem pendingError_eq_ok_iff {s : LibXMLPushSAXParser Ctx σ} :
    s.pendingError = .ok () ↔ s.error = none := by
  cases h : s.error with
  | none => simp [pendingError_of_none h]
  | some error => simp [pendingError_of_some h]

/-! ### Entry points, by cases -/

/-- A call on a parser whose context is gone. -/
def Finished (s : LibXMLPushSAXParser Ctx σ) (outcome : Outcome Unit)
    (s' : LibXMLPushSAXParser Ctx σ) : Prop :=
  s.context = none ∧ outcome = .error .usedAfterFinished ∧ s' = s

/-- A call that feeds a data chunk to a live context and throws what is in the slot after. -/
structure Fed (data : Data) (s : LibXMLPushSAXParser Ctx σ) (outcome : Outcome Unit)
    (s' : LibXMLPushSAXParser Ctx σ) (context : Ctx) (subclass : σ) : Prop where
  live : s.context = some context
  fits : data.length ≤ int32Max
  handled : run handle s.subclass (elementsOf (lib.chunkEvents context data false)) = .ok subclass
  after : s' = s.fed lib context data false subclass
  outcome : outcome = s'.pendingError

/-- A call that feeds the terminating chunk, frees the context, and throws what is in the
    slot after. -/
structure Terminated (s : LibXMLPushSAXParser Ctx σ) (outcome : Outcome Unit)
    (s' : LibXMLPushSAXParser Ctx σ) (context : Ctx) (subclass : σ) : Prop where
  live : s.context = some context
  handled : run handle s.subclass (elementsOf (lib.chunkEvents context [] true)) = .ok subclass
  after : s' = (s.fed lib context [] true subclass).cleanupContext
  outcome : outcome = s'.pendingError

theorem _parseData_of_finished {s : LibXMLPushSAXParser Ctx σ} (h : s.context = none)
    (data : Data) : s._parseData lib handle data = .ok (.error .usedAfterFinished, s) := by
  simp only [_parseData, h]

theorem _finishParsing_of_finished {s : LibXMLPushSAXParser Ctx σ} (h : s.context = none) :
    s._finishParsing lib handle = .ok (.error .usedAfterFinished, s) := by
  simp only [_finishParsing, h]

theorem _parse_of_finished {s : LibXMLPushSAXParser Ctx σ} (h : s.context = none)
    (data : Data) : s._parse lib handle data = .ok (.error .usedAfterFinished, s) := by
  simp only [_parse, h]

theorem _parseData_of_live {s : LibXMLPushSAXParser Ctx σ} {context : Ctx}
    (h : s.context = some context) {data : Data} (hfits : data.length ≤ int32Max) :
    s._parseData lib handle data =
      (run handle s.subclass (elementsOf (lib.chunkEvents context data false))).map
        fun subclass =>
          ((s.fed lib context data false subclass).pendingError,
            s.fed lib context data false subclass) := by
  have hnot : ¬ data.length > int32Max := Nat.not_lt.mpr hfits
  simp only [_parseData, h, hnot, if_false, xmlParseChunk_eq]
  cases run handle s.subclass (elementsOf (lib.chunkEvents context data false)) with
  | error trap => rfl
  | ok subclass => rfl

theorem _parseData_of_overflow {s : LibXMLPushSAXParser Ctx σ} {context : Ctx}
    (h : s.context = some context) {data : Data} (hlarge : int32Max < data.length) :
    s._parseData lib handle data = .error .int32Overflow := by
  have : data.length > int32Max := hlarge
  simp only [_parseData, h, this, if_true]

theorem _finishParsing_of_live {s : LibXMLPushSAXParser Ctx σ} {context : Ctx}
    (h : s.context = some context) :
    s._finishParsing lib handle =
      (run handle s.subclass (elementsOf (lib.chunkEvents context [] true))).map
        fun subclass =>
          ((s.fed lib context [] true subclass).cleanupContext.pendingError,
            (s.fed lib context [] true subclass).cleanupContext) := by
  simp only [_finishParsing, h, xmlParseChunk_eq]
  cases run handle s.subclass (elementsOf (lib.chunkEvents context [] true)) with
  | error trap => rfl
  | ok subclass => rfl

/-- What `_parseData` can do. -/
theorem _parseData_cases {s s' : LibXMLPushSAXParser Ctx σ} {data : Data}
    {outcome : Outcome Unit} (h : s._parseData lib handle data = .ok (outcome, s')) :
    Finished s outcome s' ∨ ∃ context subclass, Fed handle lib data s outcome s' context subclass := by
  cases hcontext : s.context with
  | none =>
    rw [_parseData_of_finished handle lib hcontext] at h
    cases h
    exact Or.inl ⟨hcontext, rfl, rfl⟩
  | some context =>
    by_cases hfits : data.length ≤ int32Max
    · rw [_parseData_of_live handle lib hcontext hfits] at h
      cases hrun : run handle s.subclass (elementsOf (lib.chunkEvents context data false)) with
      | error trap =>
        rw [hrun] at h
        cases h
      | ok subclass =>
        rw [hrun] at h
        cases h
        exact Or.inr ⟨context, subclass, hcontext, hfits, hrun, rfl, rfl⟩
    · rw [_parseData_of_overflow handle lib hcontext (Nat.lt_of_not_le hfits)] at h
      cases h

/-- What `_finishParsing` can do. -/
theorem _finishParsing_cases {s s' : LibXMLPushSAXParser Ctx σ} {outcome : Outcome Unit}
    (h : s._finishParsing lib handle = .ok (outcome, s')) :
    Finished s outcome s' ∨
      ∃ context subclass, Terminated handle lib s outcome s' context subclass := by
  cases hcontext : s.context with
  | none =>
    rw [_finishParsing_of_finished handle lib hcontext] at h
    cases h
    exact Or.inl ⟨hcontext, rfl, rfl⟩
  | some context =>
    rw [_finishParsing_of_live handle lib hcontext] at h
    cases hrun : run handle s.subclass (elementsOf (lib.chunkEvents context [] true)) with
    | error trap =>
      rw [hrun] at h
      cases h
    | ok subclass =>
      rw [hrun] at h
      cases h
      exact Or.inr ⟨context, subclass, hcontext, hrun, rfl, rfl⟩

/-- What `_parse` can do: it is `_parseData`, and then `_finishParsing` if nothing was thrown.
    The context is live in between. -/
theorem _parse_cases {s s' : LibXMLPushSAXParser Ctx σ} {data : Data} {outcome : Outcome Unit}
    (h : s._parse lib handle data = .ok (outcome, s')) :
    Finished s outcome s' ∨
      (∃ context subclass, Fed handle lib data s outcome s' context subclass ∧
        s'.error ≠ none) ∨
      ∃ between context subclass context' subclass',
        Fed handle lib data s (.ok ()) between context subclass ∧
          Terminated handle lib between outcome s' context' subclass' := by
  cases hcontext : s.context with
  | none =>
    rw [_parse_of_finished handle lib hcontext] at h
    cases h
    exact Or.inl ⟨hcontext, rfl, rfl⟩
  | some context =>
    refine Or.inr ?_
    simp only [_parse, hcontext] at h
    obtain ⟨⟨outcome₁, between⟩, hdata, hrest⟩ := bind_eq_ok h
    rcases _parseData_cases handle lib hdata with ⟨hnone, -, -⟩ | ⟨context, subclass, hfed⟩
    · rw [hcontext] at hnone
      cases hnone
    cases outcome₁ with
    | error error =>
      cases hrest
      refine Or.inl ⟨context, subclass, hfed, fun hnone => ?_⟩
      have hok := hfed.outcome
      rw [pendingError_of_none hnone] at hok
      cases hok
    | ok _ =>
      refine Or.inr ⟨between, context, subclass, ?_⟩
      rcases _finishParsing_cases handle lib hrest with ⟨hnone, -, -⟩ | ⟨context', subclass', hterm⟩
      · rw [hfed.after] at hnone
        cases hnone
      · exact ⟨context', subclass', hfed, hterm⟩

end LibXMLPushSAXParser

end XMLPush

import Mathlib.Data.List.Induction
import XMLPush.Lib.Answers
import XMLPush.Session.Lifetime

/-!
# The ledger of a parser

What a parser is for, seen from its callers: it keeps what it was fed, in order, until it
lets go. A `Ledger` is that and nothing else — no context, no error slot, no lazily
evaluated release, no element state — and it answers a call from the events of what it was
fed: the last error heard, if one was, and else the root.

`parser` is the other direction: the parser a ledger stands for, field by field, log
included. Each entry point of the class does to that parser what the ledger says
(`perform_of_ledger`), so a ledger simulates a parser.
-/

set_option autoImplicit false

namespace XMLPush

open Nesting
open Machine
open LibXMLPushSAXParser

variable {Ctx σ W P : Type}

/-- What a parser was fed, and whether it has let go. -/
structure Ledger where
  fed : List Data
  released : Bool
  deriving DecidableEq, Repr

namespace Ledger

/-- A parser that was fed nothing. -/
def empty : Ledger := ⟨[], false⟩

/-- One more chunk. -/
def feed (l : Ledger) (data : Data) : Ledger := { l with fed := l.fed ++ [data] }

/-- The end. -/
def release (l : Ledger) : Ledger := { l with released := true }

section Heard

variable (lib : LibXML2 Ctx) (context₀ : Ctx)

/-- The events libxml2 has made of what it was fed, and of the end of it if there was one. -/
def heard (l : Ledger) : List SAXEvent :=
  if l.released then lib.events context₀ l.fed else lib.eventsSoFar context₀ l.fed

/-- The last error heard. -/
def lastError (l : Ledger) : Option PushSaxParserErrorCode :=
  (reportsOf (l.heard lib context₀)).getLast?.map .libXML2Error

/-- What a call throws, if it throws anything. -/
def verdict (l : Ledger) : Outcome Unit :=
  match l.lastError lib context₀ with
  | some error => .error error
  | none => .ok ()

/-- What a call is told to do to a parser that is live. `parse` is `parseData`, and the end as
    well, unless an error is heard before it. -/
def told (l : Ledger) : Call → Ledger
  | .parse data =>
    match (l.feed data).lastError lib context₀ with
    | some _ => l.feed data
    | none => (l.feed data).release
  | .parseData data => l.feed data
  | .finishParsing => l.release

end Heard

end Ledger

instance : DecidablePred Call.Fits
  | .parse data => inferInstanceAs (Decidable (data.length ≤ int32Max))
  | .parseData data => inferInstanceAs (Decidable (data.length ≤ int32Max))
  | .finishParsing => isTrue trivial

/-- What a call returns if it throws nothing: `parse` and `finishParsing` the root. -/
def Call.returns (root : P) : Call → Option P
  | .parse _ => some root
  | .parseData _ => none
  | .finishParsing => some root

namespace Ledger

/-- What a call answers and leaves. -/
def perform (lib : LibXML2 Ctx) (D : SAXParsable W P) (root : P) (world : W) (context₀ : Ctx)
    (l : Ledger) (call : Call) : Except Trap (Outcome (Option P) × Ledger) :=
  if l.released then .ok (.error .usedAfterFinished, l)
  else if call.Fits then
    let l := l.told lib context₀ call
    match run (XMLPushParser.handle D) (.init root world) (elementsOf (l.heard lib context₀)) with
    | .error trap => .error trap
    | .ok _ => .ok ((l.verdict lib context₀).map fun _ => call.returns root, l)
  else .error .int32Overflow

section Perform

variable {lib : LibXML2 Ctx} {D : SAXParsable W P} {root : P} {world : W} {context₀ : Ctx}
  {l : Ledger} {call : Call}

theorem perform_of_released (h : l.released = true) :
    l.perform lib D root world context₀ call = .ok (.error .usedAfterFinished, l) := by
  simp only [perform, h, if_true]

theorem perform_of_live (h : l.released = false) (hfits : call.Fits) :
    l.perform lib D root world context₀ call =
      (run (XMLPushParser.handle D) (.init root world)
        (elementsOf ((l.told lib context₀ call).heard lib context₀))).map fun _ =>
          (((l.told lib context₀ call).verdict lib context₀).map fun _ => call.returns root,
            l.told lib context₀ call) := by
  simp only [perform, h, Bool.false_eq_true, if_false, hfits, if_true]
  cases run (XMLPushParser.handle D) (.init root world)
      (elementsOf ((l.told lib context₀ call).heard lib context₀)) with
  | error trap => rfl
  | ok subclass => rfl

theorem perform_of_overflow (h : l.released = false) (hlarge : ¬ call.Fits) :
    l.perform lib D root world context₀ call = .error .int32Overflow := by
  simp only [perform, h, Bool.false_eq_true, if_false, hlarge]

/-- What is answered: nothing but that the parser is finished, or what the call was told to do,
    if the subclass comes through it. -/
theorem perform_cases {l' : Ledger} {outcome : Outcome (Option P)}
    (h : l.perform lib D root world context₀ call = .ok (outcome, l')) :
    (l.released = true ∧ outcome = .error .usedAfterFinished ∧ l' = l) ∨
    (l.released = false ∧ call.Fits ∧ l' = l.told lib context₀ call ∧
      outcome = (l'.verdict lib context₀).map fun _ => call.returns root) := by
  cases hreleased : l.released with
  | true =>
    rw [perform_of_released hreleased] at h
    cases h
    exact Or.inl ⟨rfl, rfl, rfl⟩
  | false =>
    by_cases hfits : call.Fits
    · rw [perform_of_live hreleased hfits] at h
      obtain ⟨subclass, -, hanswer⟩ := map_eq_ok h
      cases hanswer
      exact Or.inr ⟨rfl, hfits, rfl, rfl⟩
    · rw [perform_of_overflow hreleased hfits] at h
      cases h

end Perform

/-! ## What is told -/

section Told

variable {lib : LibXML2 Ctx} {context₀ : Ctx} {l : Ledger} {data : Data}

theorem told_parse_of_error {error : PushSaxParserErrorCode}
    (herror : (l.feed data).lastError lib context₀ = some error) :
    l.told lib context₀ (.parse data) = l.feed data := by
  simp only [told, herror]

theorem told_parse_of_quiet (hquiet : (l.feed data).lastError lib context₀ = none) :
    l.told lib context₀ (.parse data) = (l.feed data).release := by
  simp only [told, hquiet]

theorem verdict_of_error {error : PushSaxParserErrorCode}
    (herror : l.lastError lib context₀ = some error) :
    l.verdict lib context₀ = .error error := by
  simp only [verdict, herror]

theorem verdict_of_quiet (hquiet : l.lastError lib context₀ = none) :
    l.verdict lib context₀ = .ok () := by
  simp only [verdict, hquiet]

end Told

/-! ## What has been heard -/

section Heard

variable {lib : LibXML2 Ctx} {context₀ : Ctx} {l : Ledger}

theorem heard_of_live (h : l.released = false) :
    l.heard lib context₀ = lib.eventsSoFar context₀ l.fed := by
  simp [heard, h]

theorem heard_feed (h : l.released = false) (data : Data) :
    (l.feed data).heard lib context₀ =
      l.heard lib context₀ ++ lib.chunkEvents (lib.after context₀ l.fed) data false := by
  have hfeed : (l.feed data).released = false := h
  rw [heard_of_live hfeed, heard_of_live h]
  exact lib.eventsSoFar_append_singleton context₀ l.fed data

theorem heard_release (h : l.released = false) :
    l.release.heard lib context₀ =
      l.heard lib context₀ ++ lib.chunkEvents (lib.after context₀ l.fed) [] true := by
  rw [heard_of_live h]
  rfl

end Heard

/-! ## The parser of a ledger -/

section Parser

variable (lib : LibXML2 Ctx) (context₀ : Ctx)

/-- What one chunk puts in the log. -/
def chunkLog (context : Ctx) (chunk : Data) (terminate : Bool) : List Effect :=
  .xmlParseChunk chunk terminate ::
    (reportsOf (lib.chunkEvents context chunk terminate)).map .errorOccurred

/-- What the chunks so far have put there. -/
def logSoFar : Ctx → List Data → List Effect
  | _, [] => []
  | context, chunk :: chunks =>
    chunkLog lib context chunk false ++ logSoFar (lib.afterChunk context chunk false) chunks

/-- The log of a parser: its chunks, and at the end the terminating one and the release. -/
def log (l : Ledger) : List Effect :=
  logSoFar lib context₀ l.fed ++
    if l.released then
      chunkLog lib (lib.after context₀ l.fed) [] true ++
        [.xmlFreeParserCtxt, .deinitializeUnsafeSelf]
    else []

/-- The parser a ledger stands for, if the subclass came through the events as `subclass`. -/
def parser (l : Ledger) (subclass : σ) : LibXMLPushSAXParser Ctx σ where
  context := if l.released then none else some (lib.after context₀ l.fed)
  error := l.lastError lib context₀
  unsafeSelf := !l.released
  once := l.released
  subclass := subclass
  log := l.log lib context₀

variable {lib} {context₀} {l : Ledger}

theorem logSoFar_append_singleton (context : Ctx) (chunks : List Data) (chunk : Data) :
    logSoFar lib context (chunks ++ [chunk]) =
      logSoFar lib context chunks ++ chunkLog lib (lib.after context chunks) chunk false := by
  induction chunks generalizing context with
  | nil => simp [logSoFar, LibXML2.after]
  | cons c chunks ih =>
    rw [List.cons_append, logSoFar, ih, logSoFar, List.append_assoc]
    rfl

theorem parser_context (h : l.released = false) (subclass : σ) :
    (l.parser lib context₀ subclass).context = some (lib.after context₀ l.fed) := by
  simp [parser, h]

theorem parser_finished (h : l.released = true) (subclass : σ) :
    (l.parser lib context₀ subclass).context = none := by
  simp [parser, h]

/-- The last of some more reports is the last of all, if there is one. -/
theorem lastReport_append (earlier more : List String) :
    (earlier ++ more).getLast?.map PushSaxParserErrorCode.libXML2Error =
      (more.getLast?.map .libXML2Error).or (earlier.getLast?.map .libXML2Error) := by
  rw [List.getLast?_append]
  cases more.getLast? with
  | none => rfl
  | some message => rfl

/-- A data chunk. -/
theorem fed_of_ledger (h : l.released = false) (data : Data) (subclass subclass' : σ) :
    (l.parser lib context₀ subclass).fed lib (lib.after context₀ l.fed) data false subclass' =
      (l.feed data).parser lib context₀ subclass' := by
  have hfeed : (l.feed data).released = false := h
  apply LibXMLPushSAXParser.ext
  · rw [parser_context hfeed]
    exact congrArg some (lib.after_append_singleton context₀ l.fed data).symm
  · show _ = (l.feed data).lastError lib context₀
    rw [lastError, heard_feed h, reportsOf_append, lastReport_append]
    rfl
  · rfl
  · rfl
  · rfl
  · show l.log lib context₀ ++ chunkLog lib _ data false = (l.feed data).log lib context₀
    simp only [log, h, hfeed, Bool.false_eq_true, if_false, List.append_nil]
    exact (logSoFar_append_singleton context₀ l.fed data).symm

/-- The terminating chunk, and the release after it. -/
theorem terminated_of_ledger (h : l.released = false) (subclass subclass' : σ) :
    ((l.parser lib context₀ subclass).fed lib (lib.after context₀ l.fed) [] true
        subclass').cleanupContext =
      l.release.parser lib context₀ subclass' := by
  have honce : ¬ ((l.parser lib context₀ subclass).fed lib (lib.after context₀ l.fed) [] true
      subclass').once = true := by
    show ¬ l.released = true
    simp [h]
  rw [cleanupContext, if_neg honce]
  apply LibXMLPushSAXParser.ext
  · rfl
  · show _ = l.release.lastError lib context₀
    rw [lastError, heard_release h, reportsOf_append, lastReport_append]
    rfl
  · rfl
  · rfl
  · rfl
  · show (l.log lib context₀ ++ chunkLog lib _ [] true) ++ _ = l.release.log lib context₀
    simp only [log, h, Bool.false_eq_true, if_false, List.append_nil]
    simp only [release, if_true, List.append_assoc]

end Parser

/-! ## The entry points, on the parser of a ledger -/

section EntryPoints

variable {lib : LibXML2 Ctx} {context₀ : Ctx} {l : Ledger} {handle : σ → Event → Except Trap σ}
  {subclass₀ subclass : σ} (hlive : l.released = false)
  (hrun : run handle subclass₀ (elementsOf (l.heard lib context₀)) = .ok subclass)

include hlive hrun

theorem _parseData_of_ledger {data : Data} (hfits : data.length ≤ int32Max) :
    (l.parser lib context₀ subclass)._parseData lib handle data =
      (run handle subclass₀ (elementsOf ((l.feed data).heard lib context₀))).map fun subclass =>
        ((l.feed data).verdict lib context₀, (l.feed data).parser lib context₀ subclass) := by
  rw [_parseData_of_live handle lib (parser_context hlive subclass) hfits, heard_feed hlive,
    elementsOf_append, run_append_ok hrun]
  refine congrArg (Except.map · _) (funext fun subclass' => ?_)
  rw [fed_of_ledger hlive]
  rfl

theorem _finishParsing_of_ledger :
    (l.parser lib context₀ subclass)._finishParsing lib handle =
      (run handle subclass₀ (elementsOf (l.release.heard lib context₀))).map fun subclass =>
        (l.release.verdict lib context₀, l.release.parser lib context₀ subclass) := by
  rw [_finishParsing_of_live handle lib (parser_context hlive subclass), heard_release hlive,
    elementsOf_append, run_append_ok hrun]
  refine congrArg (Except.map · _) (funext fun subclass' => ?_)
  rw [terminated_of_ledger hlive]
  rfl

/-- `parse` does the one, and then the other unless an error was heard. -/
theorem _parse_of_ledger {data : Data} (hfits : data.length ≤ int32Max) :
    (l.parser lib context₀ subclass)._parse lib handle data =
      (run handle subclass₀
          (elementsOf ((l.told lib context₀ (.parse data)).heard lib context₀))).map fun subclass =>
        ((l.told lib context₀ (.parse data)).verdict lib context₀,
          (l.told lib context₀ (.parse data)).parser lib context₀ subclass) := by
  have hdata := _parseData_of_ledger hlive hrun hfits
  have hfeed : (l.feed data).released = false := hlive
  have hunfold : (l.parser lib context₀ subclass)._parse lib handle data = (do
      let (outcome, s) ← (l.parser lib context₀ subclass)._parseData lib handle data
      match outcome with
      | .error error => return (.error error, s)
      | .ok () => s._finishParsing lib handle) := by
    unfold _parse
    split
    · rename_i hnone
      rw [parser_context hlive] at hnone
      cases hnone
    · rfl
  rw [hunfold, hdata]
  cases herror : (l.feed data).lastError lib context₀ with
  | some error =>
    rw [told_parse_of_error herror, verdict_of_error herror]
    cases run handle subclass₀ (elementsOf ((l.feed data).heard lib context₀)) with
    | error trap => rfl
    | ok subclass' => rfl
  | none =>
    rw [told_parse_of_quiet herror, verdict_of_quiet herror]
    cases hdone : run handle subclass₀ (elementsOf ((l.feed data).heard lib context₀)) with
    | error trap =>
      rw [heard_release hfeed, elementsOf_append, run_append_error hdone]
      rfl
    | ok subclass' => exact _finishParsing_of_ledger hfeed hdone

end EntryPoints

end Ledger

/-! ## What a ledger says after some calls -/

/-- The data a call passes on. -/
def Call.data? : Call → Option Data
  | .parse data => some data
  | .parseData data => some data
  | .finishParsing => none

/-- The data of some calls, in order. -/
def dataOf (calls : List Call) : List Data := calls.filterMap Call.data?

theorem dataOf_append_singleton (calls : List Call) (call : Call) :
    dataOf (calls ++ [call]) = dataOf calls ++ call.data?.toList := by
  unfold dataOf
  rw [List.filterMap_append]
  cases call with
  | parse data => rfl
  | parseData data => rfl
  | finishParsing => rfl

section Ledgers

variable (lib : LibXML2 Ctx) (context₀ : Ctx)

namespace Ledger

/-- What a call leaves of a ledger, if nothing traps. -/
def next (l : Ledger) (call : Call) : Ledger :=
  if l.released then l else l.told lib context₀ call

variable {lib context₀}

theorem next_of_released {l : Ledger} (h : l.released = true) (call : Call) :
    l.next lib context₀ call = l := by
  simp [next, h]

theorem next_of_live {l : Ledger} (h : l.released = false) (call : Call) :
    l.next lib context₀ call = l.told lib context₀ call := by
  simp [next, h]

theorem told_fed (l : Ledger) (call : Call) :
    (l.told lib context₀ call).fed = l.fed ++ call.data?.toList := by
  cases call with
  | parse data =>
    cases herror : (l.feed data).lastError lib context₀ with
    | none =>
      rw [told_parse_of_quiet herror]
      rfl
    | some error =>
      rw [told_parse_of_error herror]
      rfl
  | parseData data => rfl
  | finishParsing => exact (List.append_nil _).symm

theorem perform_ok {D : SAXParsable W P} {root : P} {world : W} {l l' : Ledger} {call : Call}
    {outcome : Outcome (Option P)}
    (h : l.perform lib D root world context₀ call = .ok (outcome, l')) :
    l' = l.next lib context₀ call := by
  rcases perform_cases h with ⟨hreleased, -, rfl⟩ | ⟨hlive, -, rfl, -⟩
  · exact (next_of_released hreleased call).symm
  · exact (next_of_live hlive call).symm

theorem run_ok {D : SAXParsable W P} {root : P} {world : W} {l l' : Ledger} {calls : List Call}
    (h : run (unanswered (perform lib D root world context₀)) l calls = .ok l') :
    l' = calls.foldl (next lib context₀) l := by
  induction calls generalizing l with
  | nil =>
    cases h
    rfl
  | cons call calls ih =>
    obtain ⟨m, hm, hrest⟩ := run_cons_ok_iff.mp h
    obtain ⟨outcome, hperform⟩ := unanswered_ok_iff.mp hm
    rw [List.foldl_cons, ← perform_ok hperform]
    exact ih hrest

variable (lib context₀)

/-- The ledger some calls leave. -/
def ofCalls (calls : List Call) : Ledger := calls.foldl (next lib context₀) empty

variable {lib context₀}

theorem ofCalls_append_singleton (calls : List Call) (call : Call) :
    ofCalls lib context₀ (calls ++ [call]) = (ofCalls lib context₀ calls).next lib context₀ call := by
  simp [ofCalls]

/-- A parser that has not let go was fed the data of all the calls. -/
theorem ofCalls_fed {calls : List Call} (h : (ofCalls lib context₀ calls).released = false) :
    (ofCalls lib context₀ calls).fed = dataOf calls := by
  induction calls using List.reverseRecOn with
  | nil => rfl
  | append_singleton calls call ih =>
    rw [ofCalls_append_singleton] at h ⊢
    cases hbefore : (ofCalls lib context₀ calls).released with
    | true =>
      rw [next_of_released hbefore, hbefore] at h
      cases h
    | false => rw [next_of_live hbefore, told_fed, ih hbefore, dataOf_append_singleton]

/-- One that has stays as it is. -/
theorem ofCalls_append_of_released {calls : List Call}
    (h : (ofCalls lib context₀ calls).released = true) (later : List Call) :
    ofCalls lib context₀ (calls ++ later) = ofCalls lib context₀ calls := by
  induction later using List.reverseRecOn with
  | nil => rw [List.append_nil]
  | append_singleton later call ih =>
    rw [← List.append_assoc, ofCalls_append_singleton, ih, next_of_released h]

end Ledger

end Ledgers

end XMLPush

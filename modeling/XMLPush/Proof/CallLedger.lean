import XMLPush.Proof.Chunks
import XMLPush.Proof.Decoding
import XMLPush.Session.Chunking
import XMLPush.Session.Ledger

/-!
# What callers see of a parser

Whatever calls are made on one parser, in whatever order, after whatever errors: from
outside it is a ledger of what it was fed (`calls_answered`). Its context, its error slot,
the lazy release and the element state are how it keeps the ledger, and every field of it
can be read off from there.

Two things are then asked of ledgers only.

* **A root that is returned** (`root_returned`) stands for the whole of what was fed: the
  data of all the calls so far, in order, is one document, and the root is what the
  traversal of that document has made of it.
* **What crosses the C boundary** (`fed_until_released`): every chunk once and in order,
  until the first call that lets go, and never anything after it. A parser no call lets go of
  keeps its context, and the reference to itself.
-/

set_option autoImplicit false

namespace XMLPush

open Nesting
open Machine
open LibXMLPushSAXParser

variable {Ctx W P : Type}

/-! ## The root never changes -/

namespace XMLPushParser

variable {D : SAXParsable W P} {s t : XMLPushParser W P}

theorem answered_root (attributes : Attributes) (s : XMLPushParser W P)
    (answer : SAXStartElement P) : (s.answered attributes answer).root = s.root := by
  cases answer with
  | ignore => rfl
  | handleAsData => rfl
  | handleWithChild child => rfl

theorem startElementWithPrefix_root {name : ElementName} {attributes : Attributes}
    (h : s.startElementWithPrefix D name attributes = .ok t) : t.root = s.root := by
  unfold startElementWithPrefix at h
  dsimp only at h
  split at h
  · cases h
    rfl
  · obtain ⟨current, -, hanswered⟩ := bind_eq_ok h
    cases hanswered
    apply answered_root

theorem endElementBody_root {name : ElementName} (h : s.endElementBody D name = .ok t) :
    t.root = s.root := by
  unfold endElementBody at h
  split at h
  · cases h
    rfl
  · split at h
    · cases h
    · split at h
      · obtain ⟨current, -, hchild⟩ := bind_eq_ok h
        cases hchild
        rfl
      · obtain ⟨current, -, hdata⟩ := bind_eq_ok h
        split at hdata
        · cases hdata
        · split at hdata
          · cases hdata
          · cases hdata
            rfl

theorem handle_root {event : Event} (h : handle D s event = .ok t) : t.root = s.root := by
  cases event with
  | opening name attributes => exact startElementWithPrefix_root h
  | text bytes =>
    cases h
    rfl
  | closing name =>
    obtain ⟨u, hbody, hdefer⟩ := bind_eq_ok h
    cases hdefer
    have hroot : u.root = s.root := endElementBody_root hbody
    exact hroot

end XMLPushParser

theorem run_root {D : SAXParsable W P} {s t : XMLPushParser W P} {events : List Event}
    (h : run (XMLPushParser.handle D) s events = .ok t) : t.root = s.root := by
  refine run_invariant (P := fun t => t.root = s.root) ?_ rfl h
  intro u event v hroot hstep
  rw [XMLPushParser.handle_root hstep]
  exact hroot

/-! ## A ledger simulates a parser -/

section Simulates

variable (lib : LibXML2 Ctx) (D : SAXParsable W P) (root : P) (world : W) (context₀ : Ctx)

/-- The parser keeps this ledger. -/
def Keeps (s : XMLPushParser.Object Ctx W P) (l : Ledger) : Prop :=
  ∃ subclass, run (XMLPushParser.handle D) (.init root world)
      (elementsOf (l.heard lib context₀)) = .ok subclass ∧
    s = l.parser lib context₀ subclass

variable {lib D root world context₀}

theorem Keeps.fresh (hcreated : lib.xmlCreatePushParserCtxt = some context₀) :
    Keeps lib D root world context₀ (XMLPushParser.fresh lib root world) .empty := by
  refine ⟨.init root world, rfl, ?_⟩
  apply LibXMLPushSAXParser.ext
  · exact hcreated
  · rfl
  · rfl
  · rfl
  · rfl
  · rfl

/-- What a call does to the parser of a live ledger. -/
theorem Call.perform_of_ledger {l : Ledger} (hlive : l.released = false)
    {subclass : XMLPushParser W P}
    (hrun : run (XMLPushParser.handle D) (.init root world)
      (elementsOf (l.heard lib context₀)) = .ok subclass) {call : Call} (hfits : call.Fits) :
    call.perform lib D (l.parser lib context₀ subclass) =
      (run (XMLPushParser.handle D) (.init root world)
        (elementsOf ((l.told lib context₀ call).heard lib context₀))).map fun subclass =>
          (((l.told lib context₀ call).verdict lib context₀).map
              fun _ => call.returns subclass.root,
            (l.told lib context₀ call).parser lib context₀ subclass) := by
  cases call with
  | parse data =>
    simp only [Call.perform, XMLPushParser.parse, Ledger._parse_of_ledger hlive hrun hfits]
    cases run (XMLPushParser.handle D) (.init root world)
        (elementsOf ((l.told lib context₀ (.parse data)).heard lib context₀)) with
    | error trap => rfl
    | ok subclass' => cases (l.told lib context₀ (.parse data)).verdict lib context₀ <;> rfl
  | parseData data =>
    have htold : l.told lib context₀ (.parseData data) = l.feed data := rfl
    simp only [htold, Call.perform, XMLPushParser.parseData,
      Ledger._parseData_of_ledger hlive hrun hfits]
    cases run (XMLPushParser.handle D) (.init root world)
        (elementsOf ((l.feed data).heard lib context₀)) with
    | error trap => rfl
    | ok subclass' => cases (l.feed data).verdict lib context₀ <;> rfl
  | finishParsing =>
    have htold : l.told lib context₀ .finishParsing = l.release := rfl
    simp only [htold, Call.perform, XMLPushParser.finishParsing,
      Ledger._finishParsing_of_ledger hlive hrun]
    cases run (XMLPushParser.handle D) (.init root world)
        (elementsOf (l.release.heard lib context₀)) with
    | error trap => rfl
    | ok subclass' => cases l.release.verdict lib context₀ <;> rfl

/-- A call whose length is no `Int32` traps before libxml2 sees any of it. -/
theorem Call.perform_of_overflow {s : XMLPushParser.Object Ctx W P} {context : Ctx}
    (hlive : s.context = some context) {call : Call} (hlarge : ¬ call.Fits) :
    call.perform lib D s = .error .int32Overflow := by
  cases call with
  | parse data =>
    have hdata := _parseData_of_overflow (XMLPushParser.handle D) lib hlive
      (Nat.lt_of_not_le hlarge)
    simp only [Call.perform, XMLPushParser.parse, _parse, hlive, hdata]
    rfl
  | parseData data =>
    have hdata := _parseData_of_overflow (XMLPushParser.handle D) lib hlive
      (Nat.lt_of_not_le hlarge)
    simp only [Call.perform, XMLPushParser.parseData, hdata]
    rfl
  | finishParsing => exact absurd trivial hlarge

/-- **A parser does what its ledger says.** -/
theorem ledger_simulates :
    Simulation (fun s call => Call.perform lib D s call)
      (Ledger.perform lib D root world context₀) (Keeps lib D root world context₀) := by
  intro s l call hkeeps
  obtain ⟨subclass, hrun, rfl⟩ := hkeeps
  cases hreleased : l.released with
  | true =>
    have hnone : (l.parser lib context₀ subclass).context = none :=
      Ledger.parser_finished hreleased subclass
    rw [Ledger.perform_of_released hreleased]
    show Alike _ (call.perform lib D _) _
    rw [Call.perform_of_finished lib D hnone call]
    exact .ok _ ⟨subclass, hrun, rfl⟩
  | false =>
    by_cases hfits : call.Fits
    · rw [Ledger.perform_of_live hreleased hfits]
      show Alike _ (call.perform lib D _) _
      rw [Call.perform_of_ledger hreleased hrun hfits]
      cases hdone : run (XMLPushParser.handle D) (.init root world)
          (elementsOf ((l.told lib context₀ call).heard lib context₀)) with
      | error trap => exact .error trap
      | ok subclass' =>
        have hroot : subclass'.root = root := run_root hdone
        simp only [Except.map, hroot]
        exact .ok _ ⟨subclass', hdone, rfl⟩
    · rw [Ledger.perform_of_overflow hreleased hfits]
      show Alike _ (call.perform lib D _) _
      rw [Call.perform_of_overflow (Ledger.parser_context hreleased subclass) hfits]
      exact .error _

end Simulates

/-- **What a parser answers is told by a ledger of what it was fed**, call by call and up to the
    trap that ends them, if one does; and so is every field of the parser the calls leave. -/
theorem calls_answered (lib : LibXML2 Ctx) (D : SAXParsable W P) (root : P) (world : W)
    (context : Ctx) (hcreated : lib.xmlCreatePushParserCtxt = some context) (calls : List Call) :
    answers (fun s call => Call.perform lib D s call) (XMLPushParser.fresh lib root world) calls =
        answers (Ledger.perform lib D root world context) .empty calls ∧
      ∀ s, performAll lib D (XMLPushParser.fresh lib root world) calls = .ok s →
        ∃ l subclass,
          run (unanswered (Ledger.perform lib D root world context)) .empty calls = .ok l ∧
            run (XMLPushParser.handle D) (.init root world) (elementsOf (l.heard lib context)) =
              .ok subclass ∧
            s = l.parser lib context subclass := by
  have hfresh : Keeps lib D root world context (XMLPushParser.fresh lib root world) .empty :=
    Keeps.fresh hcreated
  constructor
  · exact ledger_simulates.answers_eq hfresh calls
  · intro s hcalls
    obtain ⟨l, hl, subclass, hrun, hs⟩ := ledger_simulates.run_ok hfresh hcalls
    exact ⟨l, subclass, hl, hrun, hs⟩

/-- A document in three calls, and one call too many: the parser answers as the ledger of its
    first three calls does. -/
theorem late_call_answered :
    answers (fun s call => Call.perform (collecting onlyD) lettered s call)
        (XMLPushParser.fresh (collecting onlyD) 0 ())
        [.parseData [60, 100, 62], .parseData [116, 60], .parse [47, 100, 62], .finishParsing] =
      ([.ok none, .ok none, .ok (some 0), .error .usedAfterFinished], none) :=
  ((calls_answered (collecting onlyD) lettered 0 () [] rfl _).1).trans rfl

/-- The ledger of a parser on which these calls have ended. -/
theorem keeps_ofCalls {lib : LibXML2 Ctx} {D : SAXParsable W P} {root : P} {world : W}
    {context₀ : Ctx} (hcreated : lib.xmlCreatePushParserCtxt = some context₀)
    {calls : List Call} {s : XMLPushParser.Object Ctx W P}
    (hcalls : performAll lib D (XMLPushParser.fresh lib root world) calls = .ok s) :
    Keeps lib D root world context₀ s (Ledger.ofCalls lib context₀ calls) := by
  obtain ⟨l, hl, hkeeps⟩ := ledger_simulates.run_ok (Keeps.fresh hcreated) hcalls
  rw [Ledger.run_ok hl] at hkeeps
  exact hkeeps

/-! ## A root that is returned -/

/-- A ledger that returns a root is live, and has heard no error to its end. -/
theorem Ledger.perform_returns {lib : LibXML2 Ctx} {D : SAXParsable W P} {root : P} {world : W}
    {context₀ : Ctx} {l l' : Ledger} {call : Call} {returned : P}
    (h : l.perform lib D root world context₀ call = .ok (.ok (some returned), l')) :
    l.released = false ∧ returned = root ∧ l' = l.told lib context₀ call ∧
      l'.released = true ∧ reportsOf (l'.heard lib context₀) = [] := by
  rcases perform_cases h with ⟨-, hfinished, -⟩ | ⟨hlive, -, rfl, hanswer⟩
  · cases hfinished
  · cases herror : (l.told lib context₀ call).lastError lib context₀ with
    | some error =>
      rw [verdict_of_error herror] at hanswer
      cases hanswer
    | none =>
      rw [verdict_of_quiet herror] at hanswer
      have hroot : some returned = call.returns root := Except.ok.inj hanswer
      have hquiet : reportsOf ((l.told lib context₀ call).heard lib context₀) = [] := by
        simpa [lastError] using herror
      cases call with
      | parse data =>
        refine ⟨hlive, Option.some.inj hroot, rfl, ?_, hquiet⟩
        cases hfeed : (l.feed data).lastError lib context₀ with
        | none =>
          rw [told_parse_of_quiet hfeed]
          rfl
        | some error =>
          -- The error that would keep it live is the one it throws.
          rw [told_parse_of_error hfeed, hfeed] at herror
          cases herror
      | parseData data => cases hroot
      | finishParsing => exact ⟨hlive, Option.some.inj hroot, rfl, rfl, hquiet⟩

section Returned

variable (lib : LibXML2 Ctx) (D : SAXParsable W P) (root : P) (world : W) (context : Ctx)
  (hcreated : lib.xmlCreatePushParserCtxt = some context) (calls : List Call)
  (s : XMLPushParser.Object Ctx W P)
  (hcalls : performAll lib D (XMLPushParser.fresh lib root world) calls = .ok s) (call : Call)
  (returned : P) (s' : XMLPushParser.Object Ctx W P)
  (hcall : call.perform lib D s = .ok (.ok (some returned), s'))

include hcreated hcalls hcall

/-- A parser that has returned a root has come through all the events, has heard no error, and is
    finished. -/
theorem events_of_returned :
    reportsOf (lib.events context (dataOf (calls ++ [call]))) = [] ∧ returned = root ∧
      run (XMLPushParser.handle D) (.init root world)
        (elementsOf (lib.events context (dataOf (calls ++ [call])))) = .ok s'.subclass ∧
      s'.withoutLog = finishedWith s'.subclass := by
  have hkeeps := keeps_ofCalls hcreated hcalls
  obtain ⟨l', hperform, subclass, hrun, hs'⟩ := ledger_simulates.step_ok hkeeps hcall
  obtain ⟨hlive, hreturned, htold, hreleased, hquiet⟩ := Ledger.perform_returns hperform
  have hfed : l'.fed = dataOf (calls ++ [call]) := by
    rw [htold, Ledger.told_fed, Ledger.ofCalls_fed hlive, dataOf_append_singleton]
  have hheard : l'.heard lib context = lib.events context (dataOf (calls ++ [call])) := by
    rw [← hfed]
    simp only [Ledger.heard, hreleased, if_true]
  have hnone : l'.lastError lib context = none := by
    rw [Ledger.lastError, hquiet]
    rfl
  rw [hheard] at hrun hquiet
  refine ⟨hquiet, hreturned, ?_, ?_⟩
  · rw [hrun, hs']
    rfl
  · rw [hs']
    simp only [withoutLog, finishedWith, Ledger.parser, hreleased, hnone, if_true, Bool.not_true]

variable (hincomplete : lib.ReportsIncomplete context)

include hincomplete

/-- If libxml2 reports what is not complete, they are the events of one document. -/
theorem document_of_returned :
    ∃ doc : Content,
      elementsOf (lib.events context (dataOf (calls ++ [call]))) = doc.tokens ∧
        s'.subclass = { XMLPushParser.init root world with
          host := traverse D root doc (.start world) } := by
  obtain ⟨hquiet, -, hrun, -⟩ := events_of_returned lib D root world context hcreated calls s
    hcalls call returned s' hcall
  have hcomplete : Complete (elementsOf (lib.events context (dataOf (calls ++ [call])))) := by
    by_contra hnot
    rw [LibXML2.events, reportsOf_append, List.append_eq_nil_iff] at hquiet
    exact hincomplete _ hquiet.1 hnot hquiet.2
  obtain ⟨doc, hdoc⟩ := complete_iff_exists_forest.mp hcomplete
  refine ⟨doc, hdoc, ?_⟩
  rw [hdoc] at hrun
  obtain ⟨-, hsubclass⟩ :=
    (run_wellNested_iff D root world doc.complete_tokens.wellNested).mp hrun
  rw [← after_tokens]
  exact hsubclass

/-- **A root that is returned is what the traversal of one document has made of it**: the
    document that all the data fed so far is, by whatever calls it came. -/
theorem root_returned :
    ∃ doc : Content,
      elementsOf (lib.events context (dataOf (calls ++ [call]))) = doc.tokens ∧
        reportsOf (lib.events context (dataOf (calls ++ [call]))) = [] ∧ returned = root ∧
        s'.withoutLog = finishedWith
          { XMLPushParser.init root world with host := traverse D root doc (.start world) } := by
  obtain ⟨doc, hdoc, hsubclass⟩ := document_of_returned lib D root world context hcreated calls s
    hcalls call returned s' hcall hincomplete
  obtain ⟨hquiet, hreturned, -, hfinished⟩ := events_of_returned lib D root world context hcreated
    calls s hcalls call returned s' hcall
  rw [hsubclass] at hfinished
  exact ⟨doc, hdoc, hquiet, hreturned, hfinished⟩

end Returned

/-- `<d>t</d>` in two calls: the root, and what the document has made of it. -/
theorem two_calls_returned : ∃ s s',
    performAll (collecting onlyD) lettered (XMLPushParser.fresh (collecting onlyD) 0 ())
        [.parseData [60, 100, 62]] = .ok s ∧
      (Call.parse [116, 60, 47, 100, 62]).perform (collecting onlyD) lettered s =
        .ok (.ok (some 0), s') ∧
      ∃ doc : Content,
        elementsOf ((collecting onlyD).events [] [[60, 100, 62], [116, 60, 47, 100, 62]]) =
            doc.tokens ∧
          s'.withoutLog = finishedWith
            { XMLPushParser.init 0 () with host := traverse lettered 0 doc (.start ()) } := by
  refine ⟨_, _, rfl, rfl, ?_⟩
  obtain ⟨doc, hdoc, -, -, hs'⟩ := root_returned (collecting onlyD) lettered 0 () [] rfl
    [.parseData [60, 100, 62]] _ rfl (.parse [116, 60, 47, 100, 62]) 0 _ rfl
    onlyD_reportsIncomplete
  exact ⟨doc, hdoc, hs'⟩

/-- **For the parsers of a family of element types the root represents that document**: what
    libxml2 has made of all the data fed so far is, object by object, what the root and the
    parsers it leads to have filed. -/
theorem returned_represents (lib : LibXML2 Ctx) (S : Schema) (c : S.Class) (context : Ctx)
    (hcreated : lib.xmlCreatePushParserCtxt = some context)
    (hincomplete : lib.ReportsIncomplete context) (calls : List Call)
    (s : XMLPushParser.Object Ctx (List (XMLSAXElementParser S)) Reference)
    (hcalls : performAll lib (XMLSAXElementParser.parsable S)
      (XMLPushParser.fresh lib 0 [XMLSAXElementParser.init c]) calls = .ok s) (call : Call)
    (returned : Reference)
    (s' : XMLPushParser.Object Ctx (List (XMLSAXElementParser S)) Reference)
    (hcall : call.perform lib (XMLSAXElementParser.parsable S) s =
      .ok (.ok (some returned), s')) :
    ∃ doc : Content,
      elementsOf (lib.events context (dataOf (calls ++ [call]))) = doc.tokens ∧
        Represents s'.subclass.host.world returned c doc := by
  obtain ⟨doc, hdoc, hsubclass⟩ := document_of_returned lib (XMLSAXElementParser.parsable S) 0
    [XMLSAXElementParser.init c] context hcreated calls s hcalls call returned s' hcall hincomplete
  obtain ⟨-, hreturned, -⟩ := events_of_returned lib (XMLSAXElementParser.parsable S) 0
    [XMLSAXElementParser.init c] context hcreated calls s hcalls call returned s' hcall
  refine ⟨doc, hdoc, ?_⟩
  rw [hreturned, hsubclass]
  exact traverse_represents c doc

/-- `<d>t</d>` in two calls, for a parser that takes `d` for data. -/
theorem letters_returned : ∃ s s',
    performAll (collecting onlyD) (XMLSAXElementParser.parsable letters)
        (XMLPushParser.fresh (collecting onlyD) 0 [XMLSAXElementParser.init ()])
        [.parseData [60, 100, 62]] = .ok s ∧
      (Call.parse [116, 60, 47, 100, 62]).perform (collecting onlyD)
        (XMLSAXElementParser.parsable letters) s = .ok (.ok (some 0), s') ∧
      ∃ doc : Content,
        elementsOf ((collecting onlyD).events [] [[60, 100, 62], [116, 60, 47, 100, 62]]) =
            doc.tokens ∧
          Represents (S := letters) s'.subclass.host.world 0 () doc := by
  refine ⟨_, _, rfl, rfl, ?_⟩
  exact returned_represents (collecting onlyD) letters () [] rfl onlyD_reportsIncomplete
    [.parseData [60, 100, 62]] _ rfl (.parse [116, 60, 47, 100, 62]) 0 _ rfl

/-- **What is returned depends on the bytes alone**: two parsers that were fed the same bytes, cut
    and delivered by any calls, and that both return a root, return the same one, and are the
    same but for their logs. -/
theorem same_data_same_root (lib : LibXML2 Ctx) (D : SAXParsable W P) (root : P) (world : W)
    (calls calls₂ : List Call) (s s₂ : XMLPushParser.Object Ctx W P)
    (hcalls : performAll lib D (XMLPushParser.fresh lib root world) calls = .ok s)
    (hcalls₂ : performAll lib D (XMLPushParser.fresh lib root world) calls₂ = .ok s₂)
    (call call₂ : Call) (hsteady : lib.Steady (dataOf (calls ++ [call])).flatten)
    (hdata : (dataOf (calls ++ [call])).flatten = (dataOf (calls₂ ++ [call₂])).flatten)
    (returned returned₂ : P) (s' s₂' : XMLPushParser.Object Ctx W P)
    (hcall : call.perform lib D s = .ok (.ok (some returned), s'))
    (hcall₂ : call₂.perform lib D s₂ = .ok (.ok (some returned₂), s₂')) :
    returned₂ = returned ∧ s₂'.withoutLog = s'.withoutLog := by
  cases hcreated : lib.xmlCreatePushParserCtxt with
  | none =>
    -- Without a context no call has ever returned.
    have hnone : (XMLPushParser.fresh lib root world).context = none := hcreated
    have hstays : ∀ t, performAll lib D (XMLPushParser.fresh lib root world) calls = .ok t →
        t.context = none := by
      intro t ht
      refine run_invariant (P := fun t => t.context = none) ?_ hnone ht
      intro t call u hdead hstep
      rw [Call.perform_of_finished lib D hdead call] at hstep
      cases hstep
      exact hdead
    rw [Call.perform_of_finished lib D (hstays s hcalls) call] at hcall
    cases hcall
  | some context =>
    obtain ⟨-, hreturned, hrun, hfinished⟩ := events_of_returned lib D root world context hcreated
      calls s hcalls call returned s' hcall
    obtain ⟨-, hreturned₂, hrun₂, hfinished₂⟩ := events_of_returned lib D root world context
      hcreated calls₂ s₂ hcalls₂ call₂ returned₂ s₂' hcall₂
    have hsame := run_elementsOf_eq D (hsteady context hcreated _ _ rfl hdata.symm) (.init root world)
    rw [hrun, hrun₂] at hsame
    rw [hreturned, hreturned₂, hfinished, hfinished₂, Except.ok.inj hsame]
    exact ⟨rfl, rfl⟩

/-- `<d>t</d>` by `parse`, and in three pieces by `parseData` and `finishParsing`. -/
theorem pieces_same_root : ∃ s s' s₂',
    performAll (eager onlyDDue) lettered (XMLPushParser.fresh (eager onlyDDue) 0 ())
        [.parseData [60, 100], .parseData [62, 116, 60], .parseData [47, 100, 62]] = .ok s ∧
      Call.finishParsing.perform (eager onlyDDue) lettered s = .ok (.ok (some 0), s') ∧
      (Call.parse [60, 100, 62, 116, 60, 47, 100, 62]).perform (eager onlyDDue) lettered
        (XMLPushParser.fresh (eager onlyDDue) 0 ()) = .ok (.ok (some 0), s₂') ∧
      s₂'.withoutLog = s'.withoutLog := by
  refine ⟨_, _, _, rfl, rfl, rfl, ?_⟩
  exact (same_data_same_root (eager onlyDDue) lettered 0 ()
    [.parseData [60, 100], .parseData [62, 116, 60], .parseData [47, 100, 62]] [] _ _ rfl rfl
    .finishParsing (.parse [60, 100, 62, 116, 60, 47, 100, 62]) (eager_steady onlyDDue _) rfl 0 0
    _ _ rfl rfl).2

/-! ## What crosses the C boundary -/

/-- The call lets go of a parser that was fed these chunks: `finishParsing` always, and `parse`
    if nothing is reported up to the end of its data. -/
def Call.Releases (lib : LibXML2 Ctx) (context : Ctx) (fed : List Data) : Call → Prop
  | .parse data => reportsOf (lib.eventsSoFar context (fed ++ [data])) = []
  | .parseData _ => False
  | .finishParsing => True

/-- The last of these calls is the first that lets go. -/
structure ReleasedBy (lib : LibXML2 Ctx) (context : Ctx) (earlier : List Call) (call : Call) :
    Prop where
  live : ∀ before call after, earlier = before ++ call :: after →
    ¬ call.Releases lib context (dataOf before)
  releases : call.Releases lib context (dataOf earlier)

section Boundary

variable {lib : LibXML2 Ctx} {context₀ : Ctx}

theorem Ledger.told_released_iff {l : Ledger} (hlive : l.released = false) {call : Call} :
    (l.told lib context₀ call).released = true ↔ call.Releases lib context₀ l.fed := by
  cases call with
  | parse data =>
    have hfeed : (l.feed data).released = false := hlive
    have hreleases : (Call.parse data).Releases lib context₀ l.fed ↔
        (l.feed data).lastError lib context₀ = none := by
      simp only [Call.Releases, lastError, heard_of_live hfeed, Option.map_eq_none_iff,
        List.getLast?_eq_none_iff]
      rfl
    rw [hreleases]
    cases herror : (l.feed data).lastError lib context₀ with
    | none =>
      rw [told_parse_of_quiet herror]
      exact iff_of_true rfl rfl
    | some error =>
      rw [told_parse_of_error herror]
      exact iff_of_false (by simp [hfeed]) (Option.some_ne_none error)
  | parseData data =>
    refine iff_of_false ?_ id
    show ¬ l.released = true
    simp [hlive]
  | finishParsing => exact iff_of_true rfl trivial

/-- A ledger is live exactly while no call has let go. -/
theorem Ledger.ofCalls_live_iff {calls : List Call} :
    (ofCalls lib context₀ calls).released = false ↔
      ∀ before call after, calls = before ++ call :: after →
        ¬ call.Releases lib context₀ (dataOf before) := by
  constructor
  · rintro hlive before call after rfl hreleases
    have hsplit : before ++ call :: after = (before ++ [call]) ++ after := by simp
    have hbefore : (ofCalls lib context₀ before).released = false := by
      by_contra hnot
      rw [ofCalls_append_of_released (Bool.not_eq_false _ ▸ hnot)] at hlive
      exact hnot hlive
    have hnext : (ofCalls lib context₀ (before ++ [call])).released = true := by
      rw [ofCalls_append_singleton, next_of_live hbefore, told_released_iff hbefore,
        ofCalls_fed hbefore]
      exact hreleases
    rw [hsplit, ofCalls_append_of_released hnext, hnext] at hlive
    cases hlive
  · intro hnone
    induction calls using List.reverseRecOn with
    | nil => rfl
    | append_singleton calls call ih =>
      have hbefore : (ofCalls lib context₀ calls).released = false := by
        apply ih
        rintro before c after rfl
        exact hnone before c (after ++ [call]) (by simp)
      rw [ofCalls_append_singleton, next_of_live hbefore]
      by_contra hnot
      have hreleased := (told_released_iff hbefore).mp (Bool.not_eq_false _ ▸ hnot)
      rw [ofCalls_fed hbefore] at hreleased
      exact hnone calls call [] rfl hreleased

/-- The first call that lets go decides what was fed. -/
theorem Ledger.ofCalls_released {earlier later : List Call} {call : Call}
    (h : ReleasedBy lib context₀ earlier call) :
    ofCalls lib context₀ (earlier ++ call :: later) =
      { fed := dataOf (earlier ++ [call]), released := true } := by
  have hlive : (ofCalls lib context₀ earlier).released = false := ofCalls_live_iff.mpr h.live
  have hreleased : (ofCalls lib context₀ (earlier ++ [call])).released = true := by
    rw [ofCalls_append_singleton, next_of_live hlive, told_released_iff hlive, ofCalls_fed hlive]
    exact h.releases
  have hfed : (ofCalls lib context₀ (earlier ++ [call])).fed = dataOf (earlier ++ [call]) := by
    rw [ofCalls_append_singleton, next_of_live hlive, told_fed, ofCalls_fed hlive,
      dataOf_append_singleton]
  have hsplit : earlier ++ call :: later = (earlier ++ [call]) ++ later := by simp
  rw [hsplit, ofCalls_append_of_released hreleased, ← hfed, ← hreleased]

/-- The chunk an effect passes to libxml2, and whether it is the terminating one. -/
def Effect.chunk? : Effect → Option (Data × Bool)
  | .xmlParseChunk chunk terminate => some (chunk, terminate)
  | .xmlFreeParserCtxt => none
  | .deinitializeUnsafeSelf => none
  | .errorOccurred _ => none

theorem chunks_errorOccurred (messages : List String) :
    (messages.map Effect.errorOccurred).filterMap Effect.chunk? = [] := by
  induction messages with
  | nil => rfl
  | cons message messages ih => exact ih

theorem Ledger.chunks_chunkLog (context : Ctx) (chunk : Data) (terminate : Bool) :
    (chunkLog lib context chunk terminate).filterMap Effect.chunk? = [(chunk, terminate)] := by
  rw [chunkLog, List.filterMap_cons, chunks_errorOccurred]
  rfl

theorem Ledger.chunks_logSoFar (context : Ctx) (chunks : List Data) :
    (logSoFar lib context chunks).filterMap Effect.chunk? = chunks.map (·, false) := by
  induction chunks generalizing context with
  | nil => rfl
  | cons chunk chunks ih =>
    rw [logSoFar, List.filterMap_append, ih, chunks_chunkLog]
    rfl

/-- The chunks of a parser: its data, and at the end the terminating one. -/
theorem Ledger.chunks_log (l : Ledger) :
    (l.log lib context₀).filterMap Effect.chunk? =
      l.fed.map (·, false) ++ if l.released then [([], true)] else [] := by
  rw [log, List.filterMap_append, chunks_logSoFar]
  cases l.released with
  | true =>
    rw [if_pos rfl, if_pos rfl, List.filterMap_append, chunks_chunkLog]
    rfl
  | false => rfl

end Boundary

/-- **Every chunk crosses the C boundary once and in order, until the first call that lets go**:
    after the data of that call comes the terminating chunk, and no later call reaches libxml2.
    A parser that no call has let go of holds its context, and itself. -/
theorem fed_until_released (lib : LibXML2 Ctx) (D : SAXParsable W P) (root : P) (world : W)
    (context : Ctx) (hcreated : lib.xmlCreatePushParserCtxt = some context) (calls : List Call)
    (s : XMLPushParser.Object Ctx W P)
    (hcalls : performAll lib D (XMLPushParser.fresh lib root world) calls = .ok s) :
    ((∀ earlier call later, calls = earlier ++ call :: later →
        ¬ call.Releases lib context (dataOf earlier)) →
      s.context.isSome = true ∧ s.unsafeSelf = true ∧
        s.log.filterMap Effect.chunk? = (dataOf calls).map (·, false)) ∧
    ∀ earlier call later, calls = earlier ++ call :: later → ReleasedBy lib context earlier call →
      s.context = none ∧ s.unsafeSelf = false ∧
        s.log.filterMap Effect.chunk? =
          (dataOf (earlier ++ [call])).map (·, false) ++ [([], true)] := by
  obtain ⟨subclass, -, rfl⟩ := keeps_ofCalls hcreated hcalls
  constructor
  · intro hnone
    have hlive : (Ledger.ofCalls lib context calls).released = false :=
      Ledger.ofCalls_live_iff.mpr hnone
    refine ⟨?_, ?_, ?_⟩
    · rw [Ledger.parser_context hlive]
      rfl
    · show (!(Ledger.ofCalls lib context calls).released) = true
      rw [hlive]
      rfl
    · show ((Ledger.ofCalls lib context calls).log lib context).filterMap _ = _
      rw [Ledger.chunks_log, hlive, Ledger.ofCalls_fed hlive]
      exact List.append_nil _
  · rintro earlier call later rfl hreleased
    rw [Ledger.ofCalls_released hreleased]
    refine ⟨rfl, rfl, ?_⟩
    exact Ledger.chunks_log _

/-- The third of four calls lets go, and the fourth does not reach libxml2. -/
theorem fed_until_parse : ∃ s,
    performAll (collecting onlyD) lettered (XMLPushParser.fresh (collecting onlyD) 0 ())
        [.parseData [60, 100, 62], .parseData [116, 60], .parse [47, 100, 62],
          .parseData [10]] = .ok s ∧
      s.log.filterMap Effect.chunk? =
        [([60, 100, 62], false), ([116, 60], false), ([47, 100, 62], false), ([], true)] := by
  obtain ⟨s, hs⟩ : ∃ s, performAll (collecting onlyD) lettered
      (XMLPushParser.fresh (collecting onlyD) 0 ()) [.parseData [60, 100, 62],
        .parseData [116, 60], .parse [47, 100, 62], .parseData [10]] = .ok s := ⟨_, rfl⟩
  refine ⟨s, hs, ?_⟩
  have hfirst : ReleasedBy (collecting onlyD) [] [.parseData [60, 100, 62], .parseData [116, 60]]
      (.parse [47, 100, 62]) := by
    refine ⟨?_, ?_⟩
    · intro before c after hsplit
      have hmem : c ∈ [Call.parseData [60, 100, 62], .parseData [116, 60]] := by
        rw [hsplit]
        simp
      rcases List.mem_pair.mp hmem with rfl | rfl
      · exact id
      · exact id
    · show reportsOf ((collecting onlyD).eventsSoFar _ _) = []
      rw [collecting_eventsSoFar]
      rfl
  exact ((fed_until_released (collecting onlyD) lettered 0 () [] rfl _ s hs).2 _ _ _ rfl
    hfirst).2.2

end XMLPush

import XMLPush.Proof.Documents
import XMLPush.Session.Lifetime

/-!
# Calls on one parser

What the entry points promise, over every sequence of calls.

* **Each call is governed** (`calls_governed`) by the context it finds and the errors
  recorded up to its end. Here the three entry points, the once-only release and the element
  state machine meet: a document that libxml2 finds complete leaves the state machine as it
  was made.
* **`parse` releases the parser** (`parse_releases_iff`) when the data chunk reports no error,
  and only then: an error there is thrown out of `_parseData`, and `_finishParsing`, which
  holds the only call of `cleanupContext`, is never entered.
-/

set_option autoImplicit false

namespace XMLPush

open Nesting
open Machine
open LibXMLPushSAXParser

variable {Ctx W P : Type}

/-! ## Every call of every sequence -/

/-- libxml2 reports an error on the terminating chunk of every document whose elements are not
    complete, if it has not reported one before. -/
def LibXML2.ReportsIncomplete (lib : LibXML2 Ctx) (context : Ctx) : Prop :=
  ∀ chunks, reportsOf (lib.eventsSoFar context chunks) = [] →
    ¬ Complete (elementsOf (lib.events context chunks)) →
      reportsOf (lib.lastEvents context chunks) ≠ []

/-- What holds of a call made on `s` that ends with `outcome` and leaves `s'`. -/
structure Governed (lib : LibXML2 Ctx) (context : Ctx) (root : P)
    (s : XMLPushParser.Object Ctx W P) (outcome : Outcome (Option P))
    (s' : XMLPushParser.Object Ctx W P) : Prop where
  /-- It returns normally when the context was live and no error is recorded by its end. -/
  returns : (∃ result, outcome = .ok result) ↔ s.context.isSome = true ∧ ¬ Recorded s'
  /-- After an error nothing is returned any more. -/
  sticky : Recorded s → ∀ result, outcome ≠ .ok result
  /-- The context is fed while it is live, and freed once, with `unsafeSelf`. -/
  lifetime : Lifetime s'
  /-- After that every call throws, and changes nothing. -/
  freed : Effect.xmlFreeParserCtxt ∈ s.log → outcome = .error .usedAfterFinished ∧ s' = s
  /-- A root is returned with the element state as it was made. -/
  complete : lib.ReportsIncomplete context → ∀ returned, outcome = .ok (some returned) →
    returned = root ∧
      s'.subclass = { XMLPushParser.init root s'.subclass.host.world with host := s'.subclass.host }

section Sequences

variable {lib : LibXML2 Ctx} {D : SAXParsable W P} {root : P} {world : W} {context₀ : Ctx}

/-- Between the calls of a sequence the parser is kept. -/
theorem kept_performAll (hcreated : lib.xmlCreatePushParserCtxt = some context₀)
    {calls : List Call} {s : XMLPushParser.Object Ctx W P}
    (hcalls : performAll lib D (XMLPushParser.fresh lib root world) calls = .ok s) :
    Kept (XMLPushParser.handle D) lib context₀ (.init root world) s := by
  refine run_invariant ?_ (Kept.init hcreated) hcalls
  intro s call s' hkept hstep
  obtain ⟨⟨outcome, t⟩, hperform, hreturn⟩ := bind_eq_ok hstep
  cases hreturn
  obtain ⟨base, hends, -⟩ := Call.perform_ends hperform
  exact hkept.step hends

/-- A call only adds to the log. -/
theorem LibXMLPushSAXParser.Ends.log {σ : Type} {handle : σ → Event → Except Trap σ}
    {s s' : LibXMLPushSAXParser Ctx σ} {call : Call} {base : Outcome Unit}
    (h : Ends handle lib s call base s') : s.log <+: s'.log := by
  have hfed : ∀ {s : LibXMLPushSAXParser Ctx σ} (context : Ctx) (chunk : Data)
      (terminate : Bool) (subclass : σ),
      s.log <+: (s.fed lib context chunk terminate subclass).log :=
    fun _ _ _ _ => ⟨_, rfl⟩
  cases h with
  | finished hfin =>
    obtain ⟨-, -, rfl⟩ := hfin
    exact ⟨[], List.append_nil _⟩
  | fed h =>
    rw [h.after]
    exact hfed ..
  | threw h _ =>
    rw [h.after]
    exact hfed ..
  | terminated h =>
    rw [h.after]
    exact (hfed ..).trans (cleanupContext_log _)
  | parsed h h' =>
    rw [h'.after]
    refine List.IsPrefix.trans ?_ ((hfed ..).trans (cleanupContext_log _))
    rw [h.after]
    exact hfed ..

/-- A terminating chunk that reports nothing ends a complete document, and leaves the element
    state as it was made. -/
theorem subclass_of_terminated {s s' : XMLPushParser.Object Ctx W P}
    (hkept : Kept (XMLPushParser.handle D) lib context₀ (.init root world) s)
    (hincomplete : lib.ReportsIncomplete context₀) {context : Ctx}
    {subclass : XMLPushParser W P}
    (hterm : Terminated (XMLPushParser.handle D) lib s (.ok ()) s' context subclass) :
    s'.subclass = { XMLPushParser.init root s'.subclass.host.world with
      host := s'.subclass.host } := by
  obtain ⟨chunks, rfl, hrun, hquiet⟩ := hkept.run_chunk hterm.live hterm.handled
  have hnone : (s.fed lib (lib.after context₀ chunks) [] true subclass).error = none ∧
      s'.subclass = subclass := by
    have hpending := pendingError_eq_ok_iff.mp hterm.outcome.symm
    rw [hterm.after, cleanupContext_error] at hpending
    rw [hterm.after, cleanupContext_subclass]
    exact ⟨hpending, rfl⟩
  have hreports := (fed_error_eq_none_iff lib).mp hnone.1
  have hcomplete : Complete (elementsOf (lib.events context₀ chunks)) := by
    by_contra hnot
    exact hincomplete chunks (hquiet hreports.2) hnot hreports.1
  obtain ⟨doc, hdoc⟩ := complete_iff_exists_forest.mp hcomplete
  have htokens : run (XMLPushParser.handle D) (.init root world) doc.tokens = .ok subclass := by
    rw [← hdoc]
    exact hrun
  obtain ⟨-, hsubclass⟩ :=
    (run_wellNested_iff D root world doc.complete_tokens.wellNested).mp htokens
  rw [hnone.2, hsubclass, after_tokens]
  rfl

/-- …and so does every call that returns a root. -/
theorem subclass_of_returned {s s' : XMLPushParser.Object Ctx W P}
    (hkept : Kept (XMLPushParser.handle D) lib context₀ (.init root world) s)
    (hincomplete : lib.ReportsIncomplete context₀) {call : Call}
    (hends : Ends (XMLPushParser.handle D) lib s call (.ok ()) s') {returned : P}
    (hresult : call.result s' = some returned) :
    returned = root ∧ s'.subclass = { XMLPushParser.init root s'.subclass.host.world with
      host := s'.subclass.host } := by
  have hsubclass : s'.subclass = { XMLPushParser.init root s'.subclass.host.world with
      host := s'.subclass.host } := by
    cases hends with
    | finished h => cases h.2.1
    | fed h => cases hresult
    | threw h herror => exact absurd (pendingError_eq_ok_iff.mp h.outcome.symm) herror
    | terminated h => exact subclass_of_terminated hkept hincomplete h
    | parsed h h' => exact subclass_of_terminated (hkept.feed h) hincomplete h'
  have hroot : s'.subclass.root = root := by
    rw [hsubclass]
    rfl
  refine ⟨?_, hsubclass⟩
  cases call with
  | parse data => exact (Option.some.inj hresult).symm.trans hroot
  | parseData data => cases hresult
  | finishParsing => exact (Option.some.inj hresult).symm.trans hroot

end Sequences

/-- A call that ends, made after calls that ended, is governed. -/
theorem governed_of_performed {lib : LibXML2 Ctx} {D : SAXParsable W P} {root : P} {world : W}
    {context : Ctx} (hcreated : lib.xmlCreatePushParserCtxt = some context) {calls : List Call}
    {s : XMLPushParser.Object Ctx W P}
    (hcalls : performAll lib D (XMLPushParser.fresh lib root world) calls = .ok s)
    {call : Call} {outcome : Outcome (Option P)} {s' : XMLPushParser.Object Ctx W P}
    (hcall : call.perform lib D s = .ok (outcome, s')) :
    Governed lib context root s outcome s' := by
  have hkept := kept_performAll hcreated hcalls
  obtain ⟨base, hends, rfl⟩ := Call.perform_ends hcall
  have hiff := hkept.outcome_iff hends
  have hmap : ∀ result, (base.map fun _ => call.result s') = .ok result ↔
      base = .ok () ∧ call.result s' = result := by
    intro result
    cases base with
    | error error => simp [Except.map]
    | ok _ => simp [Except.map]
  refine ⟨?_, ?_, (hkept.step hends).lifetime, ?_, ?_⟩
  · rw [← hiff]
    constructor
    · rintro ⟨result, hok⟩
      exact ((hmap result).mp hok).1
    · intro hok
      exact ⟨_, (hmap _).mpr ⟨hok, rfl⟩⟩
  · rintro ⟨message, hmem⟩ result hok
    refine (hiff.mp ((hmap result).mp hok).1).2 ⟨message, ?_⟩
    exact hends.log.subset hmem
  · intro hfreed
    obtain ⟨-, rfl, rfl⟩ := hends.finished_of_none (hkept.context_of_freed hfreed)
    exact ⟨rfl, rfl⟩
  · intro hincomplete returned hok
    obtain ⟨rfl, hresult⟩ := (hmap _).mp hok
    exact subclass_of_returned hkept hincomplete hends hresult

/-- **Each call of every sequence of calls is governed by the context it finds and the errors
    recorded up to its end**, as long as no data longer than `Int32.max` is passed on a live
    context and no element handler traps: each call ends then, and how it ends is told. -/
theorem calls_governed (lib : LibXML2 Ctx) (D : SAXParsable W P) (root : P) (world : W)
    (context : Ctx) (hcreated : lib.xmlCreatePushParserCtxt = some context) (calls : List Call)
    (hfits : FitWhileLive lib D (XMLPushParser.fresh lib root world) calls)
    (hhandled : ∀ trap, performAll lib D (XMLPushParser.fresh lib root world) calls = .error trap →
      trap = .int32Overflow)
    (earlier later : List Call) (call : Call) (hsplit : calls = earlier ++ call :: later) :
    ∃ s outcome s', performAll lib D (XMLPushParser.fresh lib root world) earlier = .ok s ∧
      call.perform lib D s = .ok (outcome, s') ∧ Governed lib context root s outcome s' := by
  subst hsplit
  -- No length overflows, so nothing traps at all.
  have hok : ∃ t, performAll lib D (XMLPushParser.fresh lib root world)
      (earlier ++ call :: later) = .ok t := by
    cases hall : performAll lib D (XMLPushParser.fresh lib root world)
        (earlier ++ call :: later) with
    | ok t => exact ⟨t, rfl⟩
    | error trap =>
      rw [hhandled trap hall] at hall
      exact absurd hall (performAll_ne_overflow hfits)
  obtain ⟨t, ht⟩ := hok
  obtain ⟨s, hs, hrest⟩ := run_append_ok_iff.mp ht
  obtain ⟨u, hu, -⟩ := run_cons_ok_iff.mp hrest
  obtain ⟨⟨outcome, s'⟩, hcall, -⟩ := bind_eq_ok hu
  exact ⟨s, outcome, s', hs, hcall, governed_of_performed hcreated hs hcall⟩

/-- A libxml2 that collects the bytes it gets and makes the callbacks of the whole document on
    the terminating chunk. -/
def collecting (script : Data → List SAXCallback) : LibXML2 Data where
  xmlCreatePushParserCtxt := some []
  xmlParseChunk bytes chunk terminate :=
    (if terminate then script (bytes ++ chunk) else [], bytes ++ chunk)

theorem collecting_after (script : Data → List SAXCallback) (bytes : Data) (chunks : List Data) :
    (collecting script).after bytes chunks = bytes ++ chunks.flatten := by
  induction chunks generalizing bytes with
  | nil => simp [LibXML2.after]
  | cons chunk chunks ih =>
    refine (ih (bytes ++ chunk)).trans ?_
    simp

theorem collecting_eventsSoFar (script : Data → List SAXCallback) (bytes : Data)
    (chunks : List Data) : (collecting script).eventsSoFar bytes chunks = [] := by
  induction chunks generalizing bytes with
  | nil => rfl
  | cons chunk chunks ih => exact ih (bytes ++ chunk)

theorem collecting_events (script : Data → List SAXCallback) (chunks : List Data) :
    (collecting script).events [] chunks = (script chunks.flatten).map SAXCallback.event := by
  rw [LibXML2.events, collecting_eventsSoFar, LibXML2.lastEvents, collecting_after]
  simp [LibXML2.chunkEvents, collecting]

/-- `<d>t</d>`, and an error for everything else. -/
def onlyD (bytes : Data) : List SAXCallback :=
  if bytes = [60, 100, 62, 116, 60, 47, 100, 62] then
    [.startElementNs [100, 0] (some 0) none none 0 [],
      .characters [116] (some 0) 1,
      .endElementNs [100, 0] (some 0) none none]
  else [.error [98, 97, 100]]

theorem onlyD_reportsIncomplete : (collecting onlyD).ReportsIncomplete [] := by
  intro chunks _ hnot
  have hlast : (collecting onlyD).lastEvents [] chunks =
      (onlyD chunks.flatten).map SAXCallback.event := by
    rw [← collecting_events, LibXML2.events, collecting_eventsSoFar, List.nil_append]
  rw [collecting_events] at hnot
  rw [hlast]
  unfold onlyD at hnot ⊢
  split at hnot
  · exact absurd (by decide) hnot
  · rename_i hne
    rw [if_neg hne]
    simp [reportsOf, SAXCallback.event, SAXEvent.report?]

/-- 2 GiB. -/
def tooMuch : Data := List.replicate 2147483648 0

/-- The two halves of a document, and then too much. -/
def halvesAndMore : List Call :=
  [.parseData [60, 100, 62], .parse [116, 60, 47, 100, 62], .parseData tooMuch]

/-- What is too much comes when the context is gone. -/
theorem halvesAndMore_fit :
    FitWhileLive (collecting onlyD) lettered (XMLPushParser.fresh (collecting onlyD) 0 ())
      halvesAndMore := by
  intro earlier call later t hsplit hearlier hlive
  rcases earlier with - | ⟨first, - | ⟨second, - | ⟨third, earlier⟩⟩⟩
  · cases hsplit
    show [60, 100, 62].length ≤ int32Max
    decide
  · cases hsplit
    show [116, 60, 47, 100, 62].length ≤ int32Max
    decide
  · cases hsplit
    cases hearlier
    cases hlive
  · cases earlier with
    | nil => cases hsplit
    | cons fourth earlier => cases hsplit

/-- `parse` of the second half after `parseData` of the first returns the root, and leaves
    the element state as it was made; and then 2 GiB are refused like any other data. -/
theorem second_half_parsed : ∃ s s',
    performAll (collecting onlyD) lettered (XMLPushParser.fresh (collecting onlyD) 0 ())
        [.parseData [60, 100, 62]] = .ok s ∧
      (Call.parse [116, 60, 47, 100, 62]).perform (collecting onlyD) lettered s =
        .ok (.ok (some 0), s') ∧
      s'.subclass = { XMLPushParser.init 0 () with host := s'.subclass.host } ∧
      (Call.parseData tooMuch).perform (collecting onlyD) lettered s' =
        .ok (.error .usedAfterFinished, s') := by
  have hgoverned := calls_governed (collecting onlyD) lettered 0 () [] rfl halvesAndMore
    halvesAndMore_fit (by intro trap h; cases h)
  obtain ⟨s, outcome, s', hs, hcall, hparsed⟩ := hgoverned [.parseData [60, 100, 62]]
    [.parseData tooMuch] (.parse [116, 60, 47, 100, 62]) rfl
  obtain rfl := Except.ok.inj (hs.symm.trans rfl)
  obtain ⟨rfl, rfl⟩ := Prod.mk.inj (Except.ok.inj (hcall.symm.trans rfl))
  obtain ⟨t, refused, t', ht, hlate, hfinished⟩ := hgoverned
    [.parseData [60, 100, 62], .parse [116, 60, 47, 100, 62]] [] (.parseData tooMuch) rfl
  obtain rfl := Except.ok.inj (ht.symm.trans rfl)
  obtain ⟨rfl, rfl⟩ := hfinished.freed (by decide)
  exact ⟨_, _, hs, hcall, (hparsed.complete onlyD_reportsIncomplete 0 rfl).2, hlate⟩

/-- A libxml2 that makes no callback at all. -/
def silent : LibXML2 Unit where
  xmlCreatePushParserCtxt := some ()
  xmlParseChunk _ _ _ := ([], ())

/-- `Int32(data.count)` traps on 2 GiB: the context is live, no error is recorded and no
    handler is entered, and still `parseData` does not return. -/
theorem large_data_traps :
    let s : XMLPushParser.Object Unit Unit Nat := XMLPushParser.fresh silent 0 ()
    s.context.isSome = true ∧ ¬ Recorded s ∧
      (∀ context chunk terminate, silent.chunkEvents context chunk terminate = []) ∧
      (Call.parseData tooMuch).perform silent lettered s = .error .int32Overflow := by
  intro s
  have hlarge : int32Max < tooMuch.length := by
    rw [tooMuch, List.length_replicate]
    decide
  refine ⟨rfl, ?_, fun _ _ _ => rfl, ?_⟩
  · rintro ⟨message, hmem⟩
    cases hmem
  · have hlive : s.context = some () := rfl
    have hdata := _parseData_of_overflow (XMLPushParser.handle lettered) silent hlive hlarge
    simp only [Call.perform, XMLPushParser.parseData, hdata]
    rfl

/-! ## What `parse` releases -/

/-- The parser has let go: the context is freed, `unsafeSelf` is dropped, and after any more
    calls it is unchanged and every call throws. -/
structure Released (lib : LibXML2 Ctx) (D : SAXParsable W P)
    (s : XMLPushParser.Object Ctx W P) : Prop where
  freed : Effect.xmlFreeParserCtxt ∈ s.log
  context : s.context = none
  unsafeSelf : s.unsafeSelf = false
  throws : ∀ calls, performAll lib D s calls = .ok s ∧
    ∀ call : Call, call.perform lib D s = .ok (.error .usedAfterFinished, s)

/-- Between calls a parser has let go exactly when its context is gone. -/
theorem released_iff {lib : LibXML2 Ctx} {D : SAXParsable W P} {context₀ : Ctx}
    {subclass₀ : XMLPushParser W P} {s : XMLPushParser.Object Ctx W P}
    (hkept : Kept (XMLPushParser.handle D) lib context₀ subclass₀ s) :
    Released lib D s ↔ s.context = none := by
  constructor
  · intro h
    exact h.context
  · intro hnone
    obtain ⟨feeding, -, ⟨hlive, -, -⟩ | ⟨-, hself, hlog⟩⟩ := hkept.lifetime
    · rw [hnone] at hlive
      cases hlive
    · refine ⟨by simp [hlog], hnone, hself, fun calls => ⟨?_, ?_⟩⟩
      · induction calls with
        | nil => rfl
        | cons call calls ih =>
          refine (run_cons_ok ?_ calls).trans ih
          simp only [Call.perform_of_finished lib D hnone call]
          rfl
      · exact Call.perform_of_finished lib D hnone

/-- **`parse` on a fresh parser releases it if and only if its data chunk reports no error.** -/
theorem parse_releases_iff (lib : LibXML2 Ctx) (D : SAXParsable W P) (root : P) (world : W)
    (context : Ctx) (hcreated : lib.xmlCreatePushParserCtxt = some context) (data : Data)
    (outcome : Outcome (Option P)) (s' : XMLPushParser.Object Ctx W P)
    (hparse : (Call.parse data).perform lib D (XMLPushParser.fresh lib root world) =
      .ok (outcome, s')) :
    Released lib D s' ↔ reportsOf (lib.chunkEvents context data false) = [] := by
  have hfresh : Kept (XMLPushParser.handle D) lib context (.init root world)
      (XMLPushParser.fresh lib root world) := Kept.init hcreated
  obtain ⟨base, hends, -⟩ := Call.perform_ends hparse
  rw [released_iff (hfresh.step hends)]
  have hcontext : ∀ {c : Ctx}, (XMLPushParser.fresh lib root world).context = some c →
      c = context := by
    intro c hc
    exact Option.some.inj (hc.symm.trans hcreated)
  cases hends with
  | finished hfin => exact absurd (hfin.1.symm.trans hcreated) (by simp)
  | threw h herror =>
    obtain rfl := hcontext h.live
    rw [h.after] at herror ⊢
    constructor
    · intro hnone
      cases hnone
    · intro hreports
      exact absurd ((fed_error_eq_none_iff lib).mpr ⟨hreports, rfl⟩) herror
  | parsed h h' =>
    obtain rfl := hcontext h.live
    have hnone := pendingError_eq_ok_iff.mp h.outcome.symm
    rw [h.after, fed_error_eq_none_iff] at hnone
    exact iff_of_true ((hfresh.feed h).terminate h').2 hnone.1

/-- A libxml2 that makes its callbacks as the bytes arrive: `due n` are those of byte `n`. -/
def eager (due : Nat → List SAXCallback) : LibXML2 Nat where
  xmlCreatePushParserCtxt := some 0
  xmlParseChunk arrived chunk _ :=
    ((List.range' arrived chunk.length).flatMap due, arrived + chunk.length)

/-- `<p:a></b>`, where `p` is not declared and the end tag is not that of the start tag. -/
def mismatched : Data := [60, 112, 58, 97, 62, 60, 47, 98, 62]

/-- The start tag is reported and started at its last byte, the end tag reported at its. -/
def mismatchedDue : Nat → List SAXCallback
  | 4 => [.error (utf8Bytes "undeclared prefix"),
      .startElementNs [97, 0, 112, 0] (some 0) (some 2) none 0 []]
  | 8 => [.error (utf8Bytes "tag mismatch")]
  | _ => []

/-- `parse` throws the error of the data chunk with the context live, `unsafeSelf` held and
    nothing freed, and the next `parseData` is fed to libxml2. -/
theorem parse_leaks : ∃ s s',
    (Call.parse mismatched).perform (eager mismatchedDue) lettered
        (XMLPushParser.fresh (eager mismatchedDue) 0 ()) =
          .ok (.error (.libXML2Error "tag mismatch"), s) ∧
      s.context = some 9 ∧ s.unsafeSelf = true ∧ Effect.xmlFreeParserCtxt ∉ s.log ∧
      (Call.parseData [10]).perform (eager mismatchedDue) lettered s =
        .ok (.error (.libXML2Error "tag mismatch"), s') ∧
      Effect.xmlParseChunk [10] false ∈ s'.log :=
  ⟨_, _, rfl, rfl, rfl, by decide, rfl, by decide⟩

/-- The error of a document that is refused at its end is thrown by a parser that has let go. -/
theorem late_error_releases : ∃ s',
    (Call.parse [60, 120]).perform (collecting onlyD) lettered
        (XMLPushParser.fresh (collecting onlyD) 0 ()) = .ok (.error (.libXML2Error "bad"), s') ∧
      (Released (collecting onlyD) lettered s' ↔
        reportsOf ((collecting onlyD).chunkEvents [] [60, 120] false) = []) :=
  ⟨_, rfl, parse_releases_iff (collecting onlyD) lettered 0 () [] rfl [60, 120] _ _ rfl⟩

end XMLPush

import XMLPush.Proof.Calls
import XMLPush.Session.Chunking

/-!
# What the cutting of the input can change

libxml2 makes the same events of the same bytes, wherever they are cut; only which call
delivers an event changes, and where a run of text is split. Two results about a caller
that stops at the first throw.

* **Success does not depend on it** (`parse_iff_parseChunks`): the element handlers cannot
  tell a text from its halves, and a run returns exactly when they trap on nothing and no
  error is reported at all.
* **The error does** (`same_error_iff`). The slot is looked at after each chunk and holds the
  last report, so what is thrown is the last report of the first chunk that reports anything
  (`parseChunks_throws_iff`), and which one that is the chunk boundaries decide, unless libxml2
  delivers its reports so that it is one message wherever they are.
-/

set_option autoImplicit false

namespace XMLPush

open Nesting
open Machine
open Splitting
open LibXMLPushSAXParser

variable {Ctx W P : Type}

/-! ## Text, whole and in halves -/

/-- A run of text, as an event. -/
def SAXEvent.characters (bytes : Data) : SAXEvent := .element (.text bytes)

/-- `charactersFound` appends, so two calls do what one with both texts does. -/
theorem charactersFound_append (s : XMLPushParser W P) (a b : Data) :
    s.charactersFound (a ++ b) = (s.charactersFound a).charactersFound b := by
  unfold XMLPushParser.charactersFound
  cases s.buffer with
  | none => rfl
  | some bytes => simp

theorem additive_handle (D : SAXParsable W P) :
    Additive (Token.text : Data → Event) (XMLPushParser.handle D) :=
  fun s a b => congrArg Except.ok (charactersFound_append s a b)

theorem run_elementsOf_eq (D : SAXParsable W P) {xs ys : List SAXEvent}
    (h : Resplit SAXEvent.characters xs ys) (s : XMLPushParser W P) :
    run (XMLPushParser.handle D) s (elementsOf xs) =
      run (XMLPushParser.handle D) s (elementsOf ys) := by
  have htext : ∀ bytes, (SAXEvent.characters bytes).element? = some (Token.text bytes) :=
    fun _ => rfl
  exact (h.filterMap htext).run_eq (additive_handle D) s

theorem reportsOf_eq {xs ys : List SAXEvent} (h : Resplit SAXEvent.characters xs ys) :
    reportsOf xs = reportsOf ys := h.filterMap_eq fun _ => rfl

/-! ## Success -/

/-- libxml2 makes the same events of these bytes, whatever the chunks they arrive in, up to where
    text is split. -/
def LibXML2.Steady (lib : LibXML2 Ctx) (data : Data) : Prop :=
  ∀ context, lib.xmlCreatePushParserCtxt = some context → ∀ cs ds : List Data,
    cs.flatten = data → ds.flatten = data → Resplit SAXEvent.characters (lib.events context cs)
      (lib.events context ds)

/-- A use that returns has come through all its events and heard no error. -/
theorem ChunksEnd.of_returned {lib : LibXML2 Ctx} {D : SAXParsable W P} {context : Ctx}
    {chunks : List Data} {subclass₀ : XMLPushParser W P} {root : P}
    {s : XMLPushParser.Object Ctx W P}
    (h : ChunksEnd lib D context chunks subclass₀ (.ok (.ok root, s))) :
    ∃ subclass, run (XMLPushParser.handle D) subclass₀ (elementsOf (lib.events context chunks)) =
        .ok subclass ∧ reportsOf (lib.events context chunks) = [] ∧ root = subclass.root ∧
      s.withoutLog = finishedWith subclass := by
  cases h with
  | returned hrun hquiet hs => exact ⟨_, hrun, hquiet, rfl, hs⟩

/-- …and one with chunks that fit and such events returns. -/
theorem ChunksEnd.returns {lib : LibXML2 Ctx} {D : SAXParsable W P} {context : Ctx}
    {chunks : List Data} {subclass₀ subclass : XMLPushParser W P}
    {result : Except Trap (Outcome P × XMLPushParser.Object Ctx W P)}
    (h : ChunksEnd lib D context chunks subclass₀ result)
    (hfits : ∀ chunk ∈ chunks, chunk.length ≤ int32Max)
    (hrun : run (XMLPushParser.handle D) subclass₀ (elementsOf (lib.events context chunks)) =
      .ok subclass) (hquiet : reportsOf (lib.events context chunks) = []) :
    ∃ s, result = .ok (.ok subclass.root, s) := by
  cases h with
  | returned hrun' _ _ =>
    rw [hrun] at hrun'
    cases hrun'
    exact ⟨_, rfl⟩
  | threw hheard _ hlast =>
    obtain ⟨rest, hevents⟩ := hheard.isPrefix
    rw [← hevents, reportsOf_append, List.append_eq_nil_iff] at hquiet
    rw [hquiet.1] at hlast
    cases hlast
  | trapped htrap =>
    rw [hrun] at htrap
    cases htrap
  | overflowed hlarge =>
    obtain ⟨chunk, hmem, hlarge⟩ := hlarge
    exact absurd (hfits chunk hmem) (Nat.not_le.mpr hlarge)

/-- A parser whose context could not be created throws at once. -/
theorem parseChunks_of_finished (lib : LibXML2 Ctx) (D : SAXParsable W P)
    {s : XMLPushParser.Object Ctx W P} (h : s.context = none) (chunks : List Data) :
    parseChunks lib D chunks s = .ok (.error .usedAfterFinished, s) := by
  cases chunks with
  | nil =>
    simp only [parseChunks, XMLPushParser.finishParsing, _finishParsing_of_finished _ lib h]
    rfl
  | cons chunk chunks =>
    simp only [parseChunks, XMLPushParser.parseData, _parseData_of_finished _ lib h]
    rfl

theorem length_le_of_mem_chunks {chunks : List Data} {chunk : Data} (h : chunk ∈ chunks) :
    chunk.length ≤ chunks.flatten.length :=
  (List.sublist_flatten_of_mem h).length_le

theorem fresh_ends {lib : LibXML2 Ctx} {context : Ctx}
    (hcreated : lib.xmlCreatePushParserCtxt = some context) (D : SAXParsable W P) (root : P)
    (world : W) (chunks : List Data) :
    ChunksEnd lib D context chunks (.init root world)
      (parseChunks lib D chunks (XMLPushParser.fresh lib root world)) := by
  have hlive : (XMLPushParser.fresh lib root world).context = some context := hcreated
  exact parseChunks_ends lib D chunks hlive rfl rfl

/-- What one way to cut the input returns, every other way returns, with the same root and
    the same parser. -/
theorem returns_alike {lib : LibXML2 Ctx} {D : SAXParsable W P} {root : P} {world : W}
    {cs ds : List Data} (hsteady : lib.Steady ds.flatten) (hflatten : cs.flatten = ds.flatten)
    (hlength : ds.flatten.length ≤ int32Max) {r : P} {s : XMLPushParser.Object Ctx W P}
    (h : parseChunks lib D cs (XMLPushParser.fresh lib root world) = .ok (.ok r, s)) :
    ∃ t, parseChunks lib D ds (XMLPushParser.fresh lib root world) = .ok (.ok r, t) ∧
      t.withoutLog = s.withoutLog := by
  cases hcreated : lib.xmlCreatePushParserCtxt with
  | none =>
    rw [parseChunks_of_finished lib D hcreated] at h
    cases h
  | some context =>
    have hcs := fresh_ends hcreated D root world cs
    have hds := fresh_ends hcreated D root world ds
    rw [h] at hcs
    obtain ⟨subclass, hrun, hquiet, rfl, hs⟩ := hcs.of_returned
    have hsame := hsteady context hcreated cs ds hflatten rfl
    rw [run_elementsOf_eq D hsame] at hrun
    rw [reportsOf_eq hsame] at hquiet
    obtain ⟨t, ht⟩ := hds.returns
      (fun chunk hmem => Nat.le_trans (length_le_of_mem_chunks hmem) hlength) hrun hquiet
    refine ⟨t, ht, ?_⟩
    rw [ht] at hds
    obtain ⟨subclass', hrun', -, -, hfinished⟩ := hds.of_returned
    rw [hrun] at hrun'
    cases hrun'
    rw [hfinished, hs]

/-- **The way the input is cut does not matter on success.** `parse` returns if and only if
    `parseData` on every chunk and then `finishParsing` does, and then they return the same
    root and leave the same parser: its private state, the delegates' world and every callback
    made on them with every argument. -/
theorem parse_iff_parseChunks (lib : LibXML2 Ctx) (D : SAXParsable W P) (root : P) (world : W)
    (data : Data) (hsteady : lib.Steady data) (chunks : List Data) (hdata : chunks.flatten = data)
    (hlength : data.length ≤ int32Max) :
    ((∃ r s, XMLPushParser.parse lib D data (XMLPushParser.fresh lib root world) = .ok (.ok r, s)) ↔
      ∃ r s, parseChunks lib D chunks (XMLPushParser.fresh lib root world) = .ok (.ok r, s)) ∧
    ∀ r s r' s', XMLPushParser.parse lib D data (XMLPushParser.fresh lib root world) = .ok (.ok r, s) →
      parseChunks lib D chunks (XMLPushParser.fresh lib root world) = .ok (.ok r', s') →
        r' = r ∧ s'.withoutLog = s.withoutLog := by
  subst hdata
  have hflatten : [chunks.flatten].flatten = chunks.flatten := by simp
  rw [parse_eq_parseChunks]
  refine ⟨⟨?_, ?_⟩, ?_⟩
  · rintro ⟨r, s, h⟩
    obtain ⟨t, ht, -⟩ := returns_alike hsteady hflatten hlength h
    exact ⟨r, t, ht⟩
  · rintro ⟨r, s, h⟩
    obtain ⟨t, ht, -⟩ := returns_alike (hflatten.symm ▸ hsteady) hflatten.symm
      (hflatten.symm ▸ hlength) h
    exact ⟨r, t, ht⟩
  · intro r s r' s' h h'
    obtain ⟨t, ht, hsame⟩ := returns_alike hsteady hflatten hlength h
    rw [ht] at h'
    cases h'
    exact ⟨rfl, hsame⟩

theorem eager_events (due : Nat → List SAXCallback) (arrived : Nat) (chunks : List Data) :
    (eager due).events arrived chunks =
      ((List.range' arrived chunks.flatten.length).flatMap due).map SAXCallback.event := by
  induction chunks generalizing arrived with
  | nil => rfl
  | cons chunk chunks ih =>
    rw [LibXML2.events_cons, List.flatten_cons, List.length_append, ← List.range'_append_1,
      List.flatMap_append, List.map_append, ← ih]
    rfl

theorem eager_steady (due : Nat → List SAXCallback) (data : Data) : (eager due).Steady data := by
  intro context _ cs ds hcs hds
  rw [eager_events, eager_events, hcs, hds]
  exact .refl _

/-- `<d>t</d>`: the start tag, the text and the end tag, each at its last byte. -/
def onlyDDue : Nat → List SAXCallback
  | 2 => [.startElementNs [100, 0] (some 0) none none 0 []]
  | 3 => [.characters [116] (some 0) 1]
  | 7 => [.endElementNs [100, 0] (some 0) none none]
  | _ => []

/-- `<d>t</d>`, whole and cut inside the start tag and before the end tag. -/
theorem cut_document_parsed :
    ((∃ r s, XMLPushParser.parse (eager onlyDDue) lettered [60, 100, 62, 116, 60, 47, 100, 62]
        (XMLPushParser.fresh (eager onlyDDue) 0 ()) = .ok (.ok r, s)) ↔
      ∃ r s, parseChunks (eager onlyDDue) lettered
        [[60, 100], [], [62, 116], [60, 47, 100, 62]]
        (XMLPushParser.fresh (eager onlyDDue) 0 ()) = .ok (.ok r, s)) ∧
    ∀ r s r' s', XMLPushParser.parse (eager onlyDDue) lettered [60, 100, 62, 116, 60, 47, 100, 62]
        (XMLPushParser.fresh (eager onlyDDue) 0 ()) = .ok (.ok r, s) →
      parseChunks (eager onlyDDue) lettered [[60, 100], [], [62, 116], [60, 47, 100, 62]]
        (XMLPushParser.fresh (eager onlyDDue) 0 ()) = .ok (.ok r', s') →
        r' = r ∧ s'.withoutLog = s.withoutLog :=
  parse_iff_parseChunks (eager onlyDDue) lettered 0 () [60, 100, 62, 116, 60, 47, 100, 62]
    (eager_steady onlyDDue _) [[60, 100], [], [62, 116], [60, 47, 100, 62]] rfl (by decide)

/-! ## The error -/

/-- The chunks a caller passes on up to the first that reports anything, and the events libxml2
    has made by the end of it. The terminating chunk is behind all the others. -/
def LibXML2.untilReport (lib : LibXML2 Ctx) : Ctx → List Data → List Data × List SAXEvent
  | context, [] => ([], lib.chunkEvents context [] true)
  | context, chunk :: chunks =>
    if reportsOf (lib.chunkEvents context chunk false) = [] then
      let rest := lib.untilReport (lib.afterChunk context chunk false) chunks
      (chunk :: rest.1, lib.chunkEvents context chunk false ++ rest.2)
    else ([chunk], lib.chunkEvents context chunk false)

/-- The message is the last report of the first chunk that reports anything, and nothing stops
    the parser before the end of that chunk: the lengths up to there are `Int32`s, and no element
    event traps. -/
structure Surfaces (lib : LibXML2 Ctx) (D : SAXParsable W P) (context : Ctx)
    (subclass₀ : XMLPushParser W P) (chunks : List Data) (message : String) : Prop where
  fits : ∀ chunk ∈ (lib.untilReport context chunks).1, chunk.length ≤ int32Max
  handled : ∃ subclass, run (XMLPushParser.handle D) subclass₀
    (elementsOf (lib.untilReport context chunks).2) = .ok subclass
  last : (reportsOf (lib.untilReport context chunks).2).getLast? = some message

section Surfacing

variable {lib : LibXML2 Ctx} {D : SAXParsable W P} {context : Ctx}
  {subclass₀ subclass : XMLPushParser W P} {chunk : Data} {chunks : List Data} {message : String}

theorem LibXML2.untilReport_of_quiet
    (hquiet : reportsOf (lib.chunkEvents context chunk false) = []) (chunks : List Data) :
    lib.untilReport context (chunk :: chunks) =
      (chunk :: (lib.untilReport (lib.afterChunk context chunk false) chunks).1,
        lib.chunkEvents context chunk false ++
          (lib.untilReport (lib.afterChunk context chunk false) chunks).2) := by
  rw [untilReport, if_pos hquiet]

theorem LibXML2.untilReport_of_report
    (hreports : reportsOf (lib.chunkEvents context chunk false) ≠ []) (chunks : List Data) :
    lib.untilReport context (chunk :: chunks) = ([chunk], lib.chunkEvents context chunk false) := by
  rw [untilReport, if_neg hreports]

/-- The first chunk is passed on, and its events are made, whatever it reports. -/
theorem Surfaces.first (h : Surfaces lib D context subclass₀ (chunk :: chunks) message) :
    chunk.length ≤ int32Max ∧ ∃ subclass, run (XMLPushParser.handle D) subclass₀
      (elementsOf (lib.chunkEvents context chunk false)) = .ok subclass := by
  obtain ⟨hfits, ⟨subclass, hrun⟩, -⟩ := h
  by_cases hquiet : reportsOf (lib.chunkEvents context chunk false) = []
  · rw [LibXML2.untilReport_of_quiet hquiet] at hfits hrun
    rw [elementsOf_append] at hrun
    obtain ⟨next, hnext, -⟩ := run_append_ok_iff.mp hrun
    exact ⟨hfits chunk List.mem_cons_self, next, hnext⟩
  · rw [LibXML2.untilReport_of_report hquiet] at hfits hrun
    exact ⟨hfits chunk (List.mem_singleton_self chunk), subclass, hrun⟩

/-- Behind a chunk that reports nothing it is the rest that surfaces. -/
theorem surfaces_iff_of_quiet (hfits : chunk.length ≤ int32Max)
    (hrun : run (XMLPushParser.handle D) subclass₀
      (elementsOf (lib.chunkEvents context chunk false)) = .ok subclass)
    (hquiet : reportsOf (lib.chunkEvents context chunk false) = []) :
    Surfaces lib D context subclass₀ (chunk :: chunks) message ↔
      Surfaces lib D (lib.afterChunk context chunk false) subclass chunks message := by
  have huntil := LibXML2.untilReport_of_quiet hquiet chunks
  constructor
  · intro h
    obtain ⟨hall, ⟨last, hlast⟩, hmessage⟩ := h
    rw [huntil] at hall hlast hmessage
    rw [elementsOf_append, run_append_ok hrun] at hlast
    rw [reportsOf_append, hquiet, List.nil_append] at hmessage
    exact ⟨fun c hc => hall c (List.mem_cons_of_mem _ hc), ⟨last, hlast⟩, hmessage⟩
  · intro h
    obtain ⟨hall, ⟨last, hlast⟩, hmessage⟩ := h
    refine ⟨?_, ⟨last, ?_⟩, ?_⟩
    · rw [huntil]
      exact List.forall_mem_cons.mpr ⟨hfits, hall⟩
    · rw [huntil, elementsOf_append, run_append_ok hrun]
      exact hlast
    · rw [huntil, reportsOf_append, hquiet, List.nil_append]
      exact hmessage

/-- The last report of the first chunk that reports anything is what surfaces. -/
theorem surfaces_iff_of_report {last : String} (hfits : chunk.length ≤ int32Max)
    (hrun : run (XMLPushParser.handle D) subclass₀
      (elementsOf (lib.chunkEvents context chunk false)) = .ok subclass)
    (hlast : (reportsOf (lib.chunkEvents context chunk false)).getLast? = some last) :
    Surfaces lib D context subclass₀ (chunk :: chunks) message ↔ last = message := by
  have hreports : reportsOf (lib.chunkEvents context chunk false) ≠ [] := by
    intro hnil
    rw [hnil] at hlast
    cases hlast
  have huntil := LibXML2.untilReport_of_report hreports chunks
  constructor
  · intro h
    have hmessage := h.last
    rw [huntil, hlast] at hmessage
    exact Option.some.inj hmessage
  · intro hsame
    subst hsame
    refine ⟨?_, ⟨subclass, ?_⟩, ?_⟩
    · rw [huntil]
      exact List.forall_mem_singleton.mpr hfits
    · rw [huntil]
      exact hrun
    · rw [huntil]
      exact hlast

/-- With no data chunk left, what surfaces is the last report of the terminating one. -/
theorem ChunksEnd.throws_nil_iff
    {result : Except Trap (Outcome P × XMLPushParser.Object Ctx W P)}
    (h : ChunksEnd lib D context [] subclass₀ result) :
    (∃ s', result = .ok (.error (.libXML2Error message), s')) ↔
      Surfaces lib D context subclass₀ [] message := by
  have hevents : (lib.untilReport context []).2 = lib.events context [] :=
    (LibXML2.events_nil lib context).symm
  have hsurfaces : Surfaces lib D context subclass₀ [] message ↔
      (∃ subclass, run (XMLPushParser.handle D) subclass₀ (elementsOf (lib.events context [])) =
        .ok subclass) ∧ (reportsOf (lib.events context [])).getLast? = some message := by
    rw [← hevents]
    exact ⟨fun h => ⟨h.handled, h.last⟩,
      fun h => ⟨fun c hc => absurd hc List.not_mem_nil, h.1, h.2⟩⟩
  rw [hsurfaces]
  cases h with
  | returned hrun hquiet hs' =>
    rw [hquiet]
    exact iff_of_false (by rintro ⟨s', h⟩; cases h) (by rintro ⟨-, h⟩; cases h)
  | threw hheard hrun hlast =>
    rcases hheard with ⟨n, rfl⟩ | rfl
    · rw [List.take_nil] at hlast
      cases hlast
    · rw [hlast]
      constructor
      · intro hthrown
        obtain ⟨s', h⟩ := hthrown
        cases h
        exact ⟨⟨_, hrun⟩, rfl⟩
      · intro hsome
        obtain ⟨-, h⟩ := hsome
        cases h
        exact ⟨_, rfl⟩
  | trapped hrun =>
    rw [hrun]
    exact iff_of_false (by rintro ⟨s', h⟩; cases h) (by rintro ⟨⟨subclass, h⟩, -⟩; cases h)
  | overflowed hlarge =>
    obtain ⟨c, hc, -⟩ := hlarge
    cases hc

/-- **What is thrown is what surfaces.** -/
theorem parseChunks_throws_iff {s : XMLPushParser.Object Ctx W P}
    (hlive : s.context = some context) (herror : s.error = none) (honce : s.once = false) :
    (∃ s', parseChunks lib D chunks s = .ok (.error (.libXML2Error message), s')) ↔
      Surfaces lib D context s.subclass chunks message := by
  induction chunks generalizing s context with
  | nil => exact (finishParsing_ends lib D hlive herror honce).throws_nil_iff
  | cons chunk chunks ih =>
    by_cases hfits : chunk.length ≤ int32Max
    · cases hrun : run (XMLPushParser.handle D) s.subclass
          (elementsOf (lib.chunkEvents context chunk false)) with
      | error trap =>
        apply iff_of_false
        · intro hthrown
          obtain ⟨s', h⟩ := hthrown
          simp only [parseChunks, XMLPushParser.parseData, _parseData_of_live _ lib hlive hfits,
            hrun] at h
          cases h
        · intro h
          obtain ⟨-, subclass, hok⟩ := h.first
          rw [hrun] at hok
          cases hok
      | ok subclass =>
        by_cases hquiet : reportsOf (lib.chunkEvents context chunk false) = []
        · have herror' : (s.fed lib context chunk false subclass).error = none :=
            (fed_error_eq_none_iff lib).mpr ⟨hquiet, herror⟩
          rw [parseChunks_of_quiet lib D hlive herror hfits hrun hquiet,
            surfaces_iff_of_quiet hfits hrun hquiet]
          exact ih rfl herror' honce
        · have hlast := List.getLast?_eq_some_getLast hquiet
          rw [parseChunks_of_report lib D hlive hfits hrun hlast,
            surfaces_iff_of_report hfits hrun hlast]
          constructor
          · intro hthrown
            obtain ⟨s', h⟩ := hthrown
            cases h
            rfl
          · intro hsame
            subst hsame
            exact ⟨_, rfl⟩
    · have hlarge := Nat.lt_of_not_le hfits
      rw [parseChunks_of_overflow lib D hlive hlarge]
      exact iff_of_false (by rintro ⟨s', h⟩; cases h) fun h => hfits h.first.1

end Surfacing

/-- The use of a fresh parser with these chunks throws. -/
def Throws (lib : LibXML2 Ctx) (D : SAXParsable W P) (root : P) (world : W)
    (chunks : List Data) (error : PushSaxParserErrorCode) : Prop :=
  ∃ s, parseChunks lib D chunks (XMLPushParser.fresh lib root world) = .ok (.error error, s)

section Throwing

variable {lib : LibXML2 Ctx} {D : SAXParsable W P} {root : P} {world : W} {context : Ctx}

theorem throws_iff (hcreated : lib.xmlCreatePushParserCtxt = some context) {chunks : List Data}
    {message : String} :
    Throws lib D root world chunks (.libXML2Error message) ↔
      Surfaces lib D context (.init root world) chunks message := by
  have hlive : (XMLPushParser.fresh lib root world).context = some context := hcreated
  exact parseChunks_throws_iff hlive rfl rfl

/-- Nothing else is thrown. -/
theorem Throws.exists_message (hcreated : lib.xmlCreatePushParserCtxt = some context)
    {chunks : List Data} {error : PushSaxParserErrorCode}
    (h : Throws lib D root world chunks error) : ∃ message, error = .libXML2Error message := by
  obtain ⟨s, hs⟩ := h
  have hends := fresh_ends hcreated D root world chunks
  rw [hs] at hends
  cases hends with
  | threw => exact ⟨_, rfl⟩

/-- Without a context every use throws, and the same. -/
theorem throws_iff_of_not_created (hnot : lib.xmlCreatePushParserCtxt = none)
    {chunks : List Data} {error : PushSaxParserErrorCode} :
    Throws lib D root world chunks error ↔ error = .usedAfterFinished := by
  have hend := parseChunks_of_finished lib D (s := XMLPushParser.fresh lib root world) hnot chunks
  constructor
  · intro h
    obtain ⟨s, hs⟩ := h
    rw [hend] at hs
    cases hs
    rfl
  · intro h
    subst h
    exact ⟨_, hend⟩

end Throwing

/-- **The error a caller sees does not depend on how the document is cut exactly when libxml2
    delivers its reports so**: in no division does a report surface, or in all of them one and
    the same message does. -/
theorem same_error_iff (lib : LibXML2 Ctx) (D : SAXParsable W P) (root : P) (world : W)
    (document : Data) :
    (∀ cs ds : List Data, cs.flatten = document → ds.flatten = document →
        ∀ error, Throws lib D root world cs error → Throws lib D root world ds error) ↔
      ∀ context, lib.xmlCreatePushParserCtxt = some context →
        (∀ cs : List Data, cs.flatten = document →
          ∀ message, ¬ Surfaces lib D context (.init root world) cs message) ∨
        ∃ message, ∀ cs : List Data, cs.flatten = document →
          Surfaces lib D context (.init root world) cs message := by
  constructor
  · intro hsame context hcreated
    by_cases hnone : ∀ cs : List Data, cs.flatten = document →
        ∀ message, ¬ Surfaces lib D context (.init root world) cs message
    · exact Or.inl hnone
    · push Not at hnone
      obtain ⟨cs, hcs, message, hsurfaces⟩ := hnone
      refine Or.inr ⟨message, fun ds hds => ?_⟩
      rw [← throws_iff hcreated] at hsurfaces ⊢
      exact hsame cs ds hcs hds _ hsurfaces
  · intro hcondition cs ds hcs hds error hthrows
    cases hcreated : lib.xmlCreatePushParserCtxt with
    | none =>
      rw [throws_iff_of_not_created hcreated] at hthrows ⊢
      exact hthrows
    | some context =>
      obtain ⟨thrown, rfl⟩ := hthrows.exists_message hcreated
      rw [throws_iff hcreated] at hthrows ⊢
      rcases hcondition context hcreated with hnone | ⟨message, hall⟩
      · exact absurd hthrows (hnone cs hcs thrown)
      · -- What surfaces in a division is one message.
        have hone : some thrown = some message := hthrows.last.symm.trans (hall cs hcs).last
        rw [Option.some.inj hone]
        exact hall ds hds

/-- `<p:a>` and nothing behind it: the prefix is reported at the last byte, and the terminating
    chunk reports the rest of the document missing. -/
def unclosed : LibXML2 Nat where
  xmlCreatePushParserCtxt := some 0
  xmlParseChunk arrived chunk terminate :=
    if terminate then ([.error (utf8Bytes "premature end")], arrived)
    else (eager mismatchedDue).xmlParseChunk arrived chunk false

theorem mismatchedDue_of_lt : ∀ {n : Nat}, n < 4 → mismatchedDue n = []
  | 0, _ | 1, _ | 2, _ | 3, _ => rfl

theorem flatMap_mismatchedDue_of_early {arrived length : Nat} (h : arrived + length < 5) :
    (List.range' arrived length).flatMap mismatchedDue = [] := by
  rw [List.flatMap_eq_nil_iff]
  intro n hn
  rw [List.mem_range'_1] at hn
  exact mismatchedDue_of_lt (by omega)

theorem unclosed_chunkEvents_of_early {arrived : Nat} {chunk : Data}
    (h : arrived + chunk.length < 5) : unclosed.chunkEvents arrived chunk false = [] := by
  show ((List.range' arrived chunk.length).flatMap mismatchedDue).map SAXCallback.event = []
  rw [flatMap_mismatchedDue_of_early h, List.map_nil]

theorem unclosed_chunkEvents_of_last {arrived : Nat} {chunk : Data} (harrived : arrived < 5)
    (h : arrived + chunk.length = 5) :
    unclosed.chunkEvents arrived chunk false = (mismatchedDue 4).map SAXCallback.event := by
  obtain ⟨early, hearly⟩ : ∃ early, chunk.length = early + 1 := ⟨chunk.length - 1, by omega⟩
  have hlast : arrived + 1 * early = 4 := by omega
  show ((List.range' arrived chunk.length).flatMap mismatchedDue).map SAXCallback.event = _
  rw [hearly, List.range'_concat, hlast, List.flatMap_append,
    flatMap_mismatchedDue_of_early (by omega), List.nil_append, List.flatMap_singleton]

/-- Only the last byte of the tag reports anything, so whichever chunk brings it is thrown. -/
theorem unclosed_surfaces {arrived : Nat} (harrived : arrived < 5) {chunks : List Data}
    (h : arrived + chunks.flatten.length = 5) :
    Surfaces unclosed lettered arrived (.init 0 ()) chunks "undeclared prefix" := by
  induction chunks generalizing arrived with
  | nil =>
    rw [List.flatten_nil, List.length_nil] at h
    omega
  | cons chunk chunks ih =>
    rw [List.flatten_cons, List.length_append] at h
    have hfits : chunk.length ≤ int32Max := by
      have hmax : 5 ≤ int32Max := by decide
      omega
    by_cases hearly : arrived + chunk.length < 5
    · have hevents := unclosed_chunkEvents_of_early hearly
      have hafter : unclosed.afterChunk arrived chunk false = arrived + chunk.length := rfl
      rw [surfaces_iff_of_quiet hfits (by rw [hevents]; rfl) (by rw [hevents]; rfl), hafter]
      exact ih hearly (by omega)
    · have hlast : arrived + chunk.length = 5 := by omega
      have hevents := unclosed_chunkEvents_of_last harrived hlast
      have hreported : (reportsOf (unclosed.chunkEvents arrived chunk false)).getLast? =
          some "undeclared prefix" := by
        rw [hevents]
        decide
      exact (surfaces_iff_of_report hfits (by rw [hevents]; rfl) hreported).mpr rfl

/-- `<p:a>` in two chunks and in one. -/
theorem undeclared_prefix_thrown :
    Throws unclosed lettered 0 () [[60, 112, 58], [97, 62]]
        (.libXML2Error "undeclared prefix") ∧
      Throws unclosed lettered 0 () [[60, 112, 58, 97, 62]]
        (.libXML2Error "undeclared prefix") := by
  have hcondition : ∀ context, unclosed.xmlCreatePushParserCtxt = some context →
      (∀ cs : List Data, cs.flatten = [60, 112, 58, 97, 62] →
        ∀ message, ¬ Surfaces unclosed lettered context (.init 0 ()) cs message) ∨
      ∃ message, ∀ cs : List Data, cs.flatten = [60, 112, 58, 97, 62] →
        Surfaces unclosed lettered context (.init 0 ()) cs message := by
    rintro context ⟨rfl⟩
    refine Or.inr ⟨"undeclared prefix", fun cs hcs => ?_⟩
    have hlength : 0 + cs.flatten.length = 5 := by rw [hcs]; rfl
    exact unclosed_surfaces (by decide) hlength
  have htwo : Throws unclosed lettered 0 () [[60, 112, 58], [97, 62]]
      (.libXML2Error "undeclared prefix") := ⟨_, rfl⟩
  exact ⟨htwo, (same_error_iff unclosed lettered 0 () [60, 112, 58, 97, 62]).mpr hcondition
    _ _ rfl rfl _ htwo⟩

/-- `<p:a></b>` in two chunks, one for each tag: the report on the start tag is thrown, and in
    one chunk the report on the end tag. -/
theorem two_errors_thrown :
    (eager mismatchedDue).Steady mismatched ∧
      Throws (eager mismatchedDue) lettered 0 () [[60, 112, 58, 97, 62], [60, 47, 98, 62]]
        (.libXML2Error "undeclared prefix") ∧
      Throws (eager mismatchedDue) lettered 0 () [mismatched] (.libXML2Error "tag mismatch") ∧
      ¬ Throws (eager mismatchedDue) lettered 0 () [mismatched]
        (.libXML2Error "undeclared prefix") := by
  refine ⟨eager_steady mismatchedDue mismatched, ⟨_, rfl⟩, ⟨_, rfl⟩, ?_⟩
  rintro ⟨s, h⟩
  injection h with h
  injection h with h
  injection h with h
  injection h with h
  exact absurd h (by decide)

end XMLPush

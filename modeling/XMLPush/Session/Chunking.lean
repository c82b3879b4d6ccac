import XMLPush.Lib.Splitting
import XMLPush.Session.Chunk

/-!
# A document that arrives in chunks

The class comment allows two ways to use a parser, and `parseChunks` is the second one:
`parseData` for every chunk, up to the first throw, and then `finishParsing`. The first,
`parse`, is the same thing with one chunk (`parse_eq_parseChunks`).

`ChunksEnd` says how such a use ends, from the events libxml2 makes of the chunks alone. A
run that returns has gone through all of them and heard no error; a run that throws has
gone through those of some of the chunks, or of all of them, and throws the last error it
heard; everything else traps.
-/

set_option autoImplicit false

namespace XMLPush

open Nesting
open Machine
open Splitting
open LibXMLPushSAXParser

variable {Ctx W P : Type}

/-- `parseData` on every chunk in turn, stopping at the first throw, and then
    `finishParsing`. -/
def parseChunks (lib : LibXML2 Ctx) (D : SAXParsable W P) :
    List Data → XMLPushParser.Object Ctx W P →
      Except Trap (Outcome P × XMLPushParser.Object Ctx W P)
  | [], s => XMLPushParser.finishParsing lib D s
  | chunk :: chunks, s => do
    let (outcome, s) ← XMLPushParser.parseData lib D chunk s
    match outcome with
    | .error error => return (.error error, s)
    | .ok () => parseChunks lib D chunks s

/-- `parse` is the use with one chunk. -/
theorem parse_eq_parseChunks (lib : LibXML2 Ctx) (D : SAXParsable W P) (data : Data)
    (s : XMLPushParser.Object Ctx W P) :
    XMLPushParser.parse lib D data s = parseChunks lib D [data] s := by
  cases hcontext : s.context with
  | none =>
    simp only [parseChunks, XMLPushParser.parse, XMLPushParser.parseData,
      _parse_of_finished _ lib hcontext, _parseData_of_finished _ lib hcontext]
    rfl
  | some context =>
    simp only [parseChunks, XMLPushParser.parse, XMLPushParser.parseData, _parse, hcontext]
    cases s._parseData lib (XMLPushParser.handle D) data with
    | error trap => rfl
    | ok result =>
      obtain ⟨outcome, t⟩ := result
      cases outcome with
      | error error => rfl
      | ok _ => rfl

/-- What a parser has heard when it throws: the events of some of the chunks, or all of
    them. -/
def HeardUpTo (lib : LibXML2 Ctx) (context : Ctx) (chunks : List Data)
    (heard : List SAXEvent) : Prop :=
  (∃ n, heard = lib.eventsSoFar context (chunks.take n)) ∨ heard = lib.events context chunks

theorem HeardUpTo.cons {lib : LibXML2 Ctx} {context : Ctx} {chunk : Data} {chunks : List Data}
    {heard : List SAXEvent} (h : HeardUpTo lib (lib.afterChunk context chunk false) chunks heard) :
    HeardUpTo lib context (chunk :: chunks) (lib.chunkEvents context chunk false ++ heard) := by
  rcases h with ⟨n, rfl⟩ | rfl
  · exact Or.inl ⟨n + 1, rfl⟩
  · exact Or.inr (lib.events_cons context chunk chunks).symm

theorem HeardUpTo.isPrefix {lib : LibXML2 Ctx} {context : Ctx} {chunks : List Data}
    {heard : List SAXEvent} (h : HeardUpTo lib context chunks heard) :
    heard <+: lib.events context chunks := by
  rcases h with ⟨n, rfl⟩ | rfl
  · induction chunks generalizing context n with
    | nil => exact ⟨lib.events context [], by simp [LibXML2.eventsSoFar]⟩
    | cons chunk chunks ih =>
      cases n with
      | zero => exact ⟨_, List.nil_append _⟩
      | succ n =>
        rw [List.take_succ_cons, LibXML2.events_cons]
        exact List.prefix_append_right_inj _ |>.mpr (ih n)
  · exact ⟨[], List.append_nil _⟩

namespace LibXMLPushSAXParser

variable {σ : Type}

/-- A parser, up to what its log says. -/
def withoutLog (s : LibXMLPushSAXParser Ctx σ) : LibXMLPushSAXParser Ctx σ :=
  { s with log := [] }

/-- A parser that has finished without an error. -/
def finishedWith (subclass : σ) : LibXMLPushSAXParser Ctx σ where
  context := none
  error := none
  unsafeSelf := false
  once := true
  subclass := subclass
  log := []

end LibXMLPushSAXParser

/-- How the use of a fresh parser with these chunks ends. -/
inductive ChunksEnd (lib : LibXML2 Ctx) (D : SAXParsable W P) (context : Ctx)
    (chunks : List Data) (subclass₀ : XMLPushParser W P) :
    Except Trap (Outcome P × XMLPushParser.Object Ctx W P) → Prop where
  | returned {subclass : XMLPushParser W P} {s' : XMLPushParser.Object Ctx W P}
      (hrun : run (XMLPushParser.handle D) subclass₀ (elementsOf (lib.events context chunks)) =
        .ok subclass)
      (hquiet : reportsOf (lib.events context chunks) = [])
      (hs' : s'.withoutLog = finishedWith subclass) :
      ChunksEnd lib D context chunks subclass₀ (.ok (.ok subclass.root, s'))
  | threw {heard : List SAXEvent} {subclass : XMLPushParser W P} {message : String}
      {s' : XMLPushParser.Object Ctx W P} (hheard : HeardUpTo lib context chunks heard)
      (hrun : run (XMLPushParser.handle D) subclass₀ (elementsOf heard) = .ok subclass)
      (hlast : (reportsOf heard).getLast? = some message) :
      ChunksEnd lib D context chunks subclass₀ (.ok (.error (.libXML2Error message), s'))
  | trapped {trap : Trap}
      (hrun : run (XMLPushParser.handle D) subclass₀ (elementsOf (lib.events context chunks)) =
        .error trap) : ChunksEnd lib D context chunks subclass₀ (.error trap)
  | overflowed (hlarge : ∃ chunk ∈ chunks, int32Max < chunk.length) :
      ChunksEnd lib D context chunks subclass₀ (.error .int32Overflow)

section Ends

variable (lib : LibXML2 Ctx) (D : SAXParsable W P)

/-- With no chunk left. -/
theorem finishParsing_ends {s : XMLPushParser.Object Ctx W P} {context : Ctx}
    (hlive : s.context = some context) (herror : s.error = none) (honce : s.once = false) :
    ChunksEnd lib D context [] s.subclass (parseChunks lib D [] s) := by
  simp only [parseChunks, XMLPushParser.finishParsing, _finishParsing_of_live _ lib hlive]
  cases hrun : run (XMLPushParser.handle D) s.subclass
      (elementsOf (lib.chunkEvents context [] true)) with
  | error trap => exact .trapped (by rw [LibXML2.events_nil]; exact hrun)
  | ok subclass =>
    have hslot := cleanupContext_error (s.fed lib context [] true subclass)
    show ChunksEnd _ _ _ _ _ (.ok ((pendingError _).map _, _))
    by_cases hquiet : reportsOf (lib.chunkEvents context [] true) = []
    · have hnone : (s.fed lib context [] true subclass).error = none :=
        (fed_error_eq_none_iff lib).mpr ⟨hquiet, herror⟩
      have hfinished : (s.fed lib context [] true subclass).cleanupContext.withoutLog =
          finishedWith subclass := by
        have hnot : ¬ (s.fed lib context [] true subclass).once = true := by
          show ¬ s.once = true
          simp [honce]
        rw [cleanupContext, if_neg hnot]
        show ({ finishedWith subclass with error := (s.fed lib context [] true subclass).error } :
          XMLPushParser.Object Ctx W P) = _
        rw [hnone]
        rfl
      rw [pendingError_of_none (hslot.trans hnone)]
      have hret : ChunksEnd lib D context [] s.subclass (.ok (.ok subclass.root, _)) :=
        .returned hrun hquiet hfinished
      have hroot : (s.fed lib context [] true subclass).cleanupContext.subclass.root =
          subclass.root := congrArg XMLPushParser.root (cleanupContext_subclass _)
      rw [← hroot] at hret
      exact hret
    · have hlast := List.getLast?_eq_some_getLast hquiet
      rw [pendingError_of_some (hslot.trans (fed_error_of_last lib hlast))]
      exact .threw (Or.inr rfl) hrun hlast

/-- A chunk that reports nothing only comes before the rest. -/
theorem ChunksEnd.cons {lib : LibXML2 Ctx} {D : SAXParsable W P} {context : Ctx} {chunk : Data}
    {chunks : List Data} {subclass₀ subclass : XMLPushParser W P}
    {result : Except Trap (Outcome P × XMLPushParser.Object Ctx W P)}
    (hchunk : run (XMLPushParser.handle D) subclass₀
      (elementsOf (lib.chunkEvents context chunk false)) = .ok subclass)
    (hquiet : reportsOf (lib.chunkEvents context chunk false) = [])
    (h : ChunksEnd lib D (lib.afterChunk context chunk false) chunks subclass result) :
    ChunksEnd lib D context (chunk :: chunks) subclass₀ result := by
  have hrun : ∀ es, run (XMLPushParser.handle D) subclass₀
      (elementsOf (lib.chunkEvents context chunk false ++ es)) =
        run (XMLPushParser.handle D) subclass (elementsOf es) := by
    intro es
    rw [elementsOf_append, run_append_ok hchunk]
  have hreports : ∀ es, reportsOf (lib.chunkEvents context chunk false ++ es) = reportsOf es := by
    intro es
    rw [reportsOf_append, hquiet, List.nil_append]
  cases h with
  | returned hrest hnone hs' =>
    refine .returned ?_ ?_ hs'
    · rw [LibXML2.events_cons, hrun]
      exact hrest
    · rw [LibXML2.events_cons, hreports]
      exact hnone
  | threw hheard hrest hlast =>
    refine .threw hheard.cons ((hrun _).trans hrest) ?_
    rw [hreports]
    exact hlast
  | trapped hrest =>
    refine .trapped ?_
    rw [LibXML2.events_cons, hrun]
    exact hrest
  | overflowed hlarge =>
    obtain ⟨c, hmem, hc⟩ := hlarge
    exact .overflowed ⟨c, List.mem_cons_of_mem _ hmem, hc⟩

/-- A chunk that reports nothing is followed by the next. -/
theorem parseChunks_of_quiet {s : XMLPushParser.Object Ctx W P} {context : Ctx} {chunk : Data}
    {subclass : XMLPushParser W P} (hlive : s.context = some context) (herror : s.error = none)
    (hfits : chunk.length ≤ int32Max)
    (hrun : run (XMLPushParser.handle D) s.subclass
      (elementsOf (lib.chunkEvents context chunk false)) = .ok subclass)
    (hquiet : reportsOf (lib.chunkEvents context chunk false) = []) (chunks : List Data) :
    parseChunks lib D (chunk :: chunks) s =
      parseChunks lib D chunks (s.fed lib context chunk false subclass) := by
  have herror' : (s.fed lib context chunk false subclass).error = none :=
    (fed_error_eq_none_iff lib).mpr ⟨hquiet, herror⟩
  simp only [parseChunks, XMLPushParser.parseData, _parseData_of_live _ lib hlive hfits, hrun,
    Except.map, pendingError_of_none herror']
  rfl

/-- A chunk that reports something is the last: its last report is thrown. -/
theorem parseChunks_of_report {s : XMLPushParser.Object Ctx W P} {context : Ctx} {chunk : Data}
    {subclass : XMLPushParser W P} {message : String} (hlive : s.context = some context)
    (hfits : chunk.length ≤ int32Max)
    (hrun : run (XMLPushParser.handle D) s.subclass
      (elementsOf (lib.chunkEvents context chunk false)) = .ok subclass)
    (hlast : (reportsOf (lib.chunkEvents context chunk false)).getLast? = some message)
    (chunks : List Data) :
    parseChunks lib D (chunk :: chunks) s =
      .ok (.error (.libXML2Error message), s.fed lib context chunk false subclass) := by
  have herror' : (s.fed lib context chunk false subclass).error =
      some (.libXML2Error message) := fed_error_of_last lib hlast
  simp only [parseChunks, XMLPushParser.parseData, _parseData_of_live _ lib hlive hfits, hrun,
    Except.map, pendingError_of_some herror']
  rfl

/-- A chunk of more than `Int32.max` bytes traps. -/
theorem parseChunks_of_overflow {s : XMLPushParser.Object Ctx W P} {context : Ctx} {chunk : Data}
    (hlive : s.context = some context) (hlarge : int32Max < chunk.length) (chunks : List Data) :
    parseChunks lib D (chunk :: chunks) s = .error .int32Overflow := by
  simp only [parseChunks, XMLPushParser.parseData, _parseData_of_overflow _ lib hlive hlarge]
  rfl

/-- **The end of a use is told by the events of its chunks.** -/
theorem parseChunks_ends (chunks : List Data) {s : XMLPushParser.Object Ctx W P} {context : Ctx}
    (hlive : s.context = some context) (herror : s.error = none) (honce : s.once = false) :
    ChunksEnd lib D context chunks s.subclass (parseChunks lib D chunks s) := by
  induction chunks generalizing s context with
  | nil => exact finishParsing_ends lib D hlive herror honce
  | cons chunk chunks ih =>
    by_cases hfits : chunk.length ≤ int32Max
    · cases hrun : run (XMLPushParser.handle D) s.subclass
          (elementsOf (lib.chunkEvents context chunk false)) with
      | error trap =>
        simp only [parseChunks, XMLPushParser.parseData, _parseData_of_live _ lib hlive hfits, hrun]
        refine .trapped ?_
        rw [LibXML2.events_cons, elementsOf_append]
        exact run_append_error hrun _
      | ok subclass =>
        by_cases hquiet : reportsOf (lib.chunkEvents context chunk false) = []
        · rw [parseChunks_of_quiet lib D hlive herror hfits hrun hquiet]
          have herror' : (s.fed lib context chunk false subclass).error = none :=
            (fed_error_eq_none_iff lib).mpr ⟨hquiet, herror⟩
          exact (ih rfl herror' honce).cons hrun hquiet
        · have hlast := List.getLast?_eq_some_getLast hquiet
          rw [parseChunks_of_report lib D hlive hfits hrun hlast]
          refine .threw (Or.inl ⟨1, ?_⟩) hrun hlast
          rw [List.take_succ_cons, List.take_zero, LibXML2.eventsSoFar, LibXML2.eventsSoFar,
            List.append_nil]
    · have hlarge := Nat.lt_of_not_le hfits
      rw [parseChunks_of_overflow lib D hlive hlarge]
      exact .overflowed ⟨chunk, List.mem_cons_self, hlarge⟩

end Ends

end XMLPush

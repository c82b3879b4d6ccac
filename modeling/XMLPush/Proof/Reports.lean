import Mathlib.Data.List.TakeWhile
import XMLPush.Lib.Utf8
import XMLPush.Proof.Calls

/-!
# The messages of reports

What becomes of the text of an error on its way from libxml2 to the `throw` of a call.

* **A call throws its last report** (`Call.perform_last_report`), whichever entry point it is.
* **The message arrives** (`message_carried_iff`) if and only if the byte behind the first 1023
  begins a character, or there is none. The C buffer is cut on bytes and then read as UTF-8,
  all or nothing, so a character that straddles the cut takes the whole message with it.
-/

set_option autoImplicit false

namespace XMLPush

open Machine
open LibXMLPushSAXParser

variable {Ctx W P : Type}

/-! ## The callbacks of a call -/

/-- The callbacks libxml2 makes if the parser passes it a chunk. -/
def LibXMLPushSAXParser.callbacks {σ : Type} (lib : LibXML2 Ctx)
    (s : LibXMLPushSAXParser Ctx σ) (chunk : Data) (terminate : Bool) : List SAXCallback :=
  match s.context with
  | none => []
  | some context => (lib.xmlParseChunk context chunk terminate).1

/-- The callbacks libxml2 makes during a call. `parse` passes on the terminating chunk only if
    `parseData` has come through the data. -/
def Call.callbacks (lib : LibXML2 Ctx) (D : SAXParsable W P) (s : XMLPushParser.Object Ctx W P) :
    Call → List SAXCallback
  | .parse data =>
    s.callbacks lib data false ++
      match XMLPushParser.parseData lib D data s with
      | .ok (.ok (), s) => s.callbacks lib [] true
      | .ok (.error _, _) => []
      | .error _ => []
  | .parseData data => s.callbacks lib data false
  | .finishParsing => s.callbacks lib [] true

/-- What the callbacks of a call report. -/
def Call.reports (lib : LibXML2 Ctx) (D : SAXParsable W P) (s : XMLPushParser.Object Ctx W P)
    (call : Call) : List String :=
  reportsOf ((call.callbacks lib D s).map SAXCallback.event)

namespace LibXMLPushSAXParser

variable {σ : Type} {handle : σ → Event → Except Trap σ} {lib : LibXML2 Ctx}
  {s s' : LibXMLPushSAXParser Ctx σ} {outcome : Outcome Unit} {context : Ctx} {subclass : σ}

theorem callbacks_of_none (h : s.context = none) (chunk : Data) (terminate : Bool) :
    s.callbacks lib chunk terminate = [] := by
  simp only [callbacks, h]

/-- Their events are those of the chunk. -/
theorem map_callbacks (h : s.context = some context) (chunk : Data) (terminate : Bool) :
    (s.callbacks lib chunk terminate).map SAXCallback.event =
      lib.chunkEvents context chunk terminate := by
  simp only [callbacks, h, LibXML2.chunkEvents]

/-- A data chunk throws its last report. -/
theorem Fed.throws {data : Data} {message : String}
    (h : Fed handle lib data s outcome s' context subclass)
    (hlast : (reportsOf ((s.callbacks lib data false).map SAXCallback.event)).getLast? =
      some message) : outcome = .error (.libXML2Error message) := by
  rw [map_callbacks h.live] at hlast
  rw [h.outcome, h.after]
  exact pendingError_of_some (fed_error_of_last lib hlast)

/-- …and so does the terminating chunk. -/
theorem Terminated.throws {message : String}
    (h : Terminated handle lib s outcome s' context subclass)
    (hlast : (reportsOf ((s.callbacks lib [] true).map SAXCallback.event)).getLast? =
      some message) : outcome = .error (.libXML2Error message) := by
  rw [map_callbacks h.live] at hlast
  rw [h.outcome, h.after]
  refine pendingError_of_some ?_
  rw [cleanupContext_error]
  exact fed_error_of_last lib hlast

/-- A data chunk that nothing is thrown for reports nothing. -/
theorem Fed.reports_eq_nil {data : Data} (h : Fed handle lib data s (.ok ()) s' context subclass) :
    reportsOf ((s.callbacks lib data false).map SAXCallback.event) = [] := by
  rw [map_callbacks h.live]
  have hnone := pendingError_eq_ok_iff.mp h.outcome.symm
  rw [h.after] at hnone
  exact ((fed_error_eq_none_iff lib).mp hnone).1

theorem Fed.parseData {data : Data} (h : Fed handle lib data s outcome s' context subclass) :
    s._parseData lib handle data = .ok (outcome, s') := by
  rw [_parseData_of_live handle lib h.live h.fits, h.handled, h.outcome, h.after]
  rfl

end LibXMLPushSAXParser

section Calls

variable {lib : LibXML2 Ctx} {D : SAXParsable W P} {s s' : XMLPushParser.Object Ctx W P}

/-- However a call ends, it ends by throwing its last report. -/
theorem Call.ends_last_report {call : Call} {base : Outcome Unit}
    (hends : Ends (XMLPushParser.handle D) lib s call base s') {message : String}
    (hlast : (call.reports lib D s).getLast? = some message) :
    base = .error (.libXML2Error message) := by
  cases hends with
  | finished h =>
    have hnone : call.callbacks lib D s = [] := by
      cases call with
      | parse data =>
        simp only [callbacks, callbacks_of_none h.1, XMLPushParser.parseData,
          _parseData_of_finished _ lib h.1, List.append_nil]
      | parseData data => exact callbacks_of_none h.1 data false
      | finishParsing => exact callbacks_of_none h.1 [] true
    rw [reports, hnone] at hlast
    cases hlast
  | fed h => exact h.throws hlast
  | threw h herror =>
    refine h.throws ?_
    -- The data chunk has thrown, so there is no terminating one.
    obtain ⟨error, hslot⟩ := Option.ne_none_iff_exists'.mp herror
    have hdata := h.parseData
    rw [h.outcome, pendingError_of_some hslot] at hdata
    simp only [reports, callbacks, XMLPushParser.parseData, hdata, List.append_nil] at hlast
    exact hlast
  | terminated h => exact h.throws hlast
  | parsed h h' =>
    refine h'.throws ?_
    -- The data chunk has come through, so all the reports are of the terminating one.
    simp only [reports, callbacks, XMLPushParser.parseData, h.parseData, List.map_append,
      reportsOf_append, h.reports_eq_nil, List.nil_append] at hlast
    exact hlast

/-- **A call that ends throws its last report**, if it has one. -/
theorem Call.perform_last_report {call : Call} {outcome : Outcome (Option P)}
    (hcall : call.perform lib D s = .ok (outcome, s')) {message : String}
    (hlast : (call.reports lib D s).getLast? = some message) :
    outcome = .error (.libXML2Error message) := by
  obtain ⟨base, hends, rfl⟩ := Call.perform_ends hcall
  rw [Call.ends_last_report hends hlast]
  rfl

end Calls

/-! ## The message of a report -/

/-- How much of a message the C buffer has room for, in bytes. -/
def messageRoom : Nat := 1023

/-- The message is as much of the formatted one as there is room for. -/
structure KeepsMessage (formatted message : String) : Prop where
  nonempty : message ≠ ""
  longest : Utf8.LongestFitting messageRoom formatted message
  whole : formatted.utf8ByteSize ≤ messageRoom → message = formatted

theorem errorMessage_of_noNul {formatted : String} (hnul : 0 ∉ utf8Bytes formatted) :
    errorMessage (utf8Bytes formatted) =
      (Utf8.decode? ((Utf8.encode formatted).take messageRoom)).getD "" := by
  have hall : ((utf8Bytes formatted).take messageRoom).takeWhile (· ≠ 0) =
      (utf8Bytes formatted).take messageRoom := by
    rw [List.takeWhile_eq_self_iff]
    intro b hmem
    refine decide_eq_true fun hzero => ?_
    exact hnul (hzero ▸ List.mem_of_mem_take hmem)
  exact congrArg (fun bytes => (utf8String bytes).getD "") hall

/-- A message that is not empty is kept if and only if it is not cut inside a character. -/
theorem keepsMessage_errorMessage_iff {formatted : String} (hnul : 0 ∉ utf8Bytes formatted)
    (hne : formatted ≠ "") :
    KeepsMessage formatted (errorMessage (utf8Bytes formatted)) ↔
      Utf8.Between formatted messageRoom := by
  rw [errorMessage_of_noNul hnul, ← Utf8.exists_decode?_take_iff]
  cases hread : Utf8.decode? ((Utf8.encode formatted).take messageRoom) with
  | none =>
    -- What could not be read is handed on as the empty message.
    constructor
    · intro h
      exact absurd rfl h.nonempty
    · intro h
      obtain ⟨p, hp⟩ := h
      cases hp
  | some message =>
    refine iff_of_true ?_ ⟨message, rfl⟩
    obtain ⟨-, hlongest⟩ := Utf8.decode?_take_eq_some_iff.mp hread
    refine ⟨hlongest.ne_empty (by decide) hne, hlongest, ?_⟩
    intro hfits
    exact hlongest.unique (.self hfits)

/-- One that is cut inside a character is lost. -/
theorem errorMessage_of_not_between {formatted : String} (hnul : 0 ∉ utf8Bytes formatted)
    (hcut : ¬ Utf8.Between formatted messageRoom) : errorMessage (utf8Bytes formatted) = "" := by
  rw [errorMessage_of_noNul hnul]
  rw [← Utf8.exists_decode?_take_iff, not_exists] at hcut
  cases hread : Utf8.decode? ((Utf8.encode formatted).take messageRoom) with
  | none => rfl
  | some message => exact absurd hread (hcut message)

/-- The report of `formatted` arrives: it is recorded with its message kept, and thrown with it
    by the call, if `later`, the callbacks that follow it there, report nothing. -/
structure Carried (lib : LibXML2 Ctx) (D : SAXParsable W P) (s : XMLPushParser.Object Ctx W P)
    (call : Call) (formatted : String) (later : List SAXCallback) : Prop where
  recorded : ∀ t : XMLPushParser.Object Ctx W P, ∃ message,
    (SAXCallback.error (utf8Bytes formatted)).dispatch (XMLPushParser.handle D) t =
        .ok (t.errorOccurred message) ∧
      KeepsMessage formatted message
  thrown : reportsOf (later.map SAXCallback.event) = [] → ∀ outcome s',
    call.perform lib D s = .ok (outcome, s') →
      ∃ message, outcome = .error (.libXML2Error message) ∧ KeepsMessage formatted message

/-- **A report arrives if and only if the byte behind the first 1023 of its message begins a
    character**, or there is none: whichever call it is made in, and whatever was reported
    before. -/
theorem message_carried_iff (lib : LibXML2 Ctx) (D : SAXParsable W P)
    (s : XMLPushParser.Object Ctx W P) (call : Call) (earlier later : List SAXCallback)
    (bytes : Data) (formatted : String) (hutf8 : utf8String bytes = some formatted)
    (hne : bytes ≠ []) (hnul : 0 ∉ bytes)
    (hcallbacks : call.callbacks lib D s = earlier ++ .error bytes :: later) :
    Carried lib D s call formatted later ↔ ∀ b, bytes[1023]? = some b → b.IsUTF8FirstByte := by
  obtain rfl : bytes = utf8Bytes formatted := Utf8.decode?_eq_some_iff.mp hutf8
  have hformatted : formatted ≠ "" := by
    intro hempty
    subst hempty
    exact hne rfl
  rw [show (∀ b, (utf8Bytes formatted)[1023]? = some b → b.IsUTF8FirstByte) ↔
    KeepsMessage formatted (errorMessage (utf8Bytes formatted)) from
      (keepsMessage_errorMessage_iff hnul hformatted).symm]
  constructor
  · intro h
    obtain ⟨message, hrecorded, hkeeps⟩ := h.recorded s
    have hslot : some (PushSaxParserErrorCode.libXML2Error (errorMessage (utf8Bytes formatted))) =
        some (.libXML2Error message) := congrArg LibXMLPushSAXParser.error (Except.ok.inj hrecorded)
    cases hslot
    exact hkeeps
  · intro hkeeps
    refine ⟨fun t => ⟨_, rfl, hkeeps⟩, fun hlater outcome s' hcall => ⟨_, ?_, hkeeps⟩⟩
    -- Nothing is reported behind it, so it is the last report of the call.
    refine Call.perform_last_report hcall ?_
    rw [Call.reports, hcallbacks, List.map_append, List.map_cons, reportsOf_append]
    show (_ ++ errorMessage (utf8Bytes formatted) :: reportsOf (later.map SAXCallback.event)).getLast? = _
    rw [hlater, List.getLast?_concat]

/-- libxml2's words for an entity without a declaration. Its name is `n` letters and an `é`. -/
def undeclared (n : Nat) : String :=
  "Entity '" ++ String.ofList (List.replicate n 'a' ++ ['é']) ++ "' not defined\n"

/-- A libxml2 that reports it at the first byte. -/
def undeclaredDue (n : Nat) : Nat → List SAXCallback
  | 0 => [.error (utf8Bytes (undeclared n))]
  | _ => []

/-- With 1013 letters the `é` is the last character there is room for. -/
theorem undeclared_carried :
    Carried (eager (undeclaredDue 1013)) lettered
      (XMLPushParser.fresh (eager (undeclaredDue 1013)) 0 ()) (.parseData [60])
      (undeclared 1013) [] := by
  have hquote : (utf8Bytes (undeclared 1013))[1023]? = some 39 := by decide +kernel
  refine (message_carried_iff (eager (undeclaredDue 1013)) lettered
    (XMLPushParser.fresh (eager (undeclaredDue 1013)) 0 ()) (.parseData [60]) [] []
    (utf8Bytes (undeclared 1013)) (undeclared 1013) (utf8String_utf8Bytes _) (by decide +kernel)
    (by decide +kernel) rfl).mpr ?_
  intro b hb
  cases hquote.symm.trans hb
  decide

/-- With one letter more it has only its first byte inside, and the call throws an error
    without a message. -/
theorem undeclared_lost :
    utf8String (utf8Bytes (undeclared 1014)) = some (undeclared 1014) ∧
      utf8Bytes (undeclared 1014) ≠ [] ∧ 0 ∉ utf8Bytes (undeclared 1014) ∧
      (Call.parseData [60]).callbacks (eager (undeclaredDue 1014)) lettered
        (XMLPushParser.fresh (eager (undeclaredDue 1014)) 0 ()) =
          [.error (utf8Bytes (undeclared 1014))] ∧
      ∃ s', (Call.parseData [60]).perform (eager (undeclaredDue 1014)) lettered
        (XMLPushParser.fresh (eager (undeclaredDue 1014)) 0 ()) =
          .ok (.error (.libXML2Error ""), s') := by
  have hnul : 0 ∉ utf8Bytes (undeclared 1014) := by decide +kernel
  have hsecond : (Utf8.encode (undeclared 1014))[messageRoom]? = some 0xA9 := by decide +kernel
  have hcut : ¬ Utf8.Between (undeclared 1014) messageRoom := by
    intro h
    exact absurd (h _ hsecond) (by decide)
  refine ⟨utf8String_utf8Bytes _, by decide +kernel, hnul, rfl, ?_⟩
  rw [← errorMessage_of_not_between hnul hcut]
  exact ⟨_, rfl⟩

end XMLPush

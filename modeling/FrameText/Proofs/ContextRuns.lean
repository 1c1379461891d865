import FrameText.Proofs.DissectedText
import Mathlib.Control.Monad.Basic

/-!
# Context runs — the past of a context never shows

One context serves for one frame after the other.  It keeps the text of the last frame, the room
that was made for it and whether the text is whole, and any dissection may fail after part of its
text was written.

1. `DecodeContext.observe` lists what a caller sees in a run of calls.
2. `DecodeContext.observe_perform` is about one call, `DecodeContext.observe_eq` about all of them.
3. `DecodeContext.reused_as_new` compares a context with any past with a new one.
4. `Dissection.alike_write`: buffers with the same text take the same frames, whatever their rooms
   are, so that `DecodeContext.write_of_kept_room` holds even for room that is never given back.
-/

namespace FrameText

/-! ## Calls -/

namespace DecodeContext

/-- What can be done to a context. -/
inductive Call where
  /-- Data that starts with a layer of the given kind is dissected. -/
  | decode (data : Bytes) (start : LayerKind)
  /-- The text is forgotten. -/
  | clear
  deriving DecidableEq, Repr

/-- What a caller sees of a call. -/
structure Observation where
  /-- The answer, if the call has one. -/
  answer : Option (Except Error Text)
  /-- The text that the context has afterwards. -/
  text? : Option Text
  deriving DecidableEq

/-- What the dissection of data alone has to show: its text is there if it is a success. -/
def Call.expected : Call → Observation
  | .decode data start =>
    ⟨some (FrameText.decode data start), (FrameText.decode data start).toOption⟩
  | .clear => ⟨none, none⟩

/-- The answer of a call, and the context behind it. -/
def perform (context : DecodeContext) : Call → Option (Except Error Text) × DecodeContext
  | .decode data start =>
    let (answer, later) := context.decode data start
    (some answer, later)
  | .clear => (none, context.clear)

/-- The context after calls, each of which may have failed. -/
def run (context : DecodeContext) (calls : List Call) : DecodeContext :=
  calls.foldl (fun context call => (context.perform call).2) context

/-- What a caller sees of calls, one after the other. -/
def observe (context : DecodeContext) : List Call → List Observation
  | [] => []
  | call :: later =>
    let (answer, next) := context.perform call
    ⟨answer, next.text?⟩ :: next.observe later

/-! ## What a caller sees -/

/-- A dissection that fails leaves a new context, also where it fails after text was written; one
that succeeds leaves what it wrote. -/
theorem decode_cases (context : DecodeContext) (data : Bytes) (start : LayerKind) :
    (∃ e, context.decode data start = (.error e, {})) ∨
      ∃ buffer, (Dissection.ofBytes (.ofKind start) data).write data.length {} = .ok buffer ∧
        context.decode data start = (.ok buffer.text, { buffer := buffer, valid := true }) := by
  unfold decode
  rw [show context.clear = {} from rfl]
  by_cases empty : data = []
  · exact .inl ⟨.truncated start 1 0, by simp only [if_pos empty]⟩
  · simp only [if_neg empty]
    cases (Dissection.ofBytes (.ofKind start) data).write data.length {} with
    | error e => exact .inl ⟨e, rfl⟩
    | ok buffer => exact .inr ⟨buffer, rfl, rfl⟩

/-- A context has the text of a dissection if it succeeded, and none if it failed. -/
theorem text?_decode (context : DecodeContext) (data : Bytes) (start : LayerKind) :
    (context.decode data start).2.text? = (context.decode data start).1.toOption := by
  rcases context.decode_cases data start with ⟨e, failed⟩ | ⟨buffer, -, succeeded⟩
  · rw [failed]
    rfl
  · rw [succeeded]
    rfl

/-- A call starts with a context that holds nothing. -/
theorem perform_eq (context : DecodeContext) (call : Call) :
    context.perform call = ({} : DecodeContext).perform call := by
  cases call <;> rfl

/-- What is seen of one call does not depend on the context. -/
theorem observe_perform (context : DecodeContext) (call : Call) :
    (⟨(context.perform call).1, (context.perform call).2.text?⟩ : Observation) = call.expected := by
  rw [perform_eq]
  cases call with
  | decode data start => exact congrArg (Observation.mk _) (text?_decode {} data start)
  | clear => rfl

/-- Nor does what is seen of any number of them. -/
theorem observe_eq (context : DecodeContext) (calls : List Call) :
    context.observe calls = calls.map Call.expected := by
  induction calls generalizing context with
  | nil => rfl
  | cons call later ih =>
    rw [List.map_cons, ← observe_perform context call, ← ih]
    rfl

/-- Of all calls the last one alone decides what the context is. -/
theorem run_concat (context : DecodeContext) (earlier : List Call) (last : Call) :
    context.run (earlier ++ [last]) = (({} : DecodeContext).perform last).2 := by
  rw [run, List.foldl_append, List.foldl_cons, List.foldl_nil, perform_eq]

theorem expected_text?_eq_some {call : Call} {text : Text} :
    call.expected.text? = some text ↔
      ∃ data start, call = .decode data start ∧ FrameText.decode data start = .ok text := by
  cases call with
  | clear =>
    constructor
    · intro shown
      cases shown
    · rintro ⟨data, start, same, -⟩
      cases same
  | decode data start =>
    rw [Call.expected, toOption_eq_some]
    constructor
    · exact fun answer => ⟨data, start, rfl, answer⟩
    · rintro ⟨_, _, same, answer⟩
      cases same
      exact answer

/-- A context with any past answers as a new one does.  It has a text if the last call was a
dissection that succeeded, and then the text is what that call gave; without a call, it has the text
that it had. -/
theorem reused_as_new (context : DecodeContext) (calls : List Call) :
    context.observe calls = calls.map Call.expected ∧
    (∀ call, (context.run calls).perform call = ({} : DecodeContext).perform call) ∧
    ∀ text, (context.run calls).text? = some text ↔
      (calls = [] ∧ context.text? = some text) ∨
        ∃ earlier data start, calls = earlier ++ [.decode data start] ∧
          FrameText.decode data start = .ok text := by
  refine ⟨observe_eq context calls, fun call => perform_eq _ call, fun text => ?_⟩
  rcases List.eq_nil_or_concat calls with rfl | ⟨earlier, last, rfl⟩
  · constructor
    · exact fun kept => .inl ⟨rfl, kept⟩
    · rintro (⟨-, kept⟩ | ⟨earlier, data, start, concat, -⟩)
      · exact kept
      · simp at concat
  · rw [List.concat_eq_append]
    have shown : (context.run (earlier ++ [last])).text? = last.expected.text? := by
      rw [run_concat, ← observe_perform {} last]
    rw [shown, expected_text?_eq_some]
    constructor
    · rintro ⟨data, start, rfl, answer⟩
      exact .inr ⟨earlier, data, start, rfl, answer⟩
    · rintro (⟨none, -⟩ | ⟨_, data, start, concat, answer⟩)
      · simp at none
      · obtain ⟨rfl, same⟩ := List.append_inj' concat rfl
        exact ⟨data, start, List.singleton_inj.1 same, answer⟩

example :
    let text : Text := "Raw('\\x07')/Payload(len=5)".toList
    ({} : DecodeContext).observe [.decode [7] .raw, .decode [7] .ether, .decode [7] .raw, .clear] =
      [⟨some (.ok text), some text⟩, ⟨some (.error (.truncated .ether 14 1)), none⟩,
        ⟨some (.ok text), some text⟩, ⟨none, none⟩] := by
  decide +kernel

end DecodeContext

/-! ## Room -/

namespace TextBuffer

/-- Buffers with the same text.  Their rooms may differ, but below the hard limit. -/
structure Alike (buffer other : TextBuffer) : Prop where
  text : buffer.text = other.text
  room : buffer.room < Limits.maxDissectionText
  room' : other.room < Limits.maxDissectionText

/-- The same error, or buffers with the same text. -/
inductive AlikeAnswers : Except Error TextBuffer → Except Error TextBuffer → Prop
  | error (e : Error) : AlikeAnswers (.error e) (.error e)
  | ok {buffer other : TextBuffer} (alike : buffer.Alike other) :
      AlikeAnswers (.ok buffer) (.ok other)

section Alike

variable {buffer other : TextBuffer} {first second : Except Error TextBuffer}
  {next : TextBuffer → Except Error TextBuffer}

theorem AlikeAnswers.bind (answers : AlikeAnswers first second)
    (later : ∀ {buffer other : TextBuffer}, buffer.Alike other →
      AlikeAnswers (next buffer) (next other)) :
    AlikeAnswers (first >>= next) (second >>= next) := by
  cases answers with
  | error e => exact .error e
  | ok alike => exact later alike

theorem AlikeAnswers.map_text (answers : AlikeAnswers first second) :
    first.map TextBuffer.text = second.map TextBuffer.text := by
  cases answers with
  | error e => rfl
  | ok alike => exact congrArg Except.ok alike.text

/-- Below the hard limit, room only saves the comparison with it. -/
theorem append_of_small (small : buffer.room < Limits.maxDissectionText) (piece : Text) :
    ∃ room < Limits.maxDissectionText, buffer.append piece =
      let need := buffer.text.length + piece.length + Limits.textSlack
      if Limits.maxDissectionText ≤ need then
        .error (.textTooLong need Limits.maxDissectionText)
      else
        .ok ⟨buffer.text ++ piece, room⟩ := by
  have start : Limits.textStartRoom < Limits.maxDissectionText := by decide
  unfold append
  simp only
  generalize buffer.text.length + piece.length + Limits.textSlack = need
  by_cases fits : need < buffer.room
  · exact ⟨buffer.room, small, by rw [if_pos fits, if_neg (by omega)]⟩
  · by_cases long : Limits.maxDissectionText ≤ need
    · exact ⟨buffer.room, small, by rw [if_neg fits, if_pos long, if_pos long]⟩
    · exact ⟨max need Limits.textStartRoom, by omega, by rw [if_neg fits, if_neg long]⟩

/-- A piece goes into both buffers or into none. -/
theorem alike_append (alike : buffer.Alike other) (piece : Text) :
    AlikeAnswers (buffer.append piece) (other.append piece) := by
  obtain ⟨room, small, first⟩ := append_of_small alike.room piece
  obtain ⟨room', small', second⟩ := append_of_small alike.room' piece
  rw [first, second, alike.text]
  simp only
  split
  · exact .error _
  · exact .ok ⟨rfl, small, small'⟩

theorem alike_appendAll (alike : buffer.Alike other) (pieces : List Text) :
    AlikeAnswers (buffer.appendAll pieces) (other.appendAll pieces) := by
  unfold appendAll
  induction pieces generalizing buffer other with
  | nil => exact .ok alike
  | cons piece pieces ih =>
    rw [List.foldlM_cons, List.foldlM_cons]
    exact (alike_append alike piece).bind ih

end Alike

end TextBuffer

/-- A frame goes into both buffers, or into none for the same reason. -/
theorem Dissection.alike_write {buffer other : TextBuffer} (alike : buffer.Alike other)
    (dissection : Dissection) (length : Nat) :
    TextBuffer.AlikeAnswers (dissection.write length buffer) (dissection.write length other) := by
  refine (TextBuffer.alike_appendAll alike _).bind fun {front front'} alike => ?_
  cases dissection.rest with
  | error e => exact .error e
  | ok rest => exact TextBuffer.alike_appendAll alike _

namespace DecodeContext

/-- A context without a text holds nothing at all, and no text takes room past the limit. -/
structure Tidy (context : DecodeContext) : Prop where
  blank : context.text? = none → context = {}
  within : context.buffer.InLimit

theorem tidy_new : ({} : DecodeContext).Tidy :=
  ⟨fun _ => rfl, by decide, by decide⟩

/-- One call leaves a tidy context, whatever the context was. -/
theorem tidy_perform (context : DecodeContext) (call : Call) : (context.perform call).2.Tidy := by
  cases call with
  | clear => exact tidy_new
  | decode data start =>
    show (context.decode data start).2.Tidy
    rcases context.decode_cases data start with ⟨e, failed⟩ | ⟨buffer, written, succeeded⟩
    · rw [failed]
      exact tidy_new
    · rw [succeeded]
      exact ⟨fun textless => (by cases textless), tidy_new.within.write written⟩

/-- So do any number of them. -/
theorem tidy_run {context : DecodeContext} (tidy : context.Tidy) (calls : List Call) :
    (context.run calls).Tidy := by
  induction calls generalizing context with
  | nil => exact tidy
  | cons call later ih => exact ih (tidy_perform context call)

/-- A context that only forgot its text, and kept the room that was made for it, would answer as a
new one. -/
theorem write_of_kept_room (calls : List Call) (dissection : Dissection) (length : Nat) :
    let kept := (({} : DecodeContext).run calls).buffer.room
    (dissection.write length { room := kept }).map TextBuffer.text =
      (dissection.write length {}).map TextBuffer.text := by
  intro kept
  have small : kept < Limits.maxDissectionText := (tidy_run tidy_new calls).within.2
  have alike : TextBuffer.Alike { room := kept } {} := ⟨rfl, small, by decide⟩
  exact (dissection.alike_write alike length).map_text

end DecodeContext

end FrameText

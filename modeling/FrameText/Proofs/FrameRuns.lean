import FrameText.Proofs.StoreSteps
import FrameText.Proofs.Trace

/-!
# Frame runs — the past of a frame never shows

A frame is encoded and loaded over and over, and any of this may fail halfway.  What the next
encoder makes of it depends on its name, its description and its capacity alone, and these never
change.

1. `Frame.run` performs actions on a frame, those that fail included.
2. `Frame.keeps_perform` says what one action keeps, `Frame.keeps_run` what all of them keep.
3. `Frame.encode_settings`: settings decide what is reported and nothing else.
4. `Frame.run_forgets` compares a frame with any past with a fresh one.
-/

namespace FrameText

open Encoding

namespace Frame

/-! ## Runs -/

/-- What can be done to the contents of a frame. -/
inductive Action where
  /-- The description is encoded. -/
  | encode (config : Config)
  /-- Captured bytes are loaded. -/
  | load (bytes : Bytes)
  deriving DecidableEq, Repr

/-- An action on a frame, which stays as it is where bytes are not loaded. -/
def perform (frame : Frame) : Action → Outcome Frame Unit
  | .encode config => frame.encode config
  | .load bytes =>
    match frame.loadBytes bytes with
    | .error e => ⟨.error e, frame, []⟩
    | .ok loaded => ⟨.ok (), loaded, []⟩

/-- The frame after actions, each of which may have failed. -/
def run (frame : Frame) (actions : List Action) : Frame :=
  actions.foldl (fun frame action => (frame.perform action).state) frame

/-! ## What actions keep -/

section Kept

variable {frame : Frame}

/-- Loading bytes that are too long changes nothing. -/
theorem perform_load (frame : Frame) (bytes : Bytes) :
    frame.perform (.load bytes) =
      if frame.capacity < bytes.length then
        ⟨.error (.bufferOverflow bytes.length frame.capacity), frame, []⟩
      else
        ⟨.ok (), captured frame.name frame.text frame.capacity bytes, []⟩ := by
  rw [perform, loadBytes_eq]
  by_cases long : frame.capacity < bytes.length
  · simp only [if_pos long]
  · simp only [if_neg long]

/-- One action changes nothing about a frame but its contents. -/
theorem keeps_perform (action : Action) (used : frame.dataLen ≤ frame.capacity) :
    frame.Keeps (frame.perform action).state := by
  cases action with
  | encode config => exact frame.encode_keeps config
  | load bytes =>
    rw [perform_load]
    split
    · exact .refl used
    · rename_i fits
      exact keeps_captured (Nat.le_of_not_lt fits)

/-- Nor do any number of them. -/
theorem keeps_run (actions : List Action) (used : frame.dataLen ≤ frame.capacity) :
    frame.Keeps (frame.run actions) := by
  induction actions generalizing frame with
  | nil => exact .refl used
  | cons action rest ih =>
    have first := keeps_perform action used
    exact first.trans (ih first.used)

end Kept

/-! ## Settings -/

/-- What an encoder leaves is what the one leaves that reports no layer. -/
theorem encode_of_quiet (config : Config) (frame : Frame) :
    (frame.encode config).result = (frame.encode { config with verbose := false }).result ∧
      (frame.encode config).state = (frame.encode { config with verbose := false }).state := by
  have result := congrArg Outcome.result (quieted_encode config frame)
  have state := congrArg Outcome.state (quieted_encode config frame)
  rcases config with ⟨_ | _, dump, size⟩
  · exact ⟨rfl, rfl⟩
  · exact ⟨result, state⟩

/-- Settings decide what is reported and nothing else. -/
theorem encode_settings (config other : Config) (frame : Frame) :
    (frame.encode config).result = (frame.encode other).result ∧
      (frame.encode config).state = (frame.encode other).state := by
  obtain ⟨result, state⟩ := encode_of_quiet config frame
  obtain ⟨result', state'⟩ := encode_of_quiet other frame
  rw [result, state, result', state']
  cases found : (scan false frame.text).1 with
  | error e =>
    rw [@encode_of_unscanned { config with verbose := false } frame e found,
      @encode_of_unscanned { other with verbose := false } frame e found]
    exact ⟨rfl, rfl⟩
  | ok tokens =>
    have first := @result_of_scanned { config with verbose := false } frame tokens found
    have second := @result_of_scanned { other with verbose := false } frame tokens found
    exact ⟨first.1.trans second.1.symm, first.2.trans second.2.symm⟩

/-! ## Any past -/

/-- Whatever was done to a frame, its name, its description and its capacity are as they were, and
its contents lie in its buffer.  Captured bytes that are too long change nothing; others are all
that the frame holds then.  The encoder does to the frame what it does to a fresh one, whatever the
settings are. -/
theorem run_forgets (name text : Text) (capacity : Nat) (actions : List Action) :
    let fresh := new name text capacity
    let frame := fresh.run actions
    frame.name = name ∧ frame.text = text ∧ frame.capacity = capacity ∧
      frame.dataLen ≤ capacity ∧
      (∀ bytes, capacity < bytes.length →
        (frame.perform (.load bytes)).result = .error (.bufferOverflow bytes.length capacity) ∧
          (frame.perform (.load bytes)).state = frame) ∧
      (∀ bytes, bytes.length ≤ capacity →
        (frame.perform (.load bytes)).result = .ok () ∧
          (frame.perform (.load bytes)).state.Holds bytes ∧
          (frame.perform (.load bytes)).state.buffer =
            bytes ++ List.replicate (capacity - bytes.length) 0) ∧
      ∀ config other, (frame.perform (.encode config)).result = (fresh.encode other).result ∧
        (frame.perform (.encode config)).state = (fresh.encode other).state := by
  intro fresh frame
  have size : fresh.capacity = capacity := List.length_replicate
  have kept : fresh.Keeps frame := keeps_run actions (Nat.zero_le _)
  have room : frame.capacity = capacity := kept.capacity.trans size
  refine ⟨kept.name, kept.text, room, room ▸ kept.used, ?_, ?_, ?_⟩
  · intro bytes long
    rw [perform_load, room, if_pos long]
    exact ⟨rfl, rfl⟩
  · intro bytes fits
    rw [perform_load, room, if_neg (Nat.not_lt_of_le fits)]
    exact ⟨rfl, holds_captured _ _ _ _, rfl⟩
  · intro config other
    have same : frame.encode config = fresh.encode config := by
      -- The encoder starts from a fresh frame of the same name, description and capacity.
      have start : frame.reset = fresh.reset := by
        rw [reset, reset, kept.name, kept.text, kept.capacity]
      rw [encode, encode, start, kept.text]
    rw [perform, same]
    exact encode_settings config other fresh

/-- A description whose third layer cannot be read leaves the same bytes over captured ones as in a
fresh frame. -/
theorem run_forgets_failure :
    let frame := (new "half".toList "Ether()/Raw(abc)/TCP(port=1)".toList 20).run
      [.encode {}, .load (List.replicate 20 255), .load (List.replicate 21 255)]
    (frame.perform (.load (List.replicate 21 0))).state = frame ∧
      (frame.perform (.load [1, 2])).state.data = [1, 2] ∧
      (frame.perform (.encode { verbose := true, dump := true })).result =
        .error (.invalidKey .tcp "port".toList) ∧
      (frame.perform (.encode { verbose := true, dump := true })).state.buffer =
        List.replicate 14 0 ++ [97, 98, 99] ++ List.replicate 3 0 := by
  intro frame
  obtain ⟨-, -, -, -, long, short, encoded⟩ :=
    run_forgets "half".toList "Ether()/Raw(abc)/TCP(port=1)".toList 20
      [.encode {}, .load (List.replicate 20 255), .load (List.replicate 21 255)]
  obtain ⟨result, state⟩ := encoded { verbose := true, dump := true } {}
  refine ⟨(long _ (by decide)).2, (short [1, 2] (by decide)).2.1.1, result.trans ?_, ?_⟩
  · decide +kernel
  · rw [state]
    decide +kernel

end Frame

end FrameText

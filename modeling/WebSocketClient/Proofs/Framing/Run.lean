import Mathlib.Data.List.Induction
import WebSocketClient.Framing.Handler
import WebSocketClient.Proofs.Frame.Decoding

/-! # Runs of a framing handler

A handler takes one input at a time, and what it has told its callbacks grows with every step. Once
it has failed, nothing that comes in changes how it ends. -/
namespace WebSocketClient.Framing

def Input.isAnswer : Input → Bool
  | .answer _ => true
  | _ => false

structure Phase.Busy (p : Phase) : Prop where
  not_reading : p ≠ .reading
  not_blocked : p ≠ .blocked

theorem Phase.ready_busy : Phase.ready.Busy := ⟨by simp, by simp⟩

namespace Handler

theorem run_append (h : Handler) (first rest : List Input) :
    h.run (first ++ rest) = (h.run first).run rest := List.foldl_append

theorem calls_append (h : Handler) (first rest : List Input) :
    h.calls (first ++ rest) = h.calls first ++ (h.run first).calls rest := by
  induction first generalizing h with
  | nil => rfl
  | cons i first ih => simp only [List.cons_append, calls, ih, List.append_assoc]; rfl

theorem run_concat (h : Handler) (inputs : List Input) (i : Input) :
    h.run (inputs ++ [i]) = ((h.run inputs).next i).1 := h.run_append inputs [i]

theorem calls_concat (h : Handler) (inputs : List Input) (i : Input) :
    h.calls (inputs ++ [i]) = h.calls inputs ++ ((h.run inputs).next i).2 := by
  simp [calls_append, calls]

/-- What holds at the start and is kept by every input holds after every run. -/
theorem run_induction (Holds : Handler → List Call → Prop) {h : Handler} (base : Holds h [])
    (step : ∀ {g told} (i : Input), Holds g told → Holds (g.next i).1 (told ++ (g.next i).2))
    (inputs : List Input) : Holds (h.run inputs) (h.calls inputs) := by
  induction inputs using List.reverseRecOn with
  | nil => exact base
  | append_singleton inputs i ih =>
    rw [run_concat, calls_concat]
    exact step i ih

def turnWithin (h : Handler) (limit : Nat) : Handler × List Call :=
  let decoded := (h.decoder.withLimit limit).decode h.buffer
  let after := { h with decoder := decoded.decoder, buffer := decoded.rest }
  match decoded.outcome with
  | .event event => after.dispatch event
  | .fault cause => after.fail (.violation cause)
  | .nothing =>
    if after.decoder.isAwaitingPayload && limit == 0 then ({ after with phase := .blocked }, [])
    else ({ after with phase := .reading }, [])

theorem turn_eq_turnWithin (h : Handler) : h.turn = h.turnWithin h.limit := rfl

section Turns

variable {h : Handler} {limit : Nat} {after : Frame.Decoder} {rest : Bytes}

theorem turnWithin_of_event {event : Frame.Event}
    (step : (h.decoder.withLimit limit).decode h.buffer = ⟨.event event, after, rest⟩) :
    h.turnWithin limit = { h with decoder := after, buffer := rest }.dispatch event := by
  simp only [turnWithin, step]

theorem turnWithin_of_fault {cause : Frame.Violation}
    (step : (h.decoder.withLimit limit).decode h.buffer = ⟨.fault cause, after, rest⟩) :
    h.turnWithin limit = { h with decoder := after, buffer := rest }.fail (.violation cause) := by
  simp only [turnWithin, step]

theorem turnWithin_of_nothing
    (step : (h.decoder.withLimit limit).decode h.buffer = ⟨.nothing, after, rest⟩) :
    h.turnWithin limit = ({ h with
      decoder := after
      buffer := rest
      phase := if after.isAwaitingPayload && limit == 0 then .blocked else .reading }, []) := by
  simp only [turnWithin, step]
  split <;> rfl

theorem turn_of_event {event : Frame.Event}
    (step : (h.decoder.withLimit h.limit).decode h.buffer = ⟨.event event, after, rest⟩) :
    h.turn = { h with decoder := after, buffer := rest }.dispatch event :=
  turnWithin_of_event step

theorem turn_of_fault {cause : Frame.Violation}
    (step : (h.decoder.withLimit h.limit).decode h.buffer = ⟨.fault cause, after, rest⟩) :
    h.turn = { h with decoder := after, buffer := rest }.fail (.violation cause) :=
  turnWithin_of_fault step

theorem turn_of_nothing
    (step : (h.decoder.withLimit h.limit).decode h.buffer = ⟨.nothing, after, rest⟩) :
    h.turn = ({ h with
      decoder := after
      buffer := rest
      phase := if after.isAwaitingPayload && h.limit == 0 then .blocked else .reading }, []) :=
  turnWithin_of_nothing step

end Turns

theorem fail_of_idle {h : Handler} (idle : h.decoder.current = none) (error : Error) :
    h.fail error = ({ h with phase := .finished (some error) }, []) := by
  simp only [fail, idle]

theorem fail_of_frame {h : Handler} {frame : Frame.Header} (callbacks : h.callbacks = true)
    (reading : h.decoder.current = some frame) (error : Error) :
    h.fail error = ({ h with phase := .interrupting error }, [.interrupted frame error]) := by
  simp only [fail, reading, callbacks, if_true]

/-! Nothing but a decoding step that comes to nothing makes a handler wait. -/

theorem fail_busy (h : Handler) (error : Error) : (h.fail error).1.phase.Busy := by
  unfold fail
  split
  · split <;> constructor <;> simp
  · constructor <;> simp

theorem proceed_busy (h : Handler) (event : Frame.Event) : (h.proceed event).phase.Busy := by
  unfold proceed
  dsimp only
  split <;> constructor <;> simp

theorem dispatch_busy (h : Handler) (event : Frame.Event) : (h.dispatch event).1.phase.Busy := by
  unfold dispatch
  dsimp only
  split
  · constructor <;> simp
  · exact proceed_busy _ _

theorem result?_eq_some {h : Handler} {error : Option Error} :
    h.result? = some error ↔ h.phase = .finished error := by
  unfold result?
  cases h.phase <;> simp

theorem finished_stays {h : Handler} {error : Option Error} (ended : h.phase = .finished error)
    (inputs : List Input) : (h.run inputs).phase = .finished error ∧ h.calls inputs = [] := by
  induction inputs generalizing h with
  | nil => exact ⟨ended, rfl⟩
  | cons i inputs ih =>
    have stays : (h.next i).1.phase = .finished error ∧ (h.next i).2 = [] := by
      cases i <;> simp [next, ended, grant]
    obtain ⟨phase, calls⟩ := ih stays.1
    constructor
    · exact phase
    · rw [Handler.calls, stays.2, calls]
      rfl

/-- A handler that has told its callbacks of a failure ends with it at the next answer. -/
theorem interrupting_ends {h : Handler} {error : Error} (failing : h.phase = .interrupting error)
    (inputs : List Input) :
    h.calls inputs = [] ∧
      (h.run inputs).result? = if inputs.any Input.isAnswer then some (some error) else none := by
  induction inputs generalizing h with
  | nil =>
    constructor
    · rfl
    · change h.result? = none
      simp [result?, failing]
  | cons i inputs ih =>
    by_cases answered : i.isAnswer
    · have ended : (h.next i).1.phase = .finished (some error) ∧ (h.next i).2 = [] := by
        cases i <;> simp_all [next, Input.isAnswer]
      obtain ⟨phase, calls⟩ := finished_stays ended.1 inputs
      constructor
      · rw [Handler.calls, ended.2, calls]
        rfl
      · change ((h.next i).1.run inputs).result? = _
        simp [result?, phase, answered]
    · have stays : (h.next i).1.phase = .interrupting error ∧ (h.next i).2 = [] := by
        cases i <;> simp_all [next, Input.isAnswer, grant]
      obtain ⟨calls, result⟩ := ih stays.1
      constructor
      · rw [Handler.calls, stays.2, calls]
        rfl
      · change ((h.next i).1.run inputs).result? = _
        simp [result, answered]

end Handler

end WebSocketClient.Framing

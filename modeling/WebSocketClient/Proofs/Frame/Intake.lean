import Mathlib.Data.List.Induction
import WebSocketClient.Proofs.Frame.Schedule

/-! # Decoders at work

An intake is a decoder with the octets that it has not taken yet. In contrast to a schedule, which
is over with its first error, an intake goes on: the next decoding step is made with whatever the
error has left. -/
namespace WebSocketClient.Frame

def Outcome.event? : Outcome → Option Event
  | event e => some e
  | nothing | fault _ => none

def Action.limit? : Action → Option Nat
  | limit size => some size
  | feed _ | decode => none

def limitAfter (actions : List Action) : Nat :=
  ((actions.filterMap Action.limit?).getLast?).getD maxSize

structure Intake where
  decoder : Decoder
  buffer : Bytes
deriving DecidableEq

namespace Intake

def initial : Intake := ⟨.initial, []⟩

def outcome (s : Intake) : Outcome := (s.decoder.decode s.buffer).outcome

def next (s : Intake) : Action → Intake
  | .feed chunk => { s with buffer := s.buffer ++ chunk }
  | .limit size => { s with decoder := s.decoder.withLimit size }
  | .decode => ⟨(s.decoder.decode s.buffer).decoder, (s.decoder.decode s.buffer).rest⟩

def reports (s : Intake) : Action → List Outcome
  | .decode => [s.outcome]
  | .feed _ | .limit _ => []

def run (s : Intake) (actions : List Action) : Intake := actions.foldl next s

def outcomes (s : Intake) : List Action → List Outcome
  | [] => []
  | a :: rest => s.reports a ++ (s.next a).outcomes rest

def events (s : Intake) (actions : List Action) : List Event :=
  (s.outcomes actions).filterMap Outcome.event?

theorem run_concat (s : Intake) (actions : List Action) (a : Action) :
    s.run (actions ++ [a]) = (s.run actions).next a := List.foldl_append

theorem outcomes_concat (s : Intake) (actions : List Action) (a : Action) :
    s.outcomes (actions ++ [a]) = s.outcomes actions ++ (s.run actions).reports a := by
  induction actions generalizing s with
  | nil => simp [outcomes, run]
  | cons first rest ih =>
    rw [List.cons_append, outcomes, ih, outcomes, List.append_assoc]
    rfl

theorem events_concat (s : Intake) (actions : List Action) (a : Action) :
    s.events (actions ++ [a]) =
      s.events actions ++ ((s.run actions).reports a).filterMap Outcome.event? := by
  rw [events, outcomes_concat, List.filterMap_append]
  rfl

/-- What a decoding step leaves of an intake. -/
theorem decodes (s : Intake) :
    Decodes s.decoder s.buffer ⟨s.outcome, (s.next .decode).decoder, (s.next .decode).buffer⟩ :=
  s.decoder.decodes s.buffer

theorem decodes_of_outcome {s : Intake} {outcome : Outcome} (h : s.outcome = outcome) :
    ∃ after rest, Decodes s.decoder s.buffer ⟨outcome, after, rest⟩ :=
  ⟨_, _, h ▸ s.decodes⟩

theorem events_reported (s : Intake) :
    (s.reports .decode).filterMap Outcome.event? = s.outcome.event?.toList := by
  rw [reports]
  cases s.outcome <;> rfl

end Intake

theorem Decoder.decode_limit (d : Decoder) (buffer : Bytes) :
    (d.decode buffer).decoder.limit = d.limit := by
  have step := d.decodes buffer
  generalize d.decode buffer = r at step ⊢
  cases step <;> rfl

/-- The limit in force is the last that was set. -/
theorem Intake.run_limit (actions : List Action) :
    (initial.run actions).decoder.limit = limitAfter actions := by
  induction actions using List.reverseRecOn with
  | nil => rfl
  | append_singleton actions a ih =>
    rw [run_concat]
    unfold limitAfter at ih ⊢
    cases a with
    | feed chunk => simpa [next, Action.limit?] using ih
    | limit size => simp [next, Action.limit?, Decoder.withLimit]
    | decode => simpa [next, Action.limit?, Decoder.decode_limit] using ih

end WebSocketClient.Frame

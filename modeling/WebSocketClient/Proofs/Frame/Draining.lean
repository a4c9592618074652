import WebSocketClient.Proofs.Frame.Intake

/-! # Draining

A run of decoding steps comes to an end: every event takes an octet, but for completions, and a
completion ends a frame that has begun. It ends with nothing exactly when there is nothing to be
had: a header is cut off, or payload is owed and there are no octets or no window for it. -/
namespace WebSocketClient.Frame

/-- The octets are fewer than the header needs that they begin. -/
inductive CutHeader (buffer : Bytes) : Prop
  | opening (few : buffer.length < 2)
  | extension {first second tail} (front : buffer = first :: second :: tail)
      (sound : openingFault first second = none)
      (few : buffer.length < 2 + extendedLength (lengthCode second))

theorem CutHeader.length_le {buffer : Bytes} (h : CutHeader buffer) : buffer.length ≤ 9 := by
  cases h with
  | opening few => omega
  | @extension first second tail front sound few =>
    have := extendedLength_le (lengthCode second)
    omega

theorem readHeader_eq_incomplete {messageOpen : Bool} {buffer : Bytes} :
    readHeader messageOpen buffer = .incomplete ↔ CutHeader buffer := by
  constructor
  · intro h
    have shape := readHeader_case messageOpen buffer
    rw [h] at shape
    cases shape with
    | short few => exact .opening few
    | cut sound few =>
      refine .extension rfl sound ?_
      simp only [List.length_cons]
      omega
  · intro h
    cases h with
    | opening few =>
      rcases buffer with _ | ⟨first, _ | ⟨second, tail⟩⟩
      · rfl
      · rfl
      · simp only [List.length_cons] at few
        omega
    | @extension first second tail front sound few =>
      subst front
      obtain ⟨opcode, known⟩ := opcode_of_sound sound
      have missing : (tail.take (extendedLength (lengthCode second))).length <
          extendedLength (lengthCode second) := by
        simp only [List.length_cons] at few
        rw [List.length_take]
        omega
      simp only [readHeader, sound, known, if_pos missing]

/-- Why a decoder reports nothing. -/
inductive Waits (d : Decoder) (buffer : Bytes) : Prop
  | header (idle : d.pending = none) (cut : CutHeader buffer)
  | octets {p} (reading : d.pending = some p) (owes : 0 < p.owed) (empty : buffer = [])
  | window {p} (reading : d.pending = some p) (owes : 0 < p.owed)
      (isData : p.frame.opcode.isData = true) (shut : d.limit = 0)

theorem Waits.decode_eq {d : Decoder} {buffer : Bytes} (h : Waits d buffer) :
    d.decode buffer = ⟨.nothing, d, buffer⟩ := by
  cases h with
  | header idle cut => simp only [Decoder.decode, idle, readHeader_eq_incomplete.mpr cut]
  | octets reading owes empty =>
    exact Decoder.decode_starved reading (by omega) (.inr empty)
  | window reading owes isData shut =>
    refine Decoder.decode_starved reading (by omega) (.inl ?_)
    rw [Decoder.allowance_of_data isData, shut, Nat.min_zero]

theorem Decodes.waits {d after : Decoder} {buffer rest : Bytes}
    (h : Decodes d buffer ⟨.nothing, after, rest⟩) : Waits d buffer := by
  cases h with
  | short idle header => exact .header idle (readHeader_eq_incomplete.mp header)
  | @starve p reading owes dry =>
    by_cases empty : buffer = []
    · exact .octets reading owes empty
    · have none_allowed : d.allowance p = 0 := dry.resolve_right empty
      -- A control frame is allowed all that it owes, so it is a data frame that waits.
      cases isData : p.frame.opcode.isData with
      | false =>
        rw [Decoder.allowance_of_control isData] at none_allowed
        omega
      | true =>
        rw [Decoder.allowance_of_data isData] at none_allowed
        exact .window reading owes isData (by omega)

theorem Intake.outcome_nothing_iff (s : Intake) :
    s.outcome = .nothing ↔ Waits s.decoder s.buffer := by
  constructor
  · intro reported
    obtain ⟨_, _, step⟩ := decodes_of_outcome reported
    exact step.waits
  · intro waits
    rw [outcome, waits.decode_eq]

def Drained.ending (r : Drained) : Outcome :=
  match r.fault with
  | some cause => .fault cause
  | none => .nothing

namespace Intake

theorem run_decode (s : Intake) (count : Nat) :
    s.run (List.replicate (count + 1) .decode) =
      (s.next .decode).run (List.replicate count .decode) := by
  rw [List.replicate_succ]
  rfl

theorem outcomes_decode (s : Intake) (count : Nat) :
    s.outcomes (List.replicate (count + 1) .decode) =
      s.outcome :: (s.next .decode).outcomes (List.replicate count .decode) := by
  rw [List.replicate_succ]
  rfl

/-- The decoding steps of a run report its events, and one step more is what it ends with. -/
theorem drained (d : Decoder) (buffer : Bytes) :
    (⟨d, buffer⟩ : Intake).outcomes
        (List.replicate ((d.drain buffer).events.length + 1) .decode) =
      (d.drain buffer).events.map .event ++ [(d.drain buffer).ending] ∧
    (⟨d, buffer⟩ : Intake).run
        (List.replicate ((d.drain buffer).events.length + 1) .decode) =
      ⟨(d.drain buffer).decoder, (d.drain buffer).rest⟩ := by
  induction d, buffer using Decoder.drain_induction with
  | nothing d buffer after rest h =>
    rw [Decoder.drain_of_nothing h]
    simp [outcomes, reports, outcome, run, next, h, Drained.ending]
  | fault d buffer cause after rest h =>
    rw [Decoder.drain_of_fault h]
    simp [outcomes, reports, outcome, run, next, h, Drained.ending]
  | event d buffer event after rest h ih =>
    have first : (⟨d, buffer⟩ : Intake).next .decode = ⟨after, rest⟩ := by
      simp only [next, h]
    have reported : (⟨d, buffer⟩ : Intake).outcome = .event event := by
      simp only [outcome, h]
    rw [Decoder.drain_of_event h]
    generalize after.drain rest = r at ih ⊢
    obtain ⟨outcomes_eq, run_eq⟩ := ih
    have length : (r.after [event]).events.length = r.events.length + 1 := by
      simp [Drained.after]
    rw [length, outcomes_decode, run_decode, first, reported, outcomes_eq, run_eq]
    exact ⟨rfl, rfl⟩

end Intake

theorem Decoder.length_drain_le (d : Decoder) (buffer : Bytes) :
    (d.drain buffer).events.length ≤ d.effort buffer := by
  induction d, buffer using drain_induction with
  | nothing d buffer after rest h => simp [drain_of_nothing h]
  | fault d buffer cause after rest h => simp [drain_of_fault h]
  | event d buffer event after rest h ih =>
    have less := effort_decreases h
    rw [drain_of_event h]
    simp only [Drained.after, List.singleton_append, List.length_cons]
    omega

/-- Asking again when nothing was reported changes nothing. -/
theorem Intake.asked_again {s : Intake} (h : s.outcome = .nothing) (count : Nat) :
    s.outcomes (List.replicate count .decode) = List.replicate count .nothing ∧
      s.run (List.replicate count .decode) = s := by
  have waits := s.outcome_nothing_iff.mp h
  have same : s.next .decode = s := by
    simp only [next, waits.decode_eq]
  induction count with
  | zero => exact ⟨rfl, rfl⟩
  | succ count ih =>
    rw [outcomes_decode, run_decode, same, h, ih.1, ih.2]
    exact ⟨rfl, rfl⟩

/-- From any state, under any limit, and on any octets, decoding comes to nothing or an error after
at most two events for every octet and one more. It comes to nothing exactly when no frame is being
read and the octets are fewer than the header needs, or payload is owed and there are no octets or,
for a data frame, no limit above zero. Then it changes nothing, however often it is asked again. -/
theorem draining_ends (s : Intake) :
    (let r := s.decoder.drain s.buffer
      let steps := List.replicate (r.events.length + 1) Action.decode
      s.outcomes steps = r.events.map .event ++ [r.ending] ∧ s.run steps = ⟨r.decoder, r.rest⟩ ∧
        r.events.length ≤ 2 * s.buffer.length + 1) ∧
    (s.outcome = .nothing ↔ Waits s.decoder s.buffer) ∧
    (s.outcome = .nothing → ∀ count : Nat,
      s.outcomes (List.replicate count .decode) = List.replicate count .nothing ∧
        s.run (List.replicate count .decode) = s) := by
  refine ⟨?_, s.outcome_nothing_iff, ?_⟩
  · obtain ⟨outcomes_eq, run_eq⟩ := Intake.drained s.decoder s.buffer
    refine ⟨outcomes_eq, run_eq, ?_⟩
    have bound := s.decoder.length_drain_le s.buffer
    have most := s.decoder.effort_lt s.buffer
    omega
  · intro h count
    exact Intake.asked_again h count

/-- A text that is held back: the window for it is shut, and nothing changes that. -/
theorem held_back_by_limit :
    let s : Intake := ⟨⟨some ⟨⟨.text, true, 2⟩, 2⟩, false, 0⟩, [0x68, 0x69]⟩
    s.outcome = .nothing ∧ Waits s.decoder s.buffer ∧ s.run [.decode, .decode] = s := by
  intro s
  obtain ⟨-, nothing, again⟩ := draining_ends s
  have held : Waits s.decoder s.buffer := .window rfl (by decide) rfl rfl
  exact ⟨nothing.mpr held, held, (again (nothing.mpr held) 2).2⟩

end WebSocketClient.Frame

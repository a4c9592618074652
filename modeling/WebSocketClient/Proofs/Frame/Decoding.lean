import WebSocketClient.Frame.Decoder

/-! # Decoding steps

What one step of the decoder can do with a buffer, and why a run of steps ends. A header is judged
by the octets it is made of and by nothing that follows them. -/
namespace WebSocketClient.Frame

/-- The octets of a whole header and the frame that they announce. -/
structure Spelled (first second : UInt8) (extension : Bytes) (frame : Header) : Prop where
  sound : openingFault first second = none
  known : OpCode.ofNat? (opcodeBits first) = some frame.opcode
  fin_eq : frame.fin = finBit first
  whole : extension.length = extendedLength (lengthCode second)
  length_eq : frame.length = payloadLength second extension

inductive HeaderCase (messageOpen : Bool) : Bytes → HeaderRead → Prop
  | short {buffer} (few : buffer.length < 2) : HeaderCase messageOpen buffer .incomplete
  | cut {first second tail} (sound : openingFault first second = none)
      (few : tail.length < extendedLength (lengthCode second)) :
      HeaderCase messageOpen (first :: second :: tail) .incomplete
  | faulty {first second tail cause} (fault : openingFault first second = some cause) :
      HeaderCase messageOpen (first :: second :: tail) (.refused cause (first :: second :: tail))
  | broken {first second extension frame cause rest} (spelled : Spelled first second extension frame)
      (judged : judge messageOpen frame = .error cause) :
      HeaderCase messageOpen (first :: second :: (extension ++ rest)) (.refused cause rest)
  | whole {first second extension frame openAfter rest}
      (spelled : Spelled first second extension frame)
      (judged : judge messageOpen frame = .ok openAfter) :
      HeaderCase messageOpen (first :: second :: (extension ++ rest)) (.read frame openAfter rest)

theorem opcode_of_sound {first second : UInt8} (h : openingFault first second = none) :
    ∃ opcode, OpCode.ofNat? (opcodeBits first) = some opcode := by
  unfold openingFault at h
  cases known : OpCode.ofNat? (opcodeBits first) with
  | none =>
    simp only [known, if_true] at h
    split at h <;> cases h
  | some opcode => exact ⟨opcode, rfl⟩

theorem readHeader_case (messageOpen : Bool) (buffer : Bytes) :
    HeaderCase messageOpen buffer (readHeader messageOpen buffer) := by
  rcases buffer with _ | ⟨first, _ | ⟨second, tail⟩⟩
  · exact .short (by simp)
  · exact .short (by simp)
  cases fault : openingFault first second with
  | some cause =>
    simp only [readHeader, fault]
    exact .faulty fault
  | none =>
    obtain ⟨opcode, known⟩ := opcode_of_sound fault
    simp only [readHeader, fault, known]
    split
    · rename_i few
      exact .cut fault (by rw [List.length_take] at few; omega)
    · rename_i enough
      generalize size : extendedLength (lengthCode second) = extra at enough ⊢
      have spelled : Spelled first second (tail.take extra)
          ⟨opcode, finBit first, payloadLength second (tail.take extra)⟩ :=
        ⟨fault, known, rfl, by rw [List.length_take] at enough ⊢; omega, rfl⟩
      have parts : tail = tail.take extra ++ tail.drop extra := (List.take_append_drop ..).symm
      rw [show first :: second :: tail =
        first :: second :: (tail.take extra ++ tail.drop extra) by rw [← parts]]
      split
      · rename_i judged
        exact .broken spelled judged
      · rename_i judged
        exact .whole spelled judged

theorem readHeader_of_spelled {first second : UInt8} {extension : Bytes} {frame : Header}
    (h : Spelled first second extension frame) (messageOpen : Bool) (rest : Bytes) :
    readHeader messageOpen (first :: second :: (extension ++ rest)) =
      match judge messageOpen frame with
      | .error cause => .refused cause rest
      | .ok openAfter => .read frame openAfter rest := by
  have frame_eq : ⟨frame.opcode, finBit first, payloadLength second extension⟩ = frame := by
    rw [← h.fin_eq, ← h.length_eq]
  have enough : ¬ extension.length < extension.length := Nat.lt_irrefl _
  cases judged : judge messageOpen frame <;>
    simp only [readHeader, h.sound, h.known, ← h.whole, List.take_left, List.drop_left,
      if_neg enough, frame_eq, judged]

/-- The headers that the rules let pass, and the message that each leaves open. -/
theorem judge_eq_ok {isOpen after : Bool} {frame : Header} :
    judge isOpen frame = .ok after ↔
      (frame.opcode.isControl = true ∧ frame.fin = true ∧ frame.length ≤ 125 ∧ after = isOpen) ∨
      (frame.opcode = .continuation ∧ isOpen = true ∧ after = !frame.fin) ∨
      ((frame.opcode = .text ∨ frame.opcode = .binary) ∧ isOpen = false ∧ after = !frame.fin) := by
  unfold judge
  rcases frame with ⟨opcode, fin, length⟩
  by_cases large : 125 < length
  · have : ¬ length ≤ 125 := by omega
    cases opcode <;> cases fin <;> cases isOpen <;>
      simp [OpCode.isControl, large, this, eq_comm]
  · have : length ≤ 125 := by omega
    cases opcode <;> cases fin <;> cases isOpen <;>
      simp [OpCode.isControl, large, this, eq_comm]

/-- What a header is read as when more octets follow. -/
def HeaderRead.followedBy : HeaderRead → Bytes → HeaderRead
  | incomplete, _ => incomplete
  | refused cause rest, later => refused cause (rest ++ later)
  | read frame messageOpen rest, later => read frame messageOpen (rest ++ later)

theorem readHeader_append {messageOpen : Bool} {buffer : Bytes}
    (h : readHeader messageOpen buffer ≠ .incomplete) (later : Bytes) :
    readHeader messageOpen (buffer ++ later) =
      (readHeader messageOpen buffer).followedBy later := by
  have shape := readHeader_case messageOpen buffer
  generalize readHeader messageOpen buffer = r at h shape ⊢
  cases shape with
  | short => exact absurd rfl h
  | cut => exact absurd rfl h
  | faulty fault => simp [readHeader, fault, HeaderRead.followedBy]
  | broken spelled judged =>
    simp [readHeader_of_spelled spelled, judged, HeaderRead.followedBy]
  | whole spelled judged =>
    simp [readHeader_of_spelled spelled, judged, HeaderRead.followedBy]

theorem extendedLength_le (code : Nat) : extendedLength code ≤ 8 := by
  unfold extendedLength
  split
  · decide
  · split <;> decide

theorem Spelled.length_le {first second : UInt8} {extension : Bytes} {frame : Header}
    (h : Spelled first second extension frame) : frame.length ≤ maxSize := by
  rw [h.length_eq, payloadLength]
  have whole := h.whole
  have short : lengthCode second < 128 := Nat.mod_lt _ (by decide)
  split
  · unfold maxSize
    omega
  · have value := Bytes.toNat_lt extension
    have width : extension.length ≤ 8 := whole ▸ extendedLength_le _
    have bound : Bytes.range extension.length ≤ Bytes.range 8 := Bytes.range_mono width
    rw [Bytes.range_eight] at bound
    omega

/-- A frame that has been read is whole, and its header took at least two octets. -/
theorem readHeader_read {messageOpen openAfter : Bool} {buffer rest : Bytes} {frame : Header}
    (h : readHeader messageOpen buffer = .read frame openAfter rest) :
    rest.length + 2 ≤ buffer.length ∧ frame.length ≤ maxSize := by
  have shape := readHeader_case messageOpen buffer
  rw [h] at shape
  cases shape with
  | whole spelled => exact ⟨by simp only [List.length_cons, List.length_append]; omega,
      spelled.length_le⟩

theorem readHeader_refused {messageOpen : Bool} {buffer rest : Bytes} {cause : Violation}
    (h : readHeader messageOpen buffer = .refused cause rest) : rest.length ≤ buffer.length := by
  have shape := readHeader_case messageOpen buffer
  rw [h] at shape
  cases shape with
  | faulty => exact Nat.le_refl _
  | broken =>
    simp only [List.length_cons, List.length_append]
    omega

def Decoder.pay (d : Decoder) (p : Pending) (count : Nat) : Decoder :=
  { d with pending := some ⟨p.frame, p.owed - count⟩ }

/-- Everything that one decoding step can do. -/
inductive Decodes (d : Decoder) (buffer : Bytes) : Decoded → Prop
  | short (idle : d.pending = none) (header : readHeader d.messageOpen buffer = .incomplete) :
      Decodes d buffer ⟨.nothing, d, buffer⟩
  | refuse {cause rest} (idle : d.pending = none)
      (header : readHeader d.messageOpen buffer = .refused cause rest) :
      Decodes d buffer ⟨.fault cause, d, rest⟩
  | begin {frame openAfter rest} (idle : d.pending = none)
      (header : readHeader d.messageOpen buffer = .read frame openAfter rest) :
      Decodes d buffer ⟨.event (.begin frame),
        { d with pending := some ⟨frame, frame.length⟩, messageOpen := openAfter }, rest⟩
  | complete {frame} (paid : d.pending = some ⟨frame, 0⟩) :
      Decodes d buffer ⟨.event (.complete frame), { d with pending := none }, buffer⟩
  | starve {p} (reading : d.pending = some p) (owes : 0 < p.owed)
      (dry : d.allowance p = 0 ∨ buffer = []) : Decodes d buffer ⟨.nothing, d, buffer⟩
  | deliver {p data rest} (reading : d.pending = some p) (split : buffer = data ++ rest)
      (nonempty : data ≠ []) (taken : data = buffer.take (d.allowance p)) :
      Decodes d buffer ⟨.event (.payload p.frame data), d.pay p data.length, rest⟩

/-- A decoding step adds nothing to the buffer. -/
theorem Decodes.length_rest_le {d : Decoder} {buffer : Bytes} {r : Decoded}
    (h : Decodes d buffer r) : r.rest.length ≤ buffer.length := by
  cases h with
  | short | complete | starve => exact Nat.le_refl _
  | refuse idle header => exact readHeader_refused header
  | begin idle header =>
    have := (readHeader_read header).1
    dsimp only
    omega
  | deliver reading split =>
    rw [split, List.length_append]
    exact Nat.le_add_left ..

namespace Decoder

theorem allowance_le (d : Decoder) (p : Pending) : d.allowance p ≤ p.owed := by
  unfold allowance
  split
  · exact Nat.min_le_left ..
  · exact Nat.le_refl _

theorem allowance_of_data {d : Decoder} {p : Pending} (isData : p.frame.opcode.isData = true) :
    d.allowance p = min p.owed d.limit := by
  rw [allowance, if_pos isData]

theorem allowance_of_control {d : Decoder} {p : Pending}
    (control : p.frame.opcode.isData = false) : d.allowance p = p.owed := by
  simp [allowance, control]

theorem isAwaitingPayload_iff {d : Decoder} :
    d.isAwaitingPayload = true ↔
      ∃ p, d.pending = some p ∧ 0 < p.owed ∧ p.frame.opcode.isData = true := by
  unfold isAwaitingPayload
  cases d.pending with
  | none => simp
  | some p => simp

/-- A limit that is large enough does not show. -/
theorem allowance_of_le {d : Decoder} {p : Pending} (h : p.owed ≤ d.limit) :
    d.allowance p = p.owed := by
  unfold allowance
  split
  · exact Nat.min_eq_left h
  · rfl

theorem decodes (d : Decoder) (buffer : Bytes) : Decodes d buffer (d.decode buffer) := by
  unfold decode
  cases reading : d.pending with
  | none =>
    cases header : readHeader d.messageOpen buffer with
    | incomplete => exact .short reading header
    | refused cause rest => exact .refuse reading header
    | read frame openAfter rest => exact .begin reading header
  | some p =>
    dsimp only
    split
    · rename_i paid
      exact .complete (by rw [reading, ← paid])
    · rename_i owes
      split
      · rename_i dry
        rw [List.isEmpty_iff, List.take_eq_nil_iff] at dry
        exact .starve reading (by omega) dry
      · rename_i more
        refine .deliver reading ?_ (by simpa using more) rfl
        rw [List.length_take, List.take_eq_take_min]
        exact (List.take_append_drop ..).symm

theorem decode_complete {d : Decoder} {frame : Header} (paid : d.pending = some ⟨frame, 0⟩)
    (buffer : Bytes) :
    d.decode buffer = ⟨.event (.complete frame), { d with pending := none }, buffer⟩ := by
  simp [decode, paid]

theorem decode_starved {d : Decoder} {p : Pending} {buffer : Bytes} (reading : d.pending = some p)
    (owes : p.owed ≠ 0) (dry : d.allowance p = 0 ∨ buffer = []) :
    d.decode buffer = ⟨.nothing, d, buffer⟩ := by
  have empty : (buffer.take (d.allowance p)).isEmpty = true := by
    rw [List.isEmpty_iff, List.take_eq_nil_iff]
    exact dry
  simp only [decode, reading, if_neg owes, empty, if_true]

/-- A frame takes what is there, up to what it is allowed. -/
theorem decode_payload {d : Decoder} {p : Pending} {data : Bytes} (reading : d.pending = some p)
    (nonempty : data ≠ []) (fits : data.length ≤ d.allowance p) (rest : Bytes)
    (greedy : data.length = d.allowance p ∨ rest = []) :
    d.decode (data ++ rest) = ⟨.event (.payload p.frame data), d.pay p data.length, rest⟩ := by
  have length := List.length_pos_iff.mpr nonempty
  have owes : p.owed ≠ 0 := by
    have := d.allowance_le p
    omega
  have taken : (data ++ rest).take (d.allowance p) = data := by
    rcases greedy with full | rfl
    · rw [← full, List.take_left]
    · rw [List.append_nil, List.take_of_length_le fits]
  simp [decode, pay, reading, owes, taken, nonempty]

theorem decode_nothing {d after : Decoder} {buffer rest : Bytes}
    (h : d.decode buffer = ⟨.nothing, after, rest⟩) : after = d ∧ rest = buffer := by
  have step := d.decodes buffer
  rw [h] at step
  cases step with
  | short | starve => exact ⟨rfl, rfl⟩

/-- A limit makes a difference only in how much payload is taken. -/
theorem decode_withLimit {d : Decoder} {limit other : Nat}
    (same : ∀ p, d.pending = some p →
      (d.withLimit limit).allowance p = (d.withLimit other).allowance p) (buffer : Bytes) :
    ((d.withLimit limit).decode buffer).outcome = ((d.withLimit other).decode buffer).outcome := by
  cases reading : d.pending with
  | none =>
    simp only [decode, withLimit, reading]
    cases readHeader d.messageOpen buffer <;> rfl
  | some p =>
    have pending : ∀ size, (d.withLimit size).pending = some p := fun _ => reading
    simp only [decode, pending, same p reading]
    split
    · rfl
    · split <;> rfl

/-- Only a header is ever refused. -/
theorem idle_of_fault {d after : Decoder} {buffer rest : Bytes} {cause : Violation}
    (h : d.decode buffer = ⟨.fault cause, after, rest⟩) : after.pending = none := by
  have step := d.decodes buffer
  rw [h] at step
  cases step with
  | refuse idle => exact idle

/-- In the middle of a frame, a step reports nothing, the end of the frame or payload of it. -/
theorem outcome_in_frame {d : Decoder} {p : Pending} (reading : d.pending = some p)
    (buffer : Bytes) :
    (d.decode buffer).outcome = .nothing ∨
      ((d.decode buffer).outcome = .event (.complete p.frame) ∧ p.owed = 0) ∨
      ∃ data, data ≠ [] ∧ (d.decode buffer).outcome = .event (.payload p.frame data) := by
  have step := d.decodes buffer
  generalize d.decode buffer = r at step ⊢
  cases step with
  | short | starve => exact .inl rfl
  | refuse idle | begin idle =>
    rw [reading] at idle
    cases idle
  | complete paid =>
    obtain rfl := Option.some.inj (reading.symm.trans paid)
    exact .inr (.inl ⟨rfl, rfl⟩)
  | deliver current split nonempty =>
    obtain rfl := Option.some.inj (reading.symm.trans current)
    exact .inr (.inr ⟨_, nonempty, rfl⟩)

/-- The steps that can still report something: two for every octet, and one for a frame that has
begun. -/
def effort (d : Decoder) (buffer : Bytes) : Nat :=
  2 * buffer.length + if d.pending.isSome then 1 else 0

@[simp] theorem effort_withLimit (d : Decoder) (limit : Nat) (buffer : Bytes) :
    (d.withLimit limit).effort buffer = d.effort buffer := rfl

theorem effort_append (d : Decoder) (buffer later : Bytes) :
    d.effort (buffer ++ later) = d.effort buffer + 2 * later.length := by
  rw [effort, effort, List.length_append]
  omega

theorem effort_decreases {d after : Decoder} {buffer rest : Bytes} {event : Event}
    (h : d.decode buffer = ⟨.event event, after, rest⟩) :
    after.effort rest < d.effort buffer := by
  have step := d.decodes buffer
  rw [h] at step
  cases step with
  | begin idle header =>
    have := (readHeader_read header).1
    simp [effort, idle]
    omega
  | complete paid => simp [effort, paid]
  | deliver reading split nonempty =>
    have := List.length_pos_iff.mpr nonempty
    simp [effort, pay, reading, split]
    omega

theorem effort_le {d after : Decoder} {buffer rest : Bytes} {outcome : Outcome}
    (h : d.decode buffer = ⟨outcome, after, rest⟩) : after.effort rest ≤ d.effort buffer := by
  have step := d.decodes buffer
  rw [h] at step
  cases step with
  | short | starve => exact Nat.le_refl _
  | refuse idle header =>
    have shorter := readHeader_refused header
    unfold effort
    omega
  | begin | complete | deliver => exact Nat.le_of_lt (effort_decreases h)

theorem drainSteps_enough {n m : Nat} {d : Decoder} {buffer : Bytes} (hn : d.effort buffer < n)
    (hm : d.effort buffer < m) : drainSteps n d buffer = drainSteps m d buffer := by
  induction n generalizing m d buffer with
  | zero => omega
  | succ n ih =>
    obtain ⟨m, rfl⟩ : ∃ k, m = k + 1 := ⟨m - 1, by omega⟩
    simp only [drainSteps]
    cases h : d.decode buffer with
    | mk outcome after rest =>
      cases outcome with
      | nothing => rfl
      | fault cause => rfl
      | event event =>
        have less := effort_decreases h
        have same : drainSteps n after rest = drainSteps m after rest :=
          ih (by omega) (by omega)
        simp only [same]

theorem effort_lt (d : Decoder) (buffer : Bytes) : d.effort buffer < 2 * buffer.length + 2 := by
  unfold effort
  split <;> omega

end Decoder

def Drained.after (events : List Event) (r : Drained) : Drained :=
  { r with events := events ++ r.events }

@[simp] theorem Drained.after_after (first second : List Event) (r : Drained) :
    (r.after second).after first = r.after (first ++ second) := by
  simp [Drained.after]

namespace Decoder

theorem drain_of_nothing {d after : Decoder} {buffer rest : Bytes}
    (h : d.decode buffer = ⟨.nothing, after, rest⟩) :
    d.drain buffer = ⟨[], none, after, rest⟩ := by
  simp [drain, drainSteps, h]

theorem drain_of_fault {d after : Decoder} {buffer rest : Bytes} {cause : Violation}
    (h : d.decode buffer = ⟨.fault cause, after, rest⟩) :
    d.drain buffer = ⟨[], some cause, after, rest⟩ := by
  simp [drain, drainSteps, h]

theorem drain_of_event {d after : Decoder} {buffer rest : Bytes} {event : Event}
    (h : d.decode buffer = ⟨.event event, after, rest⟩) :
    d.drain buffer = (after.drain rest).after [event] := by
  have less := effort_decreases h
  have enough : drainSteps (2 * buffer.length + 1) after rest = after.drain rest :=
    drainSteps_enough (by have := d.effort_lt buffer; omega) (after.effort_lt rest)
  simp [drain, drainSteps, h] at enough ⊢
  rw [enough]
  rfl

/-- Induction along a run of decoding steps, up to the one that reports no event. -/
@[elab_as_elim]
theorem drain_induction {motive : Decoder → Bytes → Prop}
    (nothing : ∀ d buffer after rest, d.decode buffer = ⟨.nothing, after, rest⟩ → motive d buffer)
    (fault : ∀ d buffer cause after rest, d.decode buffer = ⟨.fault cause, after, rest⟩ →
      motive d buffer)
    (event : ∀ d buffer event after rest, d.decode buffer = ⟨.event event, after, rest⟩ →
      motive after rest → motive d buffer)
    (d : Decoder) (buffer : Bytes) : motive d buffer := by
  induction h : d.effort buffer using Nat.strongRecOn generalizing d buffer with
  | _ n ih =>
    cases step : d.decode buffer with
    | mk outcome after rest =>
      cases outcome with
      | nothing => exact nothing d buffer after rest step
      | fault cause => exact fault d buffer cause after rest step
      | event e =>
        have less := effort_decreases step
        exact event d buffer e after rest step (ih _ (h ▸ less) after rest rfl)

end Decoder

end WebSocketClient.Frame

import WebSocketClient.Proofs.Frame.Draining
import WebSocketClient.Proofs.Framing.Window

/-! # Back-pressure

A handler asks for octets only when it can do nothing with those that it has, so that it never holds
much more than what it read last. It waits for window only in the middle of a data frame, and only
after a turn that saw no window: everything else goes on without. -/
namespace WebSocketClient.Frame

/-- While a data frame owes payload, nothing but payload of it is decoded, whatever the limit. -/
theorem Decoder.decode_of_awaiting {d : Decoder} (awaiting : d.isAwaitingPayload = true)
    (limit : Nat) (buffer : Bytes) :
    ((d.withLimit limit).decode buffer).outcome = .nothing ∨
      ∃ frame data, ((d.withLimit limit).decode buffer).outcome = .event (.payload frame data) ∧
        frame.opcode.isData = true := by
  obtain ⟨p, reading, owes, isData⟩ := isAwaitingPayload_iff.mp awaiting
  have now : (d.withLimit limit).pending = some p := reading
  rcases outcome_in_frame now buffer with silent | ⟨-, paid⟩ | ⟨data, -, delivers⟩
  · exact .inl silent
  · omega
  · exact .inr ⟨_, _, delivers, isData⟩

end WebSocketClient.Frame

namespace WebSocketClient.Framing

/-- What a handler was given last: the octets of a read that it had asked for, and the window that
was there when a turn began. -/
structure Latest where
  read : Bytes
  window : Option Nat
deriving DecidableEq

namespace Latest

def initial : Latest := ⟨[], none⟩

def after (t : Latest) (w : Worker) : Input → Latest
  | .read data =>
    if w.seen = none ∧ w.handler.phase = .reading then { t with read := data } else t
  | .turn =>
    if w.seen = none ∧ w.handler.phase = .ready then { t with window := some w.handler.window }
    else t
  | .readFailed _ | .grant _ | .answer _ => t

end Latest

namespace Worker

def latest (w : Worker) (t : Latest) : List Input → Latest
  | [] => t
  | i :: rest => (w.next i).1.latest (t.after w i) rest

theorem latest_concat (w : Worker) (t : Latest) (inputs : List Input) (i : Input) :
    w.latest t (inputs ++ [i]) = (w.latest t inputs).after (w.run inputs) i := by
  induction inputs generalizing w t with
  | nil => rfl
  | cons first rest ih =>
    rw [List.cons_append, latest, ih, latest]
    rfl

end Worker

namespace Latest

variable {t : Latest} {w : Worker}

theorem after_of_unawaited {i : Input} (unawaited : ¬ w.Awaits i) : t.after w i = t := by
  cases i with
  | turn =>
    refine if_neg ?_
    rintro ⟨-, ready⟩
    exact unawaited (.inr (.inl ready))
  | read data => exact if_neg unawaited
  | readFailed | grant | answer => rfl

theorem after_within {limit : Nat} (within : w.seen = some limit) : t.after w .turn = t := by
  refine if_neg ?_
  rintro ⟨between, -⟩
  rw [within] at between
  cases between

end Latest

structure Pressed (w : Worker) (t : Latest) : Prop where
  buffered : w.handler.buffer.length ≤ t.read.length + 9
  seen_eq : ∀ limit, w.seen = some limit →
    if w.handler.manual then t.window = some limit else limit = maxSize
  reading : w.handler.phase = .reading → w.handler.buffer = [] ∨
    w.handler.decoder.pending = none ∧ Frame.CutHeader w.handler.buffer
  opened : w.handler.phase = .reading → w.handler.manual = true →
    w.handler.decoder.isAwaitingPayload = true → ∃ seen, t.window = some seen ∧ 0 < seen
  blocked : w.handler.phase = .blocked → w.handler.manual = true ∧
    w.handler.decoder.isAwaitingPayload = true ∧ t.window = some 0

namespace Pressed

variable {w : Worker} {t : Latest}

/-- A handler that waits for nothing is pressed by its buffer alone. -/
theorem of_busy {h : Handler} (busy : h.phase.Busy)
    (buffered : h.buffer.length ≤ t.read.length + 9) : Pressed ⟨h, none⟩ t where
  buffered := buffered
  seen_eq := by
    intro limit seen
    cases seen
  reading := by
    intro reading
    exact absurd reading busy.not_reading
  opened := by
    intro reading
    exact absurd reading busy.not_reading
  blocked := by
    intro blocked
    exact absurd blocked busy.not_blocked

theorem initial (window : Nat) (manual callbacks : Bool) :
    Pressed (Worker.initial window manual callbacks) .initial :=
  of_busy Phase.ready_busy (Nat.zero_le _)

/-- A handler that asks for octets holds at most part of a header. -/
theorem length_le (h : Pressed w t) (reading : w.handler.phase = .reading) :
    w.handler.buffer.length ≤ 9 := by
  rcases h.reading reading with empty | ⟨-, cut⟩
  · rw [empty]
    exact Nat.zero_le _
  · exact cut.length_le

/-- A turn that comes to nothing waits for window if it saw none and a data frame owes payload, and
for octets otherwise. -/
theorem starve (h : Pressed w t) {limit : Nat} {after : Frame.Decoder} {rest : Bytes}
    (within : w.seen = some limit)
    (step : (w.handler.decoder.withLimit limit).decode w.handler.buffer =
      ⟨.nothing, after, rest⟩) :
    Pressed ⟨{ w.handler with
      decoder := after
      buffer := rest
      phase := if after.isAwaitingPayload && limit == 0 then .blocked else .reading }, none⟩ t := by
  have decodes := (w.handler.decoder.withLimit limit).decodes w.handler.buffer
  rw [step] at decodes
  have waits := decodes.waits
  obtain ⟨rfl, rfl⟩ := Frame.Decoder.decode_nothing step
  have seen := h.seen_eq limit within
  by_cases held : (w.handler.decoder.withLimit limit).isAwaitingPayload = true ∧ limit = 0
  · obtain ⟨awaiting, rfl⟩ := held
    -- Without a window to manage, the limit would not be zero.
    have manual : w.handler.manual = true := by
      by_contra automatic
      rw [if_neg automatic] at seen
      cases seen
    rw [if_pos manual] at seen
    simp only [awaiting, beq_self_eq_true, Bool.and_self, if_true]
    refine ⟨h.buffered, ?_, ?_, ?_, fun _ => ⟨manual, awaiting, seen⟩⟩
    · intro limit seen
      cases seen
    · intro reading
      cases reading
    · intro reading
      cases reading
  · have open_ : ((w.handler.decoder.withLimit limit).isAwaitingPayload && limit == 0) = false := by
      simpa using held
    simp only [open_, Bool.false_eq_true, if_false]
    refine ⟨h.buffered, ?_, ?_, ?_, ?_⟩
    · intro limit seen
      cases seen
    · intro _
      cases waits with
      | header idle cut => exact .inr ⟨idle, cut⟩
      | octets reading owes empty => exact .inl empty
      | window reading owes isData shut =>
        have awaiting := Frame.Decoder.isAwaitingPayload_iff.mpr ⟨_, reading, owes, isData⟩
        exact absurd ⟨awaiting, shut⟩ held
    · intro _ manual awaiting
      have manual : w.handler.manual = true := manual
      rw [if_pos manual] at seen
      refine ⟨limit, seen, Nat.pos_of_ne_zero ?_⟩
      intro shut
      exact held ⟨awaiting, shut⟩
    · intro blocked
      cases blocked

theorem next (h : Pressed w t) (i : Input) : Pressed (w.next i).1 (t.after w i) := by
  have works := w.works i
  generalize (w.next i).1 = after at works ⊢
  generalize (w.next i).2 = calls at works
  generalize w.passes i = event at works
  have fits {limit : Nat} {r : Frame.Decoded}
      (step : (w.handler.decoder.withLimit limit).decode w.handler.buffer = r) :
      r.rest.length ≤ t.read.length + 9 := by
    have decodes := (w.handler.decoder.withLimit limit).decodes w.handler.buffer
    rw [step] at decodes
    exact Nat.le_trans decodes.length_rest_le h.buffered
  cases works with
  | ignore unawaited =>
    rw [Latest.after_of_unawaited unawaited]
    exact h
  | widen => exact ⟨h.buffered, h.seen_eq, h.reading, h.opened, h.blocked⟩
  | look ready between =>
    rw [Latest.after, if_pos ⟨between, ready⟩]
    refine ⟨h.buffered, ?_, ?_, ?_, ?_⟩
    · intro limit seen
      obtain rfl := Option.some.inj seen
      cases manual : w.handler.manual <;> simp [Handler.limit, manual]
    · intro reading
      cases ready.symm.trans reading
    · intro reading
      cases ready.symm.trans reading
    · intro blocked
      cases ready.symm.trans blocked
  | pass within step =>
    rw [Latest.after_within within]
    exact of_busy (Handler.dispatch_busy _ _) (by simpa using fits step)
  | refuse within step =>
    rw [Latest.after_within within]
    exact of_busy (Handler.fail_busy _ _) (by simpa using fits step)
  | starve within step =>
    rw [Latest.after_within within]
    exact h.starve within step
  | unblock between blocked opened =>
    have same : t.after w .turn = t := if_neg (by simp [blocked])
    rw [same]
    exact of_busy Phase.ready_busy h.buffered
  | @fill data between reading nonempty =>
    rw [Latest.after, if_pos ⟨between, reading⟩]
    refine of_busy Phase.ready_busy ?_
    have few := h.length_le reading
    simp only [List.length_append]
    omega
  | close between reading =>
    rw [Latest.after, if_pos ⟨between, reading⟩]
    refine of_busy (Handler.fail_busy _ _) ?_
    have few := h.length_le reading
    simpa using few
  | lose | abort => exact of_busy (Handler.fail_busy _ _) (by simpa [Latest.after] using h.buffered)
  | proceed => exact of_busy (Handler.proceed_busy _ _) h.buffered
  | finish => exact of_busy ⟨by simp, by simp⟩ h.buffered

theorem run (h : Pressed w t) (inputs : List Input) :
    Pressed (w.run inputs) (w.latest t inputs) := by
  induction inputs using List.reverseRecOn with
  | nil => exact h
  | append_singleton inputs i ih =>
    rw [Worker.run_concat, Worker.latest_concat]
    exact ih.next i

end Pressed

/-- In either window mode, and however reads, answers of callbacks and grants of window come in: a
handler holds at most the octets of its last read and nine more. It asks for octets only with none
left or with part of a header, and if it manages the window, not in a data frame that owes payload
after a turn that saw no window. It waits for window only in that situation. Then payload of the
frame is all that could be decoded, whatever window there was. -/
theorem back_pressure (window : Nat) (manual callbacks : Bool) (inputs : List Input) :
    let start := Worker.initial window manual callbacks
    let w := start.run inputs
    let t := start.latest .initial inputs
    w.handler.buffer.length ≤ t.read.length + 9 ∧
    (w.handler.phase = .reading →
      (w.handler.buffer = [] ∨
        w.handler.decoder.pending = none ∧ Frame.CutHeader w.handler.buffer) ∧
      w.handler.buffer.length ≤ 9 ∧
      (manual = true → w.handler.decoder.isAwaitingPayload = true →
        ∃ seen, t.window = some seen ∧ 0 < seen)) ∧
    (w.handler.phase = .blocked →
      manual = true ∧ t.window = some 0 ∧
      (∃ p, w.handler.decoder.pending = some p ∧ 0 < p.owed ∧ p.frame.opcode.isData = true) ∧
      ∀ limit,
        let decoded := (w.handler.decoder.withLimit limit).decode w.handler.buffer
        decoded.outcome = .nothing ∨
          ∃ frame data, decoded.outcome = .event (.payload frame data) ∧
            frame.opcode.isData = true) := by
  intro start w t
  have pressed : Pressed w t := (Pressed.initial window manual callbacks).run inputs
  have mode : w.handler.manual = manual := start.run_manual inputs
  refine ⟨pressed.buffered, ?_, ?_⟩
  · intro reading
    refine ⟨pressed.reading reading, pressed.length_le reading, ?_⟩
    intro managed awaiting
    exact pressed.opened reading (mode.trans managed) awaiting
  · intro blocked
    obtain ⟨managed, awaiting, shut⟩ := pressed.blocked blocked
    refine ⟨mode.symm.trans managed, shut, Frame.Decoder.isAwaitingPayload_iff.mp awaiting, ?_⟩
    intro limit
    exact Frame.Decoder.decode_of_awaiting awaiting limit _

/-- A text of two octets uses up a window of one. The octets of the next frame are there too. -/
def midPayload : List Input :=
  [.turn, .turn, .read [0x81, 0x02, 0x68, 0x69, 0x89, 0x00], .turn, .turn, .turn, .turn,
    .turn, .turn]

theorem waits_mid_payload :
    let start := Worker.initial 1 true false
    let w := start.run midPayload
    w.handler.phase = .blocked ∧ w.handler.buffer = [0x69, 0x89, 0x00] ∧
      (start.latest .initial midPayload).window = some 0 ∧
      ∃ p, w.handler.decoder.pending = some p ∧ 0 < p.owed ∧ p.frame.opcode.isData = true := by
  obtain ⟨-, -, blocked⟩ := back_pressure 1 true false midPayload
  obtain ⟨-, shut, owing, -⟩ := blocked (by decide)
  exact ⟨by decide, by decide, shut, owing⟩

end WebSocketClient.Framing

import WebSocketClient.Proofs.Frame.Intake

/-! # Refused headers

A header can break three rules with its first two octets and four rules once it is whole. The first
rule that it breaks is the one that is reported. Two octets that are refused stay where they are, so
that they are refused for good, and a whole header that is refused is taken. -/
namespace WebSocketClient.Frame

structure Rule where
  broken : Bool
  report : Violation
deriving DecidableEq

def openingRules (first second : UInt8) : List Rule :=
  [⟨reservedBits first != 0, .reservedBits⟩,
    ⟨(OpCode.ofNat? (opcodeBits first)).isNone, .invalidOpCode (opcodeBits first)⟩,
    ⟨maskBit second, .masked⟩]

def headerRules (messageOpen : Bool) (frame : Header) : List Rule :=
  [⟨frame.opcode.isControl && !frame.fin, .controlFragmented⟩,
    ⟨frame.opcode.isControl && 125 < frame.length, .controlTooLarge⟩,
    ⟨frame.opcode == .continuation && !messageOpen, .continuationWithoutMessage⟩,
    ⟨(frame.opcode == .text || frame.opcode == .binary) && messageOpen, .messageInsideMessage⟩]

/-- How the first of the rules that are broken is reported. -/
def firstBreach (rules : List Rule) : Option Violation :=
  (rules.find? (·.broken)).map (·.report)

theorem exists_firstBreach {rules : List Rule} :
    (∃ cause, firstBreach rules = some cause) ↔ ∃ rule ∈ rules, rule.broken = true := by
  rw [← List.find?_isSome, Option.isSome_iff_exists]
  constructor
  · rintro ⟨cause, breach⟩
    obtain ⟨rule, found, -⟩ := Option.map_eq_some_iff.mp breach
    exact ⟨rule, found⟩
  · rintro ⟨rule, found⟩
    exact ⟨rule.report, by rw [firstBreach, found, Option.map_some]⟩

theorem openingFault_eq (first second : UInt8) :
    openingFault first second = firstBreach (openingRules first second) := by
  unfold openingFault firstBreach openingRules
  by_cases reserved : reservedBits first = 0
  · cases OpCode.ofNat? (opcodeBits first) with
    | none => simp [reserved]
    | some opcode => cases masked : maskBit second <;> simp [reserved]
  · simp [reserved]

theorem judge_eq_error {isOpen : Bool} {frame : Header} {cause : Violation} :
    judge isOpen frame = .error cause ↔ firstBreach (headerRules isOpen frame) = some cause := by
  unfold judge firstBreach headerRules
  rcases frame with ⟨opcode, fin, length⟩
  by_cases large : 125 < length <;> cases opcode <;> cases fin <;> cases isOpen <;>
    simp [OpCode.isControl, large]

/-- How a header at the front of a buffer is refused, and the octets that are left: by its first two
octets, which are not taken, or once it is whole, and then exactly the header is taken. -/
inductive Refused (messageOpen : Bool) : Bytes → Violation → Bytes → Prop
  | opening {first second tail cause}
      (breach : firstBreach (openingRules first second) = some cause) :
      Refused messageOpen (first :: second :: tail) cause (first :: second :: tail)
  | whole {first second extension frame cause rest} (spelled : Spelled first second extension frame)
      (breach : firstBreach (headerRules messageOpen frame) = some cause) :
      Refused messageOpen (first :: second :: (extension ++ rest)) cause rest

theorem readHeader_eq_refused {messageOpen : Bool} {buffer rest : Bytes} {cause : Violation} :
    readHeader messageOpen buffer = .refused cause rest ↔
      Refused messageOpen buffer cause rest := by
  constructor
  · intro h
    have shape := readHeader_case messageOpen buffer
    rw [h] at shape
    cases shape with
    | faulty fault => exact .opening ((openingFault_eq ..).symm.trans fault)
    | broken spelled judged => exact .whole spelled (judge_eq_error.mp judged)
  · intro h
    cases h with
    | opening breach =>
      rw [← openingFault_eq] at breach
      simp [readHeader, breach]
    | whole spelled breach =>
      rw [readHeader_of_spelled spelled, judge_eq_error.mpr breach]

/-- A decoding step fails exactly between frames and on a header that is refused, and changes
nothing but the buffer. -/
theorem Decoder.decode_eq_fault {d after : Decoder} {buffer rest : Bytes} {cause : Violation} :
    d.decode buffer = ⟨.fault cause, after, rest⟩ ↔
      d.pending = none ∧ after = d ∧ Refused d.messageOpen buffer cause rest := by
  rw [← readHeader_eq_refused]
  constructor
  · intro h
    have step := d.decodes buffer
    rw [h] at step
    cases step with
    | refuse idle header => exact ⟨idle, rfl, header⟩
  · rintro ⟨idle, rfl, header⟩
    simp only [decode, idle, header]

theorem Decoder.fails_iff {d : Decoder} {buffer : Bytes} (idle : d.pending = none) :
    (∃ cause, (d.decode buffer).outcome = .fault cause) ↔
      ∃ cause rest, Refused d.messageOpen buffer cause rest := by
  constructor
  · rintro ⟨cause, fails⟩
    have step : d.decode buffer =
        ⟨.fault cause, (d.decode buffer).decoder, (d.decode buffer).rest⟩ := by
      rw [← fails]
    exact ⟨cause, _, (decode_eq_fault.mp step).2.2⟩
  · rintro ⟨cause, rest, refused⟩
    refine ⟨cause, ?_⟩
    rw [decode_eq_fault.mpr ⟨idle, rfl, refused⟩]

/-- A header is refused exactly when its first two octets break a rule, or else it is whole and
breaks one. -/
theorem exists_refused {messageOpen : Bool} {first second : UInt8} {tail : Bytes} :
    (∃ cause rest, Refused messageOpen (first :: second :: tail) cause rest) ↔
      (∃ rule ∈ openingRules first second, rule.broken = true) ∨
      ∃ extension rest frame, tail = extension ++ rest ∧ Spelled first second extension frame ∧
        ∃ rule ∈ headerRules messageOpen frame, rule.broken = true := by
  constructor
  · rintro ⟨cause, rest, refused⟩
    cases refused with
    | opening breach => exact .inl (exists_firstBreach.mp ⟨cause, breach⟩)
    | whole spelled breach =>
      exact .inr ⟨_, rest, _, rfl, spelled, exists_firstBreach.mp ⟨cause, breach⟩⟩
  · rintro (broken | ⟨extension, rest, frame, rfl, spelled, broken⟩)
    · obtain ⟨cause, breach⟩ := exists_firstBreach.mpr broken
      exact ⟨cause, _, .opening breach⟩
    · obtain ⟨cause, breach⟩ := exists_firstBreach.mpr broken
      exact ⟨cause, rest, .whole spelled breach⟩

structure Stuck (s : Intake) (cause : Violation) : Prop where
  idle : s.decoder.pending = none
  opening : ∃ first second tail, s.buffer = first :: second :: tail ∧
    firstBreach (openingRules first second) = some cause

namespace Stuck

variable {s : Intake} {cause : Violation}

theorem decode_eq (h : Stuck s cause) :
    s.decoder.decode s.buffer = ⟨.fault cause, s.decoder, s.buffer⟩ := by
  obtain ⟨first, second, tail, front, breach⟩ := h.opening
  refine Decoder.decode_eq_fault.mpr ⟨h.idle, rfl, ?_⟩
  rw [front]
  exact .opening breach

/-- Neither more octets nor another limit nor another attempt gets an intake unstuck. -/
theorem next (h : Stuck s cause) (a : Action) : Stuck (s.next a) cause := by
  cases a with
  | feed chunk =>
    obtain ⟨first, second, tail, front, breach⟩ := h.opening
    refine ⟨h.idle, first, second, tail ++ chunk, ?_, breach⟩
    rw [Intake.next, front]
    rfl
  | limit size => exact ⟨h.idle, h.opening⟩
  | decode =>
    rw [Intake.next, h.decode_eq]
    exact h

theorem reports (h : Stuck s cause) (a : Action) :
    ∀ outcome ∈ s.reports a, outcome = .fault cause := by
  cases a with
  | feed | limit => simp [Intake.reports]
  | decode => simp [Intake.reports, Intake.outcome, h.decode_eq]

theorem next_keeps (h : Stuck s cause) (a : Action) :
    (s.next a).buffer = s.buffer ++ fed [a] ∧
      (s.next a).decoder.messageOpen = s.decoder.messageOpen := by
  cases a with
  | feed chunk => simp [Intake.next, fed]
  | limit size => simp [Intake.next, fed, Decoder.withLimit]
  | decode => simp [Intake.next, fed, h.decode_eq]

end Stuck

theorem fed_cons (a : Action) (actions : List Action) :
    fed (a :: actions) = fed [a] ++ fed actions := by
  cases a <;> simp [fed]

/-- Whatever happens to an intake that is stuck, all that it reports is the same error again. -/
theorem Stuck.run {s : Intake} {cause : Violation} (h : Stuck s cause) (actions : List Action) :
    (∀ outcome ∈ s.outcomes actions, outcome = .fault cause) ∧ Stuck (s.run actions) cause ∧
      (s.run actions).buffer = s.buffer ++ fed actions ∧
      (s.run actions).decoder.messageOpen = s.decoder.messageOpen := by
  induction actions generalizing s with
  | nil => simpa [Intake.outcomes, Intake.run, fed] using h
  | cons a rest ih =>
    obtain ⟨reported, stuck, buffer, messageOpen⟩ := ih (h.next a)
    obtain ⟨grown, kept⟩ := h.next_keeps a
    refine ⟨?_, stuck, ?_, messageOpen.trans kept⟩
    · intro outcome mem
      rcases List.mem_append.mp mem with now | later
      · exact h.reports a outcome now
      · exact reported outcome later
    · rw [fed_cons, ← List.append_assoc, ← grown]
      exact buffer

/-- Decoding fails between frames, on a header that breaks a rule, with the first that it breaks,
and nowhere else. It fails on the first two octets as soon as they are there, takes none of them,
and fails in the same way for good, whatever is appended and whatever limits are set. It fails on a
whole header after taking exactly the header. In no case does it change the decoder. -/
theorem refused_by_first_broken_rule :
    (∀ (d after : Decoder) (buffer rest : Bytes) (cause : Violation),
      d.decode buffer = ⟨.fault cause, after, rest⟩ ↔
        d.pending = none ∧ after = d ∧ Refused d.messageOpen buffer cause rest) ∧
    (∀ (d : Decoder) (first second : UInt8) (tail : Bytes), d.pending = none →
      ((∃ cause, (d.decode (first :: second :: tail)).outcome = .fault cause) ↔
        (∃ rule ∈ openingRules first second, rule.broken = true) ∨
        ∃ extension rest frame, tail = extension ++ rest ∧ Spelled first second extension frame ∧
          ∃ rule ∈ headerRules d.messageOpen frame, rule.broken = true)) ∧
    ∀ (s : Intake) (first second : UInt8) (tail : Bytes) (cause : Violation),
      s.decoder.pending = none → s.buffer = first :: second :: tail →
      firstBreach (openingRules first second) = some cause → ∀ actions : List Action,
        (∀ outcome ∈ s.outcomes actions, outcome = .fault cause) ∧
        (s.run actions).decoder.pending = none ∧
        (s.run actions).decoder.messageOpen = s.decoder.messageOpen ∧
        (s.run actions).buffer = s.buffer ++ fed actions := by
  refine ⟨?_, ?_, ?_⟩
  · intro d after buffer rest cause
    exact Decoder.decode_eq_fault
  · intro d first second tail idle
    rw [Decoder.fails_iff idle, exists_refused]
  · intro s first second tail cause idle front breach actions
    have stuck : Stuck s cause := ⟨idle, first, second, tail, front, breach⟩
    obtain ⟨reported, still, buffer, messageOpen⟩ := stuck.run actions
    exact ⟨reported, still.idle, messageOpen, buffer⟩

/-- An undefined opcode comes before the mask bit, and keeps being refused. A ping that is both a
fragment and too long is refused as a fragment, and taken. -/
theorem opcode_before_mask :
    let s : Intake := ⟨⟨none, true, 7⟩, [0x83, 0x80]⟩
    let actions : List Action := [.decode, .feed [0x01], .limit 0, .decode]
    firstBreach (openingRules 0x83 0x80) = some (.invalidOpCode 3) ∧
      s.outcomes actions = [.fault (.invalidOpCode 3), .fault (.invalidOpCode 3)] ∧
      (s.run actions).buffer = [0x83, 0x80, 0x01] ∧
      s.decoder.decode [0x09, 0x7e, 0x00, 0x7e, 0xff] =
        ⟨.fault .controlFragmented, s.decoder, [0xff]⟩ := by
  intro s actions
  obtain ⟨exact_, -, stays⟩ := refused_by_first_broken_rule
  obtain ⟨-, -, -, buffer⟩ :=
    stays s 0x83 0x80 [] (.invalidOpCode 3) rfl rfl (by decide) actions
  have spelled : Spelled 0x09 0x7e [0x00, 0x7e] ⟨.ping, false, 126⟩ :=
    ⟨by decide, by decide, by decide, by decide, by decide⟩
  refine ⟨by decide, by decide, buffer.trans rfl, ?_⟩
  exact (exact_ s.decoder s.decoder _ [0xff] .controlFragmented).mpr
    ⟨rfl, rfl, .whole spelled (by decide)⟩

end WebSocketClient.Frame

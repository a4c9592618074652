import WebSocketClient.Proofs.Frame.Intake

/-! # Frames on their way

A decoder may be fed in any pieces, have its limit changed at any time, and be asked to go on after
an error. All the same its events are those of one frame after the other, each with a beginning, the
payload that it announced, and a completion, and the frames that begin follow each other as the
rules for fragments and control frames want it. -/
namespace WebSocketClient.Frame

structure Passage where
  frame : Header
  passed : Nat
deriving DecidableEq

/-- `Frames events passage`: the events are those of frames that are complete, and then of the frame
on its way, if there is one. -/
inductive Frames : List Event → Option Passage → Prop
  | nil : Frames [] none
  | begin {events frame} (complete : Frames events none) :
      Frames (events ++ [.begin frame]) (some ⟨frame, 0⟩)
  | payload {events frame passed data} (begun : Frames events (some ⟨frame, passed⟩))
      (nonempty : data ≠ []) :
      Frames (events ++ [.payload frame data]) (some ⟨frame, passed + data.length⟩)
  | complete {events frame} (full : Frames events (some ⟨frame, frame.length⟩)) :
      Frames (events ++ [.complete frame]) none

/-- The decoder is in the middle of the frame on its way, and owes what has not been passed on. -/
def Decoder.Owes (d : Decoder) : Option Passage → Prop
  | none => d.pending = none
  | some p => ∃ owed, d.pending = some ⟨p.frame, owed⟩ ∧ p.passed + owed = p.frame.length

namespace Decoder.Owes

variable {d : Decoder} {passage : Option Passage}

theorem idle (h : d.Owes passage) (idle : d.pending = none) : passage = none := by
  cases passage with
  | none => rfl
  | some p =>
    obtain ⟨owed, pending, -⟩ := h
    rw [idle] at pending
    cases pending

theorem reading (h : d.Owes passage) {p : Pending} (reading : d.pending = some p) :
    ∃ passed, passage = some ⟨p.frame, passed⟩ ∧ passed + p.owed = p.frame.length := by
  cases passage with
  | none => rw [h] at reading; cases reading
  | some q =>
    obtain ⟨owed, pending, total⟩ := h
    rw [reading] at pending
    cases pending
    exact ⟨q.passed, rfl, total⟩

end Decoder.Owes

def Event.begun? : Event → Option Header
  | begin frame => some frame
  | payload _ _ | complete _ => none

def begun (events : List Event) : List Header := events.filterMap Event.begun?

theorem begun_concat (events : List Event) (event : Event) :
    begun (events ++ [event]) = begun events ++ event.begun?.toList := by
  rw [begun, List.filterMap_append, ← begun]
  cases event <;> rfl

/-- The last data frame is not the last of its message. -/
def leavesOpen (frames : List Header) : Bool :=
  match (frames.filter (·.opcode.isData)).getLast? with
  | some frame => !frame.fin
  | none => false

structure Lawful (before : List Header) (frame : Header) : Prop where
  countable : frame.length ≤ maxSize
  control_whole : frame.opcode.isControl = true → frame.fin = true ∧ frame.length ≤ 125
  continues : frame.opcode.isData = true →
    (frame.opcode = .continuation ↔ leavesOpen before = true)

theorem leavesOpen_concat (frames : List Header) (frame : Header) :
    leavesOpen (frames ++ [frame]) =
      if frame.opcode.isData then !frame.fin else leavesOpen frames := by
  by_cases isData : frame.opcode.isData = true
  · simp [leavesOpen, List.filter_append, isData]
  · simp [leavesOpen, List.filter_append, isData]

/-- Headers are judged by the fragments that came before. -/
theorem lawful_of_judge {before : List Header} {frame : Header} {after : Bool}
    (judged : judge (leavesOpen before) frame = .ok after) (countable : frame.length ≤ maxSize) :
    Lawful before frame ∧ after = leavesOpen (before ++ [frame]) := by
  rw [leavesOpen_concat]
  rcases judge_eq_ok.mp judged with
    ⟨control, fin, small, rfl⟩ | ⟨opcode, isOpen, rfl⟩ | ⟨opcode, isOpen, rfl⟩
  · have noData : frame.opcode.isData = false := by simp [OpCode.isData, control]
    refine ⟨⟨countable, fun _ => ⟨fin, small⟩, ?_⟩, by simp [noData]⟩
    intro isData
    rw [noData] at isData
    cases isData
  · refine ⟨⟨countable, ?_, ?_⟩, by simp [OpCode.isData, OpCode.isControl, opcode]⟩
    · intro control
      simp [OpCode.isControl, opcode] at control
    · intro _
      simp [opcode, isOpen]
  · refine ⟨⟨countable, ?_, ?_⟩, ?_⟩
    · intro control
      rcases opcode with opcode | opcode <;> simp [OpCode.isControl, opcode] at control
    · intro _
      rcases opcode with opcode | opcode <;> simp [opcode, isOpen]
    · rcases opcode with opcode | opcode <;> simp [OpCode.isData, OpCode.isControl, opcode]

/-- What a decoder knows of the events that it has reported. -/
structure Tracks (d : Decoder) (events : List Event) (passage : Option Passage) : Prop where
  frames : Frames events passage
  owes : d.Owes passage
  messageOpen_eq : d.messageOpen = leavesOpen (begun events)
  lawful : ∀ before frame after, begun events = before ++ frame :: after → Lawful before frame

namespace Tracks

variable {d : Decoder} {events : List Event} {passage : Option Passage}

theorem initial : Tracks .initial [] none where
  frames := .nil
  owes := rfl
  messageOpen_eq := rfl
  lawful := by
    intro before frame after split
    simp [begun] at split

theorem keep (h : Tracks d events passage) {e : Decoder} (pending : e.pending = d.pending)
    (messageOpen : e.messageOpen = d.messageOpen) : Tracks e events passage where
  frames := h.frames
  owes := by
    have owes := h.owes
    cases passage <;> simpa only [Decoder.Owes, pending] using owes
  messageOpen_eq := messageOpen.trans h.messageOpen_eq
  lawful := h.lawful

theorem begin (h : Tracks d events none) {frame : Header} {openAfter : Bool}
    (judged : judge d.messageOpen frame = .ok openAfter) (countable : frame.length ≤ maxSize) :
    Tracks { d with pending := some ⟨frame, frame.length⟩, messageOpen := openAfter }
      (events ++ [.begin frame]) (some ⟨frame, 0⟩) := by
  rw [h.messageOpen_eq] at judged
  obtain ⟨lawful, open_eq⟩ := lawful_of_judge judged countable
  have begun_eq : begun (events ++ [.begin frame]) = begun events ++ [frame] :=
    begun_concat events (.begin frame)
  refine ⟨.begin h.frames, ⟨frame.length, rfl, Nat.zero_add _⟩, ?_, ?_⟩
  · rw [begun_eq]
    exact open_eq
  · intro before f after split
    rw [begun_eq] at split
    -- The frame in question is the new one, or one of those before it.
    obtain rfl | ⟨rest, last, rfl⟩ := List.eq_nil_or_concat after
    · obtain ⟨rfl, rfl⟩ : begun events = before ∧ frame = f := by simpa using split
      exact lawful
    · have old : begun events = before ++ f :: rest := by
        simp only [List.concat_eq_append] at split
        rw [← List.cons_append, ← List.append_assoc] at split
        exact (List.append_inj' split rfl).1
      exact h.lawful before f rest old

/-- An event that begins no frame leaves the rules for those that have begun alone. -/
theorem goesOn (h : Tracks d events passage) {event : Event} (beginless : event.begun? = none)
    {e : Decoder} {later : Option Passage} (frames : Frames (events ++ [event]) later)
    (owes : e.Owes later) (messageOpen : e.messageOpen = d.messageOpen) :
    Tracks e (events ++ [event]) later := by
  have begun_eq : begun (events ++ [event]) = begun events := by
    rw [begun_concat, beginless]
    exact List.append_nil _
  refine ⟨frames, owes, ?_, ?_⟩
  · rw [begun_eq]
    exact messageOpen.trans h.messageOpen_eq
  · rw [begun_eq]
    exact h.lawful

theorem payload {frame : Header} {passed owed : Nat} (h : Tracks d events (some ⟨frame, passed⟩))
    (reading : d.pending = some ⟨frame, owed⟩) {data : Bytes} (nonempty : data ≠ [])
    (fits : data.length ≤ owed) :
    Tracks (d.pay ⟨frame, owed⟩ data.length) (events ++ [.payload frame data])
      (some ⟨frame, passed + data.length⟩) := by
  obtain ⟨rest, pending, total⟩ := h.owes
  rw [reading] at pending
  cases pending
  refine h.goesOn rfl (.payload h.frames nonempty) ⟨owed - data.length, rfl, ?_⟩ rfl
  dsimp only at total ⊢
  omega

theorem complete {frame : Header} (h : Tracks d events (some ⟨frame, frame.length⟩)) :
    Tracks { d with pending := none } (events ++ [.complete frame]) none :=
  h.goesOn rfl (.complete h.frames) rfl rfl

end Tracks

theorem readHeader_judged {messageOpen openAfter : Bool} {buffer rest : Bytes} {frame : Header}
    (h : readHeader messageOpen buffer = .read frame openAfter rest) :
    judge messageOpen frame = .ok openAfter := by
  have shape := readHeader_case messageOpen buffer
  rw [h] at shape
  cases shape with
  | whole _ judged => exact judged

namespace Tracks

/-- A decoding step reports what comes next of the frame on its way, or begins another. -/
theorem decode {s : Intake} {events : List Event} {passage : Option Passage}
    (h : Tracks s.decoder events passage) :
    ∃ later, Tracks (s.next .decode).decoder (events ++ s.outcome.event?.toList) later := by
  have step := s.decodes
  generalize s.outcome = outcome at step ⊢
  generalize s.next .decode = after at step ⊢
  obtain ⟨d, buffer⟩ := s
  obtain ⟨e, rest⟩ := after
  dsimp only at h step ⊢
  cases step with
  | short | refuse | starve => exact ⟨passage, by simpa [Outcome.event?] using h⟩
  | begin idle header =>
    obtain rfl := h.owes.idle idle
    exact ⟨_, h.begin (readHeader_judged header) (readHeader_read header).2⟩
  | complete paid =>
    obtain ⟨passed, rfl, total⟩ := h.owes.reading paid
    obtain rfl : passed = _ := total
    exact ⟨none, h.complete⟩
  | @deliver p data rest reading split nonempty taken =>
    obtain ⟨passed, rfl, -⟩ := h.owes.reading reading
    have fits : data.length ≤ p.owed := by
      rw [taken]
      exact Nat.le_trans (List.length_take_le ..) (d.allowance_le p)
    exact ⟨_, h.payload reading nonempty fits⟩

theorem next {s : Intake} {events : List Event} {passage : Option Passage}
    (h : Tracks s.decoder events passage) (a : Action) :
    ∃ later,
      Tracks (s.next a).decoder (events ++ (s.reports a).filterMap Outcome.event?) later := by
  cases a with
  | feed chunk =>
    rw [Intake.reports, List.filterMap_nil, List.append_nil]
    exact ⟨passage, h⟩
  | limit size =>
    rw [Intake.reports, List.filterMap_nil, List.append_nil]
    exact ⟨passage, h.keep rfl rfl⟩
  | decode =>
    rw [Intake.events_reported]
    exact h.decode

end Tracks

theorem tracks_run (actions : List Action) :
    ∃ passage,
      Tracks (Intake.initial.run actions).decoder (Intake.initial.events actions) passage := by
  induction actions using List.reverseRecOn with
  | nil => exact ⟨none, .initial⟩
  | append_singleton actions a ih =>
    obtain ⟨passage, tracks⟩ := ih
    rw [Intake.run_concat, Intake.events_concat]
    exact tracks.next a

structure Piece (s : Intake) (limit : Nat) (p : Passage) (data : Bytes) : Prop where
  nonempty : data ≠ []
  buffered : data <+: s.buffer
  owed : p.passed + data.length ≤ p.frame.length
  limited : p.frame.opcode.isData = true → data.length ≤ limit

section Steps

variable {s : Intake} {passage : Option Passage}

/-- A frame is complete exactly when all of its payload has been passed on. -/
theorem outcome_complete_iff (owes : s.decoder.Owes passage) {frame : Header} :
    s.outcome = .event (.complete frame) ↔ passage = some ⟨frame, frame.length⟩ := by
  constructor
  · intro reported
    obtain ⟨_, _, step⟩ := Intake.decodes_of_outcome reported
    cases step with
    | complete paid =>
      obtain ⟨passed, rfl, total⟩ := owes.reading paid
      obtain rfl : passed = _ := total
      rfl
  · rintro rfl
    obtain ⟨owed, pending, total⟩ := owes
    obtain rfl : owed = 0 := by
      dsimp only at total
      omega
    rw [Intake.outcome, Decoder.decode_complete pending]

/-- A piece of payload belongs to the frame on its way, and is no more than may be passed on. -/
theorem piece_of_outcome (owes : s.decoder.Owes passage) {frame : Header} {data : Bytes}
    (reported : s.outcome = .event (.payload frame data)) :
    ∃ p, passage = some p ∧ p.frame = frame ∧ Piece s s.decoder.limit p data := by
  obtain ⟨_, rest, step⟩ := Intake.decodes_of_outcome reported
  cases step with
  | @deliver p _ _ reading split nonempty taken =>
    obtain ⟨passed, rfl, total⟩ := owes.reading reading
    have length : data.length ≤ s.decoder.allowance p := by
      rw [taken]
      exact List.length_take_le ..
    refine ⟨_, rfl, rfl, nonempty, ⟨rest, split.symm⟩, ?_, ?_⟩
    · have := s.decoder.allowance_le p
      dsimp only
      omega
    · intro isData
      rw [Decoder.allowance_of_data isData] at length
      omega

/-- A limit does not hold up a control frame. -/
theorem outcome_of_control (owes : s.decoder.Owes passage) {p : Passage} (way : passage = some p)
    (control : p.frame.opcode.isControl = true) (limit : Nat) :
    (s.next (.limit limit)).outcome = s.outcome := by
  subst way
  obtain ⟨owed, pending, -⟩ := owes
  change ((s.decoder.withLimit limit).decode s.buffer).outcome =
    ((s.decoder.withLimit s.decoder.limit).decode s.buffer).outcome
  apply Decoder.decode_withLimit
  intro q reading
  obtain rfl := Option.some.inj (pending.symm.trans reading)
  have noData : p.frame.opcode.isData = false := by simp [OpCode.isData, control]
  rw [Decoder.allowance_of_control noData, Decoder.allowance_of_control noData]

/-- Payload is awaited exactly while a data frame is on its way that has not passed as a whole. -/
theorem awaiting_iff (owes : s.decoder.Owes passage) :
    s.decoder.isAwaitingPayload = true ↔
      ∃ p, passage = some p ∧ p.frame.opcode.isData = true ∧ p.passed < p.frame.length := by
  rw [Decoder.isAwaitingPayload_iff]
  constructor
  · rintro ⟨p, reading, owed, isData⟩
    obtain ⟨passed, rfl, total⟩ := owes.reading reading
    refine ⟨_, rfl, isData, ?_⟩
    dsimp only
    omega
  · rintro ⟨p, rfl, isData, few⟩
    obtain ⟨owed, pending, total⟩ := owes
    refine ⟨_, pending, ?_, isData⟩
    dsimp only
    omega

end Steps

/-- Whatever is fed to a new decoder, whatever limits are set, and wherever decoding goes on after
an error: its events are those of whole frames and then of at most one that is on its way, of which
the decoder owes exactly what has not been passed on. A frame is complete exactly when nothing is
owed of it. Pieces of payload are not empty, and no longer than what is buffered, what is owed, and,
for data frames, what the limit in force allows. No limit changes what is reported of a control
frame. Control frames are whole and short, and a data frame is a continuation exactly when the data
frame before it left its message open. Payload is awaited exactly while a data frame owes some. -/
theorem frames_pass_whole (actions : List Action) :
    let s := Intake.initial.run actions
    let events := Intake.initial.events actions
    ∃ passage, Frames events passage ∧ s.decoder.Owes passage ∧
      (∀ before frame after, begun events = before ++ frame :: after → Lawful before frame) ∧
      (∀ frame, s.outcome = .event (.complete frame) ↔ passage = some ⟨frame, frame.length⟩) ∧
      (∀ frame data, s.outcome = .event (.payload frame data) →
        ∃ p, passage = some p ∧ p.frame = frame ∧ Piece s (limitAfter actions) p data) ∧
      (∀ p limit, passage = some p → p.frame.opcode.isControl = true →
        (s.next (.limit limit)).outcome = s.outcome) ∧
      (s.decoder.isAwaitingPayload = true ↔
        ∃ p, passage = some p ∧ p.frame.opcode.isData = true ∧ p.passed < p.frame.length) := by
  intro s events
  obtain ⟨passage, tracks⟩ := tracks_run actions
  have owes := tracks.owes
  refine ⟨passage, tracks.frames, owes, tracks.lawful, ?_, ?_, ?_, awaiting_iff owes⟩
  · intro frame
    exact outcome_complete_iff owes
  · intro frame data reported
    rw [← Intake.run_limit]
    exact piece_of_outcome owes reported
  · intro p limit way control
    exact outcome_of_control owes way control limit

/-- A continuation of nothing is an error. A text is sent in two fragments, with a ping between
them, and the limit is one when the payload of the second is due. -/
def inFragments : List Action :=
  [.feed [0x80, 0x00, 0x01, 0x01, 0x68, 0x89, 0x00, 0x80, 0x02, 0x69, 0x6a],
    .decode, .decode, .decode, .decode, .decode, .decode, .decode, .limit 1]

theorem passes_in_fragments :
    let s := Intake.initial.run inFragments
    Lawful [⟨.text, false, 1⟩, ⟨.ping, true, 0⟩] ⟨.continuation, true, 2⟩ ∧
      s.outcome = .event (.payload ⟨.continuation, true, 2⟩ [0x69]) ∧
      ∃ p, p.frame = ⟨.continuation, true, 2⟩ ∧ Piece s 1 p [0x69] := by
  intro s
  obtain ⟨_, -, -, lawful, -, pieces, -⟩ := frames_pass_whole inFragments
  have reported : s.outcome = .event (.payload ⟨.continuation, true, 2⟩ [0x69]) := by decide
  obtain ⟨p, -, same, piece⟩ := pieces _ _ reported
  exact ⟨lawful _ _ [] (by decide), reported, p, same, piece⟩

end WebSocketClient.Frame

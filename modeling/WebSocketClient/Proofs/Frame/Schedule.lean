import WebSocketClient.Proofs.Frame.Decoding

/-! # Schedules of decoding

Octets come in chunks, and payload limits come and go. What a decoder reads in the end depends on
neither: every schedule comes to what decoding everything at once comes to, up to the pieces in
which the payload of a frame is passed on. -/
namespace WebSocketClient.Frame

inductive Action
  | feed (chunk : Bytes)
  | limit (size : Nat)
  | decode
deriving DecidableEq

def fed : List Action → Bytes
  | [] => []
  | .feed chunk :: rest => chunk ++ fed rest
  | .limit _ :: rest => fed rest
  | .decode :: rest => fed rest

namespace Decoder

/-- A schedule up to its first error. What is left then is the buffer and the chunks that are not
fed any more. -/
def play (d : Decoder) (buffer : Bytes) : List Action → Drained
  | [] => ⟨[], none, d, buffer⟩
  | .feed chunk :: rest => d.play (buffer ++ chunk) rest
  | .limit size :: rest => (d.withLimit size).play buffer rest
  | .decode :: rest =>
    match d.decode buffer with
    | ⟨.nothing, after, left⟩ => after.play left rest
    | ⟨.event event, after, left⟩ => (after.play left rest).after [event]
    | ⟨.fault cause, after, left⟩ => ⟨[], some cause, after, left ++ fed rest⟩

/-- A schedule, and then all that a last limit lets through. -/
def playOut (d : Decoder) (actions : List Action) (last : Nat) : Drained :=
  let r := d.play [] actions
  match r.fault with
  | some _ => r
  | none => ((r.decoder.withLimit last).drain r.rest).after r.events

end Decoder

/-- Puts an event in front, joined with the next if both pass on payload of one frame. -/
def join : Event → List Event → List Event
  | .payload frame data, .payload other more :: rest =>
    if frame = other then .payload frame (data ++ more) :: rest
    else .payload frame data :: .payload other more :: rest
  | event, rest => event :: rest

def joined (events : List Event) : List Event := events.foldr join []

/-- What a run comes to, whatever limit is in force at its end. -/
structure Summary where
  events : List Event
  fault : Option Violation
  rest : Bytes
  pending : Option Pending
  messageOpen : Bool
deriving DecidableEq

def Drained.summary (r : Drained) : Summary :=
  ⟨joined r.events, r.fault, r.rest, r.decoder.pending, r.decoder.messageOpen⟩

def Summary.after (events : List Event) (s : Summary) : Summary :=
  { s with events := events.foldr join s.events }

@[simp] theorem Drained.summary_after (events : List Event) (r : Drained) :
    (r.after events).summary = r.summary.after events := by
  simp [summary, after, Summary.after, joined, List.foldr_append]

@[simp] theorem Summary.after_after (first second : List Event) (s : Summary) :
    (s.after second).after first = s.after (first ++ second) := by
  simp [after, List.foldr_append]

theorem join_join (frame : Header) (data more : Bytes) (events : List Event) :
    join (.payload frame data) (join (.payload frame more) events) =
      join (.payload frame (data ++ more)) events := by
  rcases events with _ | ⟨event, rest⟩
  · simp [join]
  · cases event with
    | begin other => simp [join]
    | complete other => simp [join]
    | payload other last =>
      by_cases same : frame = other <;> simp [join, same]

def Decoder.Sized (d : Decoder) : Prop := ∀ p, d.pending = some p → p.owed ≤ maxSize

def Decoder.whole (d : Decoder) (octets : Bytes) : Summary :=
  ((d.withLimit maxSize).drain octets).summary

namespace Decoder

theorem whole_of_event {d after : Decoder} {octets rest : Bytes} {event : Event}
    (h : (d.withLimit maxSize).decode octets = ⟨.event event, after.withLimit maxSize, rest⟩) :
    d.whole octets = (after.whole rest).after [event] := by
  rw [whole, drain_of_event h, Drained.summary_after]
  rfl

theorem whole_deliver {d : Decoder} {p : Pending} (sized : d.Sized) (reading : d.pending = some p)
    {data : Bytes} (nonempty : data ≠ []) (fits : data.length ≤ p.owed) (rest : Bytes)
    (greedy : data.length = p.owed ∨ rest = []) :
    d.whole (data ++ rest) =
      ((d.pay p data.length).whole rest).after [.payload p.frame data] := by
  have allowed : (d.withLimit maxSize).allowance p = p.owed := allowance_of_le (sized p reading)
  have now : (d.withLimit maxSize).pending = some p := reading
  exact whole_of_event
    (decode_payload now nonempty (by rwa [allowed]) rest (by rwa [allowed]))

theorem pay_sized {d : Decoder} {p : Pending} (sized : d.Sized) (reading : d.pending = some p)
    (count : Nat) : (d.pay p count).Sized := by
  intro q paying
  obtain rfl : (⟨p.frame, p.owed - count⟩ : Pending) = q := by simpa [pay] using paying
  exact Nat.le_trans (Nat.sub_le ..) (sized p reading)

/-- Payload may be passed on in two steps instead of one. -/
theorem whole_payload {d : Decoder} {p : Pending} (sized : d.Sized) (reading : d.pending = some p)
    {data : Bytes} (nonempty : data ≠ []) (fits : data.length ≤ p.owed) (later : Bytes) :
    d.whole (data ++ later) =
      ((d.pay p data.length).whole later).after [.payload p.frame data] := by
  -- What follows is split where the frame ends, or not at all if the frame takes it all.
  obtain ⟨more, rest, rfl, few, greedy⟩ : ∃ more rest, later = more ++ rest ∧
      more.length ≤ p.owed - data.length ∧ (more.length = p.owed - data.length ∨ rest = []) := by
    refine ⟨later.take (p.owed - data.length), later.drop (p.owed - data.length),
      (List.take_append_drop ..).symm, List.length_take_le .., ?_⟩
    rw [List.length_take, List.drop_eq_nil_iff]
    omega
  have length : (data ++ more).length = data.length + more.length := List.length_append
  have once := whole_deliver sized reading (List.append_ne_nil_of_left_ne_nil nonempty more)
    (by omega) rest (greedy.imp (fun full => by omega) id)
  by_cases empty : more = []
  · subst empty
    simpa using once
  have twice := whole_deliver (pay_sized sized reading data.length) rfl empty few rest greedy
  have paid : (d.pay p data.length).pay ⟨p.frame, p.owed - data.length⟩ more.length =
      d.pay p (data ++ more).length := by
    simp [pay, Nat.sub_sub]
  rw [paid] at twice
  rw [← List.append_assoc, once, twice, Summary.after_after]
  simp [Summary.after, join_join]

end Decoder

/-- What a step comes to when more octets follow and no limit is in force any more. -/
def Decoded.whole (r : Decoded) (later : Bytes) : Summary :=
  match r.outcome with
  | .nothing => r.decoder.whole (r.rest ++ later)
  | .event event => (r.decoder.whole (r.rest ++ later)).after [event]
  | .fault cause => ⟨[], some cause, r.rest ++ later, r.decoder.pending, r.decoder.messageOpen⟩

namespace Decoder

/-- A step under any limit changes nothing in what all of the octets come to. -/
theorem whole_step {d : Decoder} (sized : d.Sized) (buffer later : Bytes) :
    (d.decode buffer).decoder.Sized ∧ (d.decode buffer).decoder.limit = d.limit ∧
      d.whole (buffer ++ later) = (d.decode buffer).whole later := by
  have step := d.decodes buffer
  generalize d.decode buffer = r at step ⊢
  cases step with
  | short | starve => exact ⟨sized, rfl, rfl⟩
  | @refuse cause left idle header =>
    have append := readHeader_append (by rw [header]; simp) later
    rw [header] at append
    have now : (d.withLimit maxSize).decode (buffer ++ later) =
        ⟨.fault cause, d.withLimit maxSize, left ++ later⟩ := by
      simp only [decode, withLimit, idle, append, HeaderRead.followedBy]
    refine ⟨sized, rfl, ?_⟩
    rw [whole, drain_of_fault now]
    rfl
  | begin idle header =>
    have append := readHeader_append (by rw [header]; simp) later
    rw [header] at append
    refine ⟨?_, rfl, whole_of_event ?_⟩
    · intro p reading
      obtain rfl : _ = p := Option.some.inj reading
      exact (readHeader_read header).2
    · simp only [decode, withLimit, idle, append, HeaderRead.followedBy]
  | complete paid =>
    refine ⟨?_, rfl, whole_of_event ?_⟩
    · intro p reading
      cases reading
    · have now : (d.withLimit maxSize).pending = some ⟨_, 0⟩ := paid
      exact decode_complete now _
  | deliver reading split nonempty taken =>
    refine ⟨pay_sized sized reading _, rfl, ?_⟩
    rw [split, List.append_assoc]
    refine whole_payload sized reading nonempty ?_ _
    rw [taken]
    exact Nat.le_trans (List.length_take_le ..) (d.allowance_le _)

def Dry (d : Decoder) (buffer : Bytes) : Prop :=
  (d.withLimit maxSize).decode buffer = ⟨.nothing, d.withLimit maxSize, buffer⟩

/-- A decoder that can decode nothing waits for octets, if it does not wait for window. -/
theorem dry_of_nothing {d after : Decoder} {limit : Nat} {buffer rest : Bytes}
    (h : (d.withLimit limit).decode buffer = ⟨.nothing, after, rest⟩)
    (room : d.isAwaitingPayload = true → limit ≠ 0) : d.Dry buffer := by
  have step := (d.withLimit limit).decodes buffer
  rw [h] at step
  cases step with
  | short idle header =>
    have idle : d.pending = none := idle
    have header : readHeader d.messageOpen buffer = .incomplete := header
    simp only [Dry, decode, withLimit, idle, header]
  | @starve p reading owes dry =>
    have reading : d.pending = some p := reading
    -- The frame is allowed some of what it owes, so it is the buffer that is empty.
    have empty : buffer = [] := by
      refine dry.resolve_left ?_
      cases isData : p.frame.opcode.isData with
      | false =>
        simp only [allowance, isData, Bool.false_eq_true, if_false]
        omega
      | true =>
        have positive : limit ≠ 0 := by
          apply room
          simp [isAwaitingPayload, reading, owes, isData]
        simp only [allowance, isData, if_true, withLimit]
        omega
    exact decode_starved (d := d.withLimit maxSize) reading (by omega) (.inr empty)

theorem whole_of_dry {d : Decoder} {buffer : Bytes} (dry : d.Dry buffer) :
    d.whole buffer = ⟨[], none, buffer, d.pending, d.messageOpen⟩ := by
  rw [whole, drain_of_nothing dry]
  rfl

/-- A positive limit does not keep a run of decoding steps from its end. -/
theorem drain_summary {d : Decoder} {buffer : Bytes} (positive : 0 < d.limit) (sized : d.Sized) :
    (d.drain buffer).summary = d.whole buffer := by
  induction d, buffer using drain_induction with
  | nothing d buffer after rest h =>
    obtain ⟨rfl, rfl⟩ := decode_nothing h
    have dry : after.Dry rest := dry_of_nothing (d := after) h fun _ => by omega
    rw [drain_of_nothing h, whole_of_dry dry]
    rfl
  | fault d buffer cause after rest h =>
    have step := (whole_step sized buffer []).2.2
    rw [List.append_nil, h] at step
    rw [drain_of_fault h, step]
    simp [Decoded.whole, Drained.summary, joined]
  | event d buffer event after rest h ih =>
    obtain ⟨stillSized, sameLimit, step⟩ := whole_step sized buffer []
    rw [h] at stillSized sameLimit
    rw [drain_of_event h, Drained.summary_after, ih (sameLimit ▸ positive) stillSized]
    simpa [h, Decoded.whole] using step.symm

/-- An error is never taken back by what follows. -/
theorem fault_stays {d : Decoder} {buffer : Bytes} {cause : Violation} (sized : d.Sized)
    (h : (d.drain buffer).fault = some cause) (later : Bytes) :
    (d.whole (buffer ++ later)).fault = some cause := by
  induction d, buffer using drain_induction with
  | nothing d buffer after rest step =>
    rw [drain_of_nothing step] at h
    cases h
  | fault d buffer other after rest step =>
    rw [drain_of_fault step] at h
    rw [(whole_step sized buffer later).2.2, step]
    exact h
  | event d buffer event after rest step ih =>
    obtain ⟨stillSized, -, whole⟩ := whole_step sized buffer later
    rw [step] at stillSized
    rw [drain_of_event step] at h
    rw [whole, step]
    exact ih stillSized h

end Decoder

def Drained.whole (r : Drained) : Summary :=
  match r.fault with
  | some _ => r.summary
  | none => (r.decoder.whole r.rest).after r.events

@[simp] theorem Drained.whole_after (events : List Event) (r : Drained) :
    (r.after events).whole = r.whole.after events := by
  rcases r with ⟨later, fault, d, rest⟩
  cases fault with
  | none => exact (Summary.after_after events later _).symm
  | some cause => exact Drained.summary_after events ⟨later, some cause, d, rest⟩

namespace Decoder

/-- A schedule leaves nothing out and takes nothing twice: what it has reported and what it has
left are what everything comes to. -/
theorem play_whole {d : Decoder} (sized : d.Sized) (buffer : Bytes) (actions : List Action) :
    (d.play buffer actions).decoder.Sized ∧
      (d.play buffer actions).whole = d.whole (buffer ++ fed actions) := by
  induction actions generalizing d buffer with
  | nil =>
    constructor
    · exact sized
    · simp [play, fed, Drained.whole, Summary.after]
  | cons action rest ih =>
    cases action with
    | feed chunk =>
      rw [show buffer ++ fed (.feed chunk :: rest) = (buffer ++ chunk) ++ fed rest by simp [fed]]
      exact ih sized (buffer ++ chunk)
    | limit size => exact ih (d := d.withLimit size) sized buffer
    | decode =>
      obtain ⟨stillSized, -, step⟩ := whole_step sized buffer (fed rest)
      rw [show fed (.decode :: rest) = fed rest from rfl, step]
      simp only [play]
      generalize d.decode buffer = r at stillSized ⊢
      rcases r with ⟨outcome, after, left⟩
      cases outcome with
      | nothing => exact ih stillSized left
      | fault cause => exact ⟨stillSized, rfl⟩
      | event event =>
        obtain ⟨lastSized, total⟩ := ih stillSized left
        constructor
        · exact lastSized
        · rw [Drained.whole_after, total]
          rfl

theorem initial_sized : initial.Sized := by
  intro p reading
  cases reading

/-- Decoding does not depend on how the octets are cut into chunks, on when steps are taken, or on
the limits in force: whatever the schedule, once a last limit lets everything through, the frames
and their payload, the error, the octets left, the frame in progress and the open message are those
of a new decoder that is fed everything at once. -/
theorem schedule_independent (actions : List Action) {last : Nat} (positive : 0 < last) :
    (initial.playOut actions last).summary = (initial.drain (fed actions)).summary := by
  obtain ⟨sized, total⟩ := play_whole initial_sized [] actions
  rw [drain_summary (by decide) initial_sized]
  rw [List.nil_append] at total
  rw [← total]
  simp only [playOut, Drained.whole]
  generalize initial.play [] actions = r at sized ⊢
  cases r.fault with
  | some cause => rfl
  | none =>
    have lastRun : ((r.decoder.withLimit last).drain r.rest).summary = r.decoder.whole r.rest :=
      drain_summary (d := r.decoder.withLimit last) positive sized
    rw [Drained.summary_after, lastRun]

/-- A text cut inside its header and its payload, with its payload held back for a while. -/
theorem held_back_text :
    0 < 1 ∧ (initial.playOut
      [.feed [0x81], .decode, .feed [0x02, 0x68], .decode, .limit 0, .decode, .decode,
        .limit 7, .decode, .feed [0x69, 0x89], .limit 0, .decode] 1).summary =
      ⟨[.begin ⟨.text, true, 2⟩, .payload ⟨.text, true, 2⟩ [0x68, 0x69],
        .complete ⟨.text, true, 2⟩], none, [0x89], none, false⟩ :=
  ⟨by decide, (schedule_independent
    [.feed [0x81], .decode, .feed [0x02, 0x68], .decode, .limit 0, .decode, .decode,
      .limit 7, .decode, .feed [0x69, 0x89], .limit 0, .decode] (by decide)).trans (by decide)⟩

end Decoder

end WebSocketClient.Frame

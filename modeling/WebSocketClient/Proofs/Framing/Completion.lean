import WebSocketClient.Proofs.Framing.Run

/-! # Frames as the callbacks see them

Every frame that begins is reported as over exactly once: as complete when all of its payload has
passed, and as interrupted when the handler fails before that. -/
namespace WebSocketClient.Framing

structure Delivery where
  frame : Frame.Header
  chunks : List Bytes
deriving DecidableEq

namespace Delivery

def received (d : Delivery) : Nat := d.chunks.flatten.length

def started (d : Delivery) : List Call :=
  .event (.begin d.frame) :: d.chunks.map fun chunk => .event (.payload d.frame chunk)

def calls (d : Delivery) : List Call := d.started ++ [.event (.complete d.frame)]

structure Sound (d : Delivery) : Prop where
  nonempty : ∀ chunk ∈ d.chunks, chunk ≠ []
  fits : d.received ≤ d.frame.length

structure Whole (d : Delivery) : Prop extends d.Sound where
  full : d.received = d.frame.length

def push (d : Delivery) (chunk : Bytes) : Delivery := ⟨d.frame, d.chunks ++ [chunk]⟩

@[simp] theorem push_frame (d : Delivery) (chunk : Bytes) : (d.push chunk).frame = d.frame := rfl

@[simp] theorem push_received (d : Delivery) (chunk : Bytes) :
    (d.push chunk).received = d.received + chunk.length := by
  simp [received, push]

@[simp] theorem push_started (d : Delivery) (chunk : Bytes) :
    (d.push chunk).started = d.started ++ [.event (.payload d.frame chunk)] := by
  simp [started, push]

theorem Sound.push {d : Delivery} (h : d.Sound) {chunk : Bytes} (nonempty : chunk ≠ [])
    (fits : d.received + chunk.length ≤ d.frame.length) : (d.push chunk).Sound := by
  constructor
  · intro other mem
    rcases List.mem_append.mp mem with old | new
    · exact h.nonempty other old
    · rwa [List.mem_singleton.mp new]
  · simpa using fits

end Delivery

/-- Where the callbacks stand after the frames that are whole. -/
inductive Standing
  | between
  | within (d : Delivery)
  | broken (d : Delivery) (error : Error)
deriving DecidableEq

namespace Standing

def calls : Standing → List Call
  | between => []
  | within d => d.started
  | broken d error => d.started ++ [.interrupted d.frame error]

def delivery? : Standing → Option Delivery
  | between => none
  | within d => some d
  | broken d _ => some d

def Sound (s : Standing) : Prop := ∀ d, s.delivery? = some d → d.Sound

/-- The decoder is in the middle of the same frame, and owes what the callbacks have not got. -/
def Owes (s : Standing) (pending : Option Frame.Pending) : Prop :=
  match s.delivery? with
  | none => pending = none
  | some d => ∃ owed, pending = some ⟨d.frame, owed⟩ ∧ d.received + owed = d.frame.length

theorem between_of_owes {s : Standing} (h : s.Owes none) : s = .between := by
  cases s with
  | between => rfl
  | within d | broken d =>
    obtain ⟨owed, pending, -⟩ := h
    cases pending

theorem within_of_owes {s : Standing} {p : Frame.Pending} (h : s.Owes (some p))
    (unbroken : ∀ d error, s ≠ .broken d error) :
    ∃ d, s = .within d ∧ p.frame = d.frame ∧ d.received + p.owed = d.frame.length := by
  cases s with
  | between => cases h
  | within d =>
    obtain ⟨owed, pending, total⟩ := h
    cases pending
    exact ⟨d, rfl, rfl, total⟩
  | broken d error => exact absurd rfl (unbroken d error)

def BrokenBy (s : Standing) (error : Error) : Prop :=
  (∃ d, s = .broken d error) ∧ ∀ cause, error ≠ .violation cause

def Suits (s : Standing) : Phase → Prop
  | .ready | .reading | .blocked => ∀ d error, s ≠ .broken d error
  | .calling (.complete _) => s = .between
  | .calling (.begin f) | .calling (.payload f _) => ∃ d, s = .within d ∧ d.frame = f
  | .interrupting error => s.BrokenBy error
  | .finished none => s = .between
  | .finished (some error) => s = .between ∨ s.BrokenBy error

end Standing

/-- What the callbacks were told: frames that are whole, and then where they stand. -/
structure History (told : List Call) (wholes : List Delivery) (s : Standing) : Prop where
  wholes_whole : ∀ d ∈ wholes, d.Whole
  told_eq : told = wholes.flatMap Delivery.calls ++ s.calls
  sound : s.Sound

namespace History

variable {told : List Call} {wholes : List Delivery} {d : Delivery}

theorem start : History [] [] .between := by
  constructor
  · intro d mem
    cases mem
  · rfl
  · intro d progress
    cases progress

theorem begin (h : History told wholes .between) (frame : Frame.Header) :
    History (told ++ [.event (.begin frame)]) wholes (.within ⟨frame, []⟩) := by
  constructor
  · exact h.wholes_whole
  · simp [h.told_eq, Standing.calls, Delivery.started]
  · intro d progress
    cases progress
    constructor
    · intro chunk mem
      cases mem
    · exact Nat.zero_le _

theorem payload (h : History told wholes (.within d)) {chunk : Bytes} (nonempty : chunk ≠ [])
    (fits : d.received + chunk.length ≤ d.frame.length) :
    History (told ++ [.event (.payload d.frame chunk)]) wholes (.within (d.push chunk)) := by
  constructor
  · exact h.wholes_whole
  · simp [h.told_eq, Standing.calls]
  · intro e progress
    cases progress
    exact (h.sound d rfl).push nonempty fits

theorem complete (h : History told wholes (.within d)) (full : d.received = d.frame.length) :
    History (told ++ [.event (.complete d.frame)]) (wholes ++ [d]) .between := by
  constructor
  · intro e mem
    rcases List.mem_append.mp mem with old | new
    · exact h.wholes_whole e old
    · rw [List.mem_singleton.mp new]
      exact ⟨h.sound d rfl, full⟩
  · simp [h.told_eq, Standing.calls, Delivery.calls]
  · intro e progress
    cases progress

theorem interrupt (h : History told wholes (.within d)) (error : Error) :
    History (told ++ [.interrupted d.frame error]) wholes (.broken d error) := by
  constructor
  · exact h.wholes_whole
  · simp [h.told_eq, Standing.calls]
  · exact h.sound

end History

structure Account (h : Handler) (told : List Call) (wholes : List Delivery) (s : Standing) : Prop
    extends History told wholes s where
  callbacks : h.callbacks = true
  owes : s.Owes h.decoder.pending
  suits : s.Suits h.phase

def Accounted (h : Handler) (told : List Call) : Prop := ∃ wholes s, Account h told wholes s

namespace Account

variable {h g : Handler} {told : List Call} {wholes : List Delivery} {s : Standing}

theorem keep (acc : Account h told wholes s) (callbacks : g.callbacks = h.callbacks)
    (pending : g.decoder.pending = h.decoder.pending) (suits : s.Suits g.phase) :
    Account g told wholes s where
  toHistory := acc.toHistory
  callbacks := callbacks.trans acc.callbacks
  owes := pending ▸ acc.owes
  suits := suits

theorem current (acc : Account h told wholes s) :
    h.decoder.current = s.delivery?.map (·.frame) := by
  have owes := acc.owes
  unfold Standing.Owes at owes
  cases progress : s.delivery? with
  | none =>
    rw [progress] at owes
    simp [Frame.Decoder.current, show h.decoder.pending = none from owes]
  | some d =>
    rw [progress] at owes
    obtain ⟨owed, pending, -⟩ := owes
    simp [Frame.Decoder.current, pending]

/-- A failure is told to the callbacks if they are in the middle of a frame, and only then. -/
theorem fail (acc : Account h told wholes s) (unbroken : ∀ d error, s ≠ .broken d error)
    {error : Error} (header : ∀ cause, error = .violation cause → h.decoder.pending = none) :
    Accounted (h.fail error).1 (told ++ (h.fail error).2) := by
  have current := acc.current
  cases s with
  | between =>
    rw [Handler.fail_of_idle current, List.append_nil]
    exact ⟨wholes, .between, acc.keep rfl rfl (.inl rfl)⟩
  | within d =>
    rw [Handler.fail_of_frame acc.callbacks current]
    have other : ∀ cause, error ≠ .violation cause := by
      intro cause same
      obtain ⟨owed, pending, -⟩ := acc.owes
      rw [header cause same] at pending
      cases pending
    exact ⟨wholes, .broken d error, acc.toHistory.interrupt error, acc.callbacks, acc.owes,
      ⟨d, rfl⟩, other⟩
  | broken d other => exact absurd rfl (unbroken d other)

end Account

namespace Handler

@[simp] theorem charge_decoder (h : Handler) (event : Frame.Event) :
    (h.charge event).decoder = h.decoder := by
  unfold charge
  split
  · split <;> rfl
  · rfl

@[simp] theorem charge_callbacks (h : Handler) (event : Frame.Event) :
    (h.charge event).callbacks = h.callbacks := by
  unfold charge
  split
  · split <;> rfl
  · rfl

theorem dispatch_of_callbacks {h : Handler} (callbacks : h.callbacks = true)
    (event : Frame.Event) :
    h.dispatch event = ({ h.charge event with phase := .calling event }, [.event event]) := by
  simp only [dispatch, charge_callbacks, callbacks, if_true]

end Handler

theorem dispatch_accounted {h : Handler} {event : Frame.Event} {told : List Call}
    {wholes : List Delivery} {s : Standing} (callbacks : h.callbacks = true)
    (history : History (told ++ [.event event]) wholes s) (owes : s.Owes h.decoder.pending)
    (suits : s.Suits (.calling event)) :
    Accounted (h.dispatch event).1 (told ++ (h.dispatch event).2) := by
  rw [Handler.dispatch_of_callbacks callbacks]
  refine ⟨wholes, s, history, ?_, ?_, suits⟩
  · simpa using callbacks
  · simpa using owes

/-- What one decoding step brings, the callbacks are told. -/
theorem turn_accounted {h : Handler} {told : List Call} {wholes : List Delivery} {s : Standing}
    (acc : Account h told wholes s) (unbroken : ∀ d error, s ≠ .broken d error) :
    Accounted h.turn.1 (told ++ h.turn.2) := by
  have step := (h.decoder.withLimit h.limit).decodes h.buffer
  generalize found : (h.decoder.withLimit h.limit).decode h.buffer = r at step
  have history := acc.toHistory
  have owes := acc.owes
  cases step with
  | short | starve =>
    rw [Handler.turn_of_nothing found, List.append_nil]
    refine ⟨wholes, s, acc.keep rfl rfl ?_⟩
    dsimp only
    split <;> exact unbroken
  | @refuse cause rest idle header =>
    rw [Handler.turn_of_fault found]
    have refused : Account { h with decoder := h.decoder.withLimit h.limit, buffer := rest }
        told wholes s := acc.keep rfl rfl acc.suits
    exact refused.fail unbroken fun _ _ => idle
  | @begin frame openAfter rest idle header =>
    rw [Handler.turn_of_event found]
    rw [show h.decoder.pending = none from idle] at owes
    obtain rfl := Standing.between_of_owes owes
    refine dispatch_accounted acc.callbacks (history.begin frame) ?_ ⟨_, rfl, rfl⟩
    exact ⟨frame.length, rfl, Nat.zero_add _⟩
  | @complete frame paid =>
    rw [Handler.turn_of_event found]
    rw [show h.decoder.pending = some ⟨frame, 0⟩ from paid] at owes
    obtain ⟨d, rfl, rfl, total⟩ := Standing.within_of_owes owes unbroken
    exact dispatch_accounted acc.callbacks (history.complete total) rfl rfl
  | @deliver p data rest reading split nonempty taken =>
    rw [Handler.turn_of_event found]
    rw [show h.decoder.pending = some p from reading] at owes
    obtain ⟨d, rfl, frame_eq, total⟩ := Standing.within_of_owes owes unbroken
    have fits : data.length ≤ p.owed := by
      rw [taken]
      exact Nat.le_trans (List.length_take_le ..) (Frame.Decoder.allowance_le ..)
    have told_of := history.payload nonempty (by omega)
    rw [← frame_eq] at told_of
    refine dispatch_accounted acc.callbacks told_of ⟨p.owed - data.length, ?_, ?_⟩
      ⟨_, rfl, frame_eq.symm⟩
    · simp [Frame.Decoder.pay, frame_eq]
    · rw [Delivery.push_received, Delivery.push_frame]
      omega

theorem Standing.unbroken_of_calling {s : Standing} {event : Frame.Event}
    (suits : s.Suits (.calling event)) : ∀ d error, s ≠ .broken d error := by
  rintro d error rfl
  cases event with
  | complete => cases suits
  | begin | payload =>
    obtain ⟨other, same, -⟩ := suits
    cases same

theorem Standing.suits_proceed {s : Standing} {event : Frame.Event}
    (suits : s.Suits (.calling event)) (h : Handler) : s.Suits (h.proceed event).phase := by
  cases event with
  | complete f =>
    have between : s = .between := suits
    dsimp only [Handler.proceed]
    split
    · exact between
    · exact unbroken_of_calling suits
  | begin | payload => exact unbroken_of_calling suits

theorem next_accounted {h : Handler} {told : List Call} (holds : Accounted h told) (i : Input) :
    Accounted (h.next i).1 (told ++ (h.next i).2) := by
  obtain ⟨wholes, s, acc⟩ := holds
  have suits := acc.suits
  have ignored : Accounted h (told ++ []) := ⟨wholes, s, by simpa using acc⟩
  cases i with
  | grant size =>
    rw [Handler.next, List.append_nil]
    exact ⟨wholes, s, acc.keep rfl rfl suits⟩
  | turn =>
    cases phase : h.phase with
    | ready =>
      rw [phase] at suits
      simp only [Handler.next, phase]
      exact turn_accounted acc suits
    | blocked =>
      rw [phase] at suits
      simp only [Handler.next, phase, List.append_nil]
      refine ⟨wholes, s, acc.keep rfl rfl ?_⟩
      dsimp only
      split <;> exact suits
    | _ => simpa only [Handler.next, phase] using ignored
  | read data =>
    cases phase : h.phase with
    | reading =>
      rw [phase] at suits
      simp only [Handler.next, phase]
      split
      · exact acc.fail suits fun cause same => by cases same
      · rw [List.append_nil]
        exact ⟨wholes, s, acc.keep rfl rfl suits⟩
    | _ => simpa only [Handler.next, phase] using ignored
  | readFailed kind =>
    cases phase : h.phase with
    | reading =>
      rw [phase] at suits
      simp only [Handler.next, phase]
      exact acc.fail suits fun cause same => by cases same
    | _ => simpa only [Handler.next, phase] using ignored
  | answer keep =>
    cases phase : h.phase with
    | calling event =>
      rw [phase] at suits
      simp only [Handler.next, phase]
      split
      · rw [List.append_nil]
        exact ⟨wholes, s, acc.keep rfl rfl (Standing.suits_proceed suits h)⟩
      · exact acc.fail (Standing.unbroken_of_calling suits) fun cause same => by cases same
    | interrupting error =>
      rw [phase] at suits
      simp only [Handler.next, phase, List.append_nil]
      exact ⟨wholes, s, acc.keep rfl rfl (.inr suits)⟩
    | _ => simpa only [Handler.next, phase] using ignored

theorem run_accounted (window : Nat) (manual : Bool) (inputs : List Input) :
    Accounted ((Handler.initial window manual true).run inputs)
      ((Handler.initial window manual true).calls inputs) := by
  refine Handler.run_induction Accounted ?_ (fun i holds => next_accounted holds i) inputs
  refine ⟨[], .between, History.start, rfl, rfl, ?_⟩
  intro d error same
  cases same

/-- How a handler ends once a callback has answered that the connection is to be given up. -/
def Handler.GivesUp (h : Handler) (event : Frame.Event) (later : List Input) : Prop :=
  match event with
  | .complete _ =>
    h.calls (.answer false :: later) = [] ∧
      (h.run (.answer false :: later)).result? = some (some .frameCallbackAborted)
  | .begin f | .payload f _ =>
    h.calls (.answer false :: later) = [.interrupted f .frameCallbackAborted] ∧
      (h.run (.answer false :: later)).result? =
        if later.any Input.isAnswer then some (some .frameCallbackAborted) else none

theorem Account.gives_up {h : Handler} {told : List Call} {wholes : List Delivery} {s : Standing}
    (acc : Account h told wholes s) {event : Frame.Event} (calling : h.phase = .calling event)
    (later : List Input) : h.GivesUp event later := by
  have suits := acc.suits
  have current := acc.current
  rw [calling] at suits
  have fails : h.next (.answer false) = h.fail .frameCallbackAborted := by
    simp [Handler.next, calling]
  cases event with
  | complete f =>
    obtain rfl : s = .between := suits
    rw [Handler.fail_of_idle current] at fails
    obtain ⟨phase, calls⟩ := Handler.finished_stays (h := (h.next (.answer false)).1)
      (by rw [fails]) later
    constructor
    · rw [Handler.calls, calls, fails]
      rfl
    · change ((h.next (.answer false)).1.run later).result? = _
      rw [Handler.result?, phase]
  | begin f | payload f data =>
    obtain ⟨d, rfl, rfl⟩ := suits
    rw [Handler.fail_of_frame acc.callbacks current] at fails
    obtain ⟨calls, result⟩ := Handler.interrupting_ends (h := (h.next (.answer false)).1)
      (by rw [fails]) later
    constructor
    · rw [Handler.calls, calls, fails]
      rfl
    · exact result

def Standing.Ends (s : Standing) (h : Handler) : Prop :=
  match h.result? with
  | none => ∀ d error, s = .broken d error → h.phase = .interrupting error
  | some none => s = .between
  | some (some error) => s = .between ∨ s.BrokenBy error

theorem Account.ends {h : Handler} {told : List Call} {wholes : List Delivery} {s : Standing}
    (acc : Account h told wholes s) : s.Ends h := by
  have suits := acc.suits
  unfold Standing.Ends Handler.result?
  cases phase : h.phase with
  | finished error =>
    rw [phase] at suits
    cases error <;> exact suits
  | interrupting error =>
    rw [phase] at suits
    obtain ⟨⟨d, rfl⟩, -⟩ := suits
    intro d other same
    cases same
    rfl
  | calling event =>
    rw [phase] at suits
    intro d error same
    exact absurd same (Standing.unbroken_of_calling suits d error)
  | ready | reading | blocked =>
    rw [phase] at suits
    intro d error same
    exact absurd same (suits d error)

/-- Whatever comes in and whatever the callbacks answer, they are told of whole frames, each with
its beginning, all of its payload in pieces that are not empty, and its completion. After these
comes at most one frame more: one that is in progress, or one that was interrupted by the very error
with which the handler ends. A handler that fails between frames reports none as interrupted. After
a callback has answered that the connection is to be given up, one call follows in the middle of a
frame, and none at its end. -/
theorem every_frame_completes (window : Nat) (manual : Bool) (inputs : List Input) :
    ∃ (wholes : List Delivery) (s : Standing), (∀ d ∈ wholes, d.Whole) ∧ s.Sound ∧
      (Handler.initial window manual true).calls inputs =
        wholes.flatMap Delivery.calls ++ s.calls ∧
      ((Handler.initial window manual true).run inputs).decoder.current =
        s.delivery?.map (·.frame) ∧
      s.Ends ((Handler.initial window manual true).run inputs) ∧
      ∀ event later, ((Handler.initial window manual true).run inputs).phase = .calling event →
        ((Handler.initial window manual true).run inputs).GivesUp event later := by
  obtain ⟨wholes, s, acc⟩ := run_accounted window manual inputs
  exact ⟨wholes, s, acc.wholes_whole, acc.sound, acc.told_eq, acc.current, acc.ends,
    fun _ later calling => acc.gives_up calling later⟩

/-- A callback gives up in the middle of a text. Then more window and more octets come. -/
theorem text_given_up :
    let h := (Handler.initial 1 true true).run
      [.turn, .read [0x81, 0x02, 0x68, 0x69], .turn, .answer true, .turn]
    h.phase = .calling (.payload ⟨.text, true, 2⟩ [0x68]) ∧
      h.calls [.answer false, .grant 4, .read [0x69], .answer true, .turn] =
        [.interrupted ⟨.text, true, 2⟩ .frameCallbackAborted] := by
  obtain ⟨_, _, _, _, _, _, _, abort⟩ := every_frame_completes 1 true
    [.turn, .read [0x81, 0x02, 0x68, 0x69], .turn, .answer true, .turn]
  exact ⟨by decide, (abort (.payload ⟨.text, true, 2⟩ [0x68])
    [.grant 4, .read [0x69], .answer true, .turn] (by decide)).1⟩

end WebSocketClient.Framing

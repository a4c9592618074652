import WebSocketClient.Proofs.Framing.PlainReading

/-! # Handlers without callbacks

A handler without callbacks does what one with callbacks does when every callback keeps the
connection. It is the same handler with its callbacks taken away: what callbacks answer are steps
that it need not take. -/
namespace WebSocketClient.Framing

namespace Phase

def isCalling : Phase → Bool
  | .calling _ | .interrupting _ => true
  | _ => false

def answered : Phase → Phase
  | .calling event => if event.isCloseComplete then .finished none else .ready
  | .interrupting error => .finished (some error)
  | phase => phase

theorem answered_of_idle {phase : Phase} (idle : phase.isCalling = false) :
    phase.answered = phase := by
  cases phase with
  | calling | interrupting => cases idle
  | _ => rfl

theorem answered_idle (phase : Phase) : phase.answered.isCalling = false := by
  cases phase with
  | calling event =>
    unfold answered
    dsimp only
    split <;> rfl
  | _ => rfl

end Phase

namespace Handler

def silenced (h : Handler) : Handler := { h with callbacks := false, phase := h.phase.answered }

theorem silenced_fail (h : Handler) (error : Error) :
    (h.fail error).1.silenced = ({ h with callbacks := false }.fail error).1 := by
  unfold fail Frame.Decoder.current
  cases h.decoder.pending <;> cases h.callbacks <;> rfl

theorem silenced_proceed (h : Handler) (event : Frame.Event) :
    (h.proceed event).silenced = { h with phase := .calling event }.silenced := by
  unfold proceed silenced Phase.answered
  by_cases close : event.isCloseComplete <;> simp [close]

theorem silenced_dispatch (h : Handler) (event : Frame.Event) :
    (h.dispatch event).1.silenced = ({ h with callbacks := false }.dispatch event).1 := by
  have spoken : (h.dispatch event).1.silenced =
      { h.charge event with phase := .calling event }.silenced := by
    unfold dispatch
    dsimp only
    split
    · rfl
    · exact silenced_proceed ..
  rw [spoken]
  unfold dispatch
  rw [charge_eq, charge_eq]
  unfold proceed silenced Phase.answered
  rfl

theorem silenced_turnWithin (h : Handler) (limit : Nat) :
    (h.turnWithin limit).1.silenced = ({ h with callbacks := false }.turnWithin limit).1 := by
  generalize step : (h.decoder.withLimit limit).decode h.buffer = r
  rcases r with ⟨outcome, after, rest⟩
  cases outcome with
  | event event =>
    have silent := turnWithin_of_event (h := { h with callbacks := false }) step
    rw [turnWithin_of_event step, silent, silenced_dispatch]
  | fault cause =>
    have silent := turnWithin_of_fault (h := { h with callbacks := false }) step
    rw [turnWithin_of_fault step, silent, silenced_fail]
  | nothing =>
    have silent := turnWithin_of_nothing (h := { h with callbacks := false }) step
    rw [turnWithin_of_nothing step, silent]
    unfold silenced
    dsimp only
    split <;> rfl

theorem silenced_of_idle {h : Handler} (idle : h.phase.isCalling = false) :
    h.silenced = { h with callbacks := false } := by
  rw [silenced, Phase.answered_of_idle idle]

theorem silenced_next {h : Handler} (idle : h.phase.isCalling = false) (i : Input) :
    (h.next i).1.silenced = (h.silenced.next i).1 := by
  have same := silenced_of_idle idle
  rw [same]
  cases i with
  | turn =>
    cases phase : h.phase with
    | ready =>
      simp only [next, phase, turn_eq_turnWithin, silenced_turnWithin]
      rfl
    | blocked =>
      simp only [next, phase, silenced]
      split <;> rfl
    | _ => simpa only [next, phase] using same
  | read data =>
    cases phase : h.phase with
    | reading =>
      simp only [next, phase]
      split
      · exact silenced_fail ..
      · rfl
    | _ => simpa only [next, phase] using same
  | readFailed kind =>
    cases phase : h.phase with
    | reading =>
      simp only [next, phase]
      exact silenced_fail ..
    | _ => simpa only [next, phase] using same
  | grant size =>
    rw [← same]
    rfl
  | answer keep =>
    cases phase : h.phase with
    | calling | interrupting =>
      rw [phase] at idle
      cases idle
    | _ => simpa only [next, phase] using same

end Handler

namespace Worker

def silenced (w : Worker) : Worker := ⟨w.handler.silenced, w.seen⟩

theorem silenced_next {w : Worker} (idle : w.handler.phase.isCalling = false) (i : Input) :
    (w.next i).1.silenced = (w.silenced.next i).1 := by
  obtain ⟨h, seen⟩ := w
  have same := Handler.silenced_of_idle idle
  cases seen with
  | some limit =>
    cases i with
    | turn => simp only [next, silenced, Handler.silenced_turnWithin, same]
    | _ => rfl
  | none =>
    have step := Handler.silenced_next idle i
    dsimp only at same step
    rw [same] at step
    simp only [next, silenced, same]
    by_cases looks : i = .turn ∧ h.phase = .ready
    · simp only [looks, and_self, if_true, same]
      rfl
    · simp only [looks, if_false, step]

end Worker

namespace Link

def silenced (l : Link) : Link := { l with worker := l.worker.silenced }

/-- The act means something to a handler without callbacks too. -/
def hears (l : Link) : Act → Bool
  | .grant _ => true
  | .answer => false
  | .turn | .arrive => !l.handler.phase.isCalling

theorem silenced_next_of_idle {l : Link} (idle : l.handler.phase.isCalling = false) (a : Act) :
    (l.next a).1.silenced = (l.silenced.next a).1 := by
  have phase : l.handler.phase.answered = l.handler.phase := Phase.answered_of_idle idle
  have reading : l.silenced.IsReading ↔ l.IsReading := by
    unfold IsReading
    rw [← phase]
    exact Iff.rfl
  have worker := Worker.silenced_next idle (l.input a)
  have input : l.silenced.input a = l.input a := by cases a <;> rfl
  simp only [next, input, reading]
  rw [silenced, worker]
  rfl

/-- A handler that waits for a callback takes no octets and makes no turn. -/
theorem Valid.busy {l : Link} (valid : l.Valid) (calling : l.handler.phase.isCalling = true)
    {a : Act} (own : a = .turn ∨ a = .arrive) : ¬ l.worker.Awaits (l.input a) := by
  rcases own with rfl | rfl
  · rintro (within | ready | ⟨blocked, -⟩)
    · rw [handler, valid.settled within] at calling
      cases calling
    · rw [handler, ready] at calling
      cases calling
    · rw [handler, blocked] at calling
      cases calling
  · rw [awaits_arrive]
    rintro ⟨-, reading⟩
    rw [reading] at calling
    cases calling

/-- What a callback answers is a step that a handler without callbacks has made already. -/
theorem silenced_answer {l : Link} : (l.next .answer).1.silenced = l.silenced := by
  have works := l.worker.works (.answer true)
  have stays : (l.next .answer).1 = { l with worker := (l.worker.next (.answer true)).1 } := by
    simp [next, input]
  rw [stays]
  generalize (l.worker.next (.answer true)).1 = after at works ⊢
  generalize (l.worker.next (.answer true)).2 = calls at works
  generalize l.worker.passes (.answer true) = event at works
  cases works with
  | ignore => rfl
  | @proceed event between calling =>
    have phase : (l.worker.handler.proceed event).silenced = l.worker.handler.silenced := by
      rw [Handler.silenced_proceed, ← calling]
    simp only [silenced, Worker.silenced, phase, between]
  | @finish error keep between interrupting =>
    have phase : l.worker.handler.phase.answered = .finished (some error) := by
      rw [interrupting]
      rfl
    simp only [silenced, Worker.silenced, Handler.silenced, phase, between]
    rfl

/-- A step of a link is one without callbacks too, or changes nothing there. -/
theorem silenced_next {l : Link} (valid : l.Valid) (a : Act) :
    (l.next a).1.silenced = if l.hears a then (l.silenced.next a).1 else l.silenced := by
  cases a with
  | grant size =>
    simp only [hears, if_true, next_grant]
    rfl
  | answer =>
    simp only [hears, Bool.false_eq_true, if_false]
    exact silenced_answer
  | turn =>
    cases calling : l.handler.phase.isCalling with
    | false => simp [hears, calling, silenced_next_of_idle]
    | true => simp [hears, calling, next_of_unawaited (valid.busy calling (.inl rfl))]
  | arrive =>
    cases calling : l.handler.phase.isCalling with
    | false => simp [hears, calling, silenced_next_of_idle]
    | true => simp [hears, calling, next_of_unawaited (valid.busy calling (.inr rfl))]

/-- What happens to a link besides its callbacks, however long they take. -/
def unattended (l : Link) : List Act → List Act
  | [] => []
  | a :: rest =>
    if l.hears a then a :: unattended (l.next a).1 rest else unattended (l.next a).1 rest

theorem silenced_run {l : Link} (valid : l.Valid) (acts : List Act) :
    (l.run acts).silenced = l.silenced.run (l.unattended acts) := by
  induction acts generalizing l with
  | nil => rfl
  | cons a rest ih =>
    have step := silenced_next valid a
    have later := ih (valid.next a)
    rw [unattended]
    split
    · rename_i heard
      rw [if_pos heard] at step
      rw [step] at later
      exact later
    · rename_i unheard
      rw [if_neg unheard] at step
      rw [step] at later
      exact later

def attended (acts : List Act) : List Act := acts.flatMap fun a => [a, .answer]

theorem Valid.awaits_answer {l : Link} (valid : l.Valid)
    (calling : l.handler.phase.isCalling = true) : l.worker.Awaits (.answer true) := by
  constructor
  · apply valid.between
    intro ready
    rw [ready] at calling
    cases calling
  · unfold handler at calling
    cases phase : l.worker.handler.phase with
    | calling event => exact .inl ⟨event, rfl⟩
    | interrupting error => exact .inr ⟨error, rfl⟩
    | _ =>
      rw [phase] at calling
      cases calling

theorem idle_of_answer {l : Link} (valid : l.Valid) :
    (l.next .answer).1.handler.phase.isCalling = false := by
  have goes := valid.goes .answer
  generalize (l.next .answer).1 = after at goes ⊢
  generalize (l.next .answer).2 = calls at goes
  cases goes with
  | answer works =>
    cases works with
    | ignore unawaited =>
      by_contra calling
      exact unawaited (valid.awaits_answer (by simpa using calling))
    | @proceed event => exact Phase.answered_idle (.calling event)
    | finish => rfl

theorem silenced_attended {l : Link} (valid : l.Valid)
    (idle : l.handler.phase.isCalling = false) (acts : List Act) :
    (l.run (attended acts)).silenced = l.silenced.run acts ∧
      (l.run (attended acts)).handler.phase.isCalling = false := by
  induction acts generalizing l with
  | nil => exact ⟨rfl, idle⟩
  | cons a rest ih =>
    have step : ((l.next a).1.next .answer).1.silenced = (l.silenced.next a).1 := by
      rw [silenced_answer, silenced_next_of_idle idle]
    have later := ih ((valid.next a).next .answer) (idle_of_answer (valid.next a))
    rw [step] at later
    exact later

end Link

end WebSocketClient.Framing

import WebSocketClient.Proofs.Connection.Moves

/-! # Where the request sender is

An exchange borrows the sender of requests and brings it back, unless the connection is upgraded and
needs it no more. The top of the loop serves the queue whenever the sender is there, so a task that
waits has nothing it could start. -/
namespace WebSocketClient.Connection

/-- The task has left its loop, or never got there. -/
def Control.isOver : Control → Bool
  | draining .. | shuttingDown | ended => true
  | _ => false

inductive Sender (s : State) : Prop
  | back (idle : s.idle = true) (free : s.job = none) (fresh : s.upgraded = false)
      (control : s.control = .dialling ∨ s.control = .settingUp ∨ s.control = .waiting)
  | lent (stream : StreamId) (stage : Stage) (away : s.idle = false)
      (held : s.job = some (.exchanging stream stage)) (fresh : s.upgraded = false)
      (control : s.control = .waiting ∨
        ∃ steps following, s.control = .delivering stream steps following)
  | spent (upgraded : s.upgraded = true)
      (unlent : ∀ stream stage, s.job ≠ some (.exchanging stream stage))
      (control : s.control = .waiting)
  | left (free : s.job = none) (control : s.control.isOver = true)

namespace Sender

variable {s t : State}

theorem congr (h : Sender s) (idle : t.idle = s.idle) (job : t.job = s.job)
    (upgraded : t.upgraded = s.upgraded) (control : t.control = s.control) : Sender t := by
  cases h with
  | back there free fresh stands =>
    exact .back (idle.trans there) (job.trans free) (upgraded.trans fresh) (control ▸ stands)
  | lent stream stage away held fresh stands =>
    exact .lent stream stage (idle.trans away) (job.trans held) (upgraded.trans fresh)
      (control ▸ stands)
  | spent done unlent stands =>
    exact .spent (upgraded.trans done) (job ▸ unlent) (control.trans stands)
  | left free stands => exact .left (job.trans free) (control ▸ stands)

/-- A stream is only told of an exchange that is under way. -/
theorem of_delivering (h : Sender s) {stream : StreamId} {steps : List Delivery}
    {following : Resume} (telling : s.control = .delivering stream steps following) :
    ∃ stage, s.job = some (.exchanging stream stage) ∧ s.idle = false ∧ s.upgraded = false := by
  cases h with
  | back _ _ _ control => simp [telling] at control
  | lent other stage away held fresh control =>
    simp only [telling, reduceCtorEq, Control.delivering.injEq, false_or] at control
    obtain ⟨_, _, rfl, _⟩ := control
    exact ⟨stage, held, away, fresh⟩
  | spent _ _ control => simp [telling] at control
  | left _ control => simp [telling, Control.isOver] at control

theorem of_exchanging (h : Sender s) {stream : StreamId} {stage : Stage}
    (held : s.job = some (.exchanging stream stage)) : s.idle = false ∧ s.upgraded = false := by
  cases h with
  | back _ free => simp [held] at free
  | lent _ _ away _ fresh => exact ⟨away, fresh⟩
  | spent _ unlent => exact absurd held (unlent stream stage)
  | left free => simp [held] at free

theorem of_dialling (h : Sender s) (dialling : s.control = .dialling) :
    s.idle = true ∧ s.job = none ∧ s.upgraded = false := by
  cases h with
  | back idle free fresh => exact ⟨idle, free, fresh⟩
  | lent _ _ _ _ _ control => simp [dialling] at control
  | spent _ _ control => simp [dialling] at control
  | left _ control => simp [dialling, Control.isOver] at control

theorem of_over (h : Sender s) (gone : s.control.isOver = true) : s.job = none := by
  cases h with
  | back _ free => exact free
  | lent _ _ _ _ _ control =>
    rcases control with control | ⟨_, _, control⟩ <;> simp [control, Control.isOver] at gone
  | spent _ _ control => simp [control, Control.isOver] at gone
  | left free => exact free

end Sender

theorem drain_over (s : State) (error : Option Error) (streams : List StreamId) :
    (drain s error streams).1.control.isOver = true ∧ (drain s error streams).1.job = s.job := by
  cases streams <;> exact ⟨rfl, rfl⟩

theorem Sender.move {s t : State} {requests : List StreamId} {told : List Effect} (h : Sender s)
    (move : Move s requests told t) : Sender t := by
  cases move with
  | refuses | accepts | closes | installs | receives | driverEnds => exact h.congr rfl rfl rfl rfl
  | fails error dialling => exact .left (h.of_dialling dialling).2.1 rfl
  | opens dialling =>
    obtain ⟨idle, free, fresh⟩ := h.of_dialling dialling
    exact .back idle free fresh (.inr (.inl rfl))
  | enters settingUp =>
    cases h with
    | back idle free fresh => exact .back idle free fresh (.inr (.inr rfl))
    | lent _ _ _ _ _ control => simp [settingUp] at control
    | spent _ _ control => simp [settingUp] at control
    | left _ control => simp [settingUp, Control.isOver] at control
  | starts stream rest waiting free fresh =>
    exact .lent stream .requested rfl rfl fresh (.inl waiting)
  | turns waiting held script =>
    obtain ⟨away, fresh⟩ := h.of_exchanging held
    exact .lent _ _ away held fresh (.inr ⟨_, _, rfl⟩)
  | switches stream waiting held =>
    obtain ⟨away, fresh⟩ := h.of_exchanging held
    exact .lent stream .upgrading away held fresh (.inr ⟨_, _, rfl⟩)
  | marks telling | calls telling =>
    obtain ⟨stage, held, away, fresh⟩ := h.of_delivering telling
    exact .lent _ stage away held fresh (.inr ⟨_, _, rfl⟩)
  | continues told =>
    obtain ⟨_, _, away, fresh⟩ := h.of_delivering told
    exact .lent _ _ away rfl fresh (.inl rfl)
  | returns told =>
    obtain ⟨_, _, _, fresh⟩ := h.of_delivering told
    exact .back rfl rfl fresh (.inr (.inr rfl))
  | runs handler told installed => exact .spent rfl (by simp) rfl
  | rests told empty => exact .spent rfl (by simp) rfl
  | leaves waiting exit => exact .left (drain_over _ _ _).2 (drain_over _ _ _).1
  | drains draining =>
    have free := h.of_over (by simp [draining, Control.isOver])
    exact .left ((drain_over _ _ _).2.trans free) (drain_over _ _ _).1
  | ends reported => exact .left (h.of_over (by simp [reported, Control.isOver])) rfl

theorem sender_run (events : List Event) : Sender (run initial events) :=
  run_keeps (fun s _ _ => Sender s) (.back rfl rfl rfl (.inl rfl))
    (fun move _ _ h => h.move move) events

def Passed (s : State) : Prop :=
  s.control = .waiting → s.job = none → s.upgraded = false →
    s.driverEnd = none ∧ (s.queue = [] ∨ s.idle = false)

section Passes

variable {s : State}

theorem passed_of_over (gone : s.control.isOver = true) : Passed s := by
  intro waiting
  simp [waiting, Control.isOver] at gone

theorem leave_passed (s : State) (error : Option Error) : Passed (leave s error).1 :=
  passed_of_over (drain_over _ _ _).1

theorem proceed_passed (s : State) : Passed (proceed s).1 := by
  unfold proceed
  split
  · split
    · exact leave_passed s _
    · rename_i driver
      split
      · split
        · intro _ free
          cases free
        · rename_i away
          exact fun _ _ _ => ⟨driver, .inr (by simpa using away)⟩
      · rename_i queue
        exact fun _ _ _ => ⟨driver, .inl queue⟩
  · rename_i busy
    intro _ free fresh
    exact absurd ⟨Option.isNone_iff_eq_none.mpr free, fresh⟩ busy

theorem resume_passed (s : State) (stream : StreamId) (following : Resume) :
    Passed (resume s stream following).1 := by
  cases following with
  | stage stage =>
    intro _ free
    cases free
  | exchanged upgraded =>
    cases upgraded with
    | false => exact proceed_passed _
    | true =>
      simp only [resume]
      split
      · exact proceed_passed _
      · exact proceed_passed _

theorem deliver_passed (s : State) (stream : StreamId) (following : Resume)
    (steps : List Delivery) : Passed (deliver s stream following steps).1 := by
  induction steps with
  | nil => exact resume_passed s stream following
  | cons step rest ih =>
    cases step with
    | status status => exact ih
    | callback callback =>
      intro waiting
      cases waiting

theorem job_passed (h : Passed s) (job : Job) (e : Event) : Passed (onJob s job e).1 := by
  cases job with
  | handling handler =>
    cases e with
    | handlerEnded error => exact leave_passed _ error
    | _ => exact h
  | exchanging stream stage =>
    cases e with
    | responded status headers hasBody =>
      cases stage with
      | requested => exact deliver_passed s stream _ _
      | _ => exact h
    | bodyArrived data =>
      cases stage with
      | readingBody => exact deliver_passed s stream _ _
      | _ => exact h
    | exchangeFailed error => exact deliver_passed s stream _ _
    | exchangeEnded =>
      cases stage with
      | requested => exact h
      | readingBody => exact deliver_passed s stream _ _
      | upgrading => exact deliver_passed _ stream _ _
    | _ => exact h

theorem returned_passed (h : Passed s) : Passed (onReturned s).1 := by
  unfold onReturned
  split
  · exact proceed_passed s
  · exact deliver_passed s _ _ _
  · exact passed_of_over (drain_over _ _ _).1
  · exact passed_of_over rfl
  · exact h

theorem receive_passed (h : Passed s) : Passed (onReceive s).1 := by
  unfold onReceive
  split
  · exact proceed_passed _
  · exact leave_passed _ _
  · exact h

/-- What the user does is nothing that the loop serves. -/
theorem user_passed (h : Passed s) (e : Event) : Passed (onUser s e).1 := by
  unfold onUser
  repeat' split
  all_goals exact h

theorem next_passed (h : Passed s) (e : Event) : Passed (next s e).1 := by
  cases e with
  | request | close | install => exact user_passed h _
  | returned => exact returned_passed h
  | dialFailed error =>
    simp only [next]
    split
    · exact passed_of_over rfl
    · exact h
  | dialled =>
    simp only [next]
    split
    · intro waiting
      cases waiting
    · exact h
  | receive =>
    simp only [next]
    split
    · exact receive_passed h
    · exact h
  | driverEnded error =>
    simp only [next]
    split
    · exact proceed_passed _
    · exact h
  | _ =>
    simp only [next]
    split
    · exact job_passed h _ _
    · exact h

end Passes

theorem passed_run (events : List Event) : Passed (run initial events) := by
  induction events using List.reverseRecOn with
  | nil =>
    intro waiting
    cases waiting
  | append_singleton events e ih =>
    rw [run_concat]
    exact next_passed ih e

/-- A task that waits without a job has the sender, unless the connection is upgraded, and then
its queue is empty. -/
theorem sender_of_idle {events : List Event} (waiting : (run initial events).control = .waiting)
    (free : (run initial events).job = none) (fresh : (run initial events).upgraded = false) :
    (run initial events).idle = true ∧ (run initial events).queue = [] := by
  have idle : (run initial events).idle = true := by
    cases sender_run events with
    | back idle => exact idle
    | lent stream stage away held => simp [held] at free
    | spent upgraded => simp [fresh] at upgraded
    | left _ control => simp [waiting, Control.isOver] at control
  obtain ⟨-, queue | away⟩ := passed_run events waiting free fresh
  · exact ⟨idle, queue⟩
  · rw [idle] at away
    cases away

end WebSocketClient.Connection

import WebSocketClient.Proofs.Framing.Run

/-! # Handlers at work

Window may be granted at any time, also in the middle of a turn: after the handler has read the
window, and before it takes payload off it. A worker is a handler whose turns are divided at this
point. A turn that nothing comes in between is a turn of the handler. -/
namespace WebSocketClient.Framing

structure Worker where
  handler : Handler
  /-- The limit of the turn that is under way. -/
  seen : Option Nat
deriving DecidableEq

namespace Worker

def initial (window : Nat) (manual callbacks : Bool) : Worker :=
  ⟨Handler.initial window manual callbacks, none⟩

/-- A turn takes two inputs: one to read the window, and one for the rest. -/
def next (w : Worker) (i : Input) : Worker × List Call :=
  match w.seen, i with
  | some limit, .turn => (⟨(w.handler.turnWithin limit).1, none⟩, (w.handler.turnWithin limit).2)
  | some limit, .grant size => (⟨w.handler.grant size, some limit⟩, [])
  | some _, _ => (w, [])
  | none, i =>
    if i = .turn ∧ w.handler.phase = .ready then (⟨w.handler, some w.handler.limit⟩, [])
    else (⟨(w.handler.next i).1, none⟩, (w.handler.next i).2)

def run (w : Worker) (inputs : List Input) : Worker := inputs.foldl (fun w i => (next w i).1) w

def calls (w : Worker) : List Input → List Call
  | [] => []
  | i :: rest => (next w i).2 ++ calls (next w i).1 rest

/-- The event that is passed on in answer to an input, whether or not there are callbacks. -/
def passes (w : Worker) (i : Input) : Option Frame.Event :=
  match w.seen, i with
  | some limit, .turn =>
    match ((w.handler.decoder.withLimit limit).decode w.handler.buffer).outcome with
    | .event event => some event
    | _ => none
  | _, _ => none

def passed (w : Worker) : List Input → List Frame.Event
  | [] => []
  | i :: rest => (w.passes i).toList ++ passed (next w i).1 rest

theorem run_concat (w : Worker) (inputs : List Input) (i : Input) :
    w.run (inputs ++ [i]) = ((w.run inputs).next i).1 := List.foldl_append

theorem passed_concat (w : Worker) (inputs : List Input) (i : Input) :
    w.passed (inputs ++ [i]) = w.passed inputs ++ ((w.run inputs).passes i).toList := by
  induction inputs generalizing w with
  | nil => simp [passed, run]
  | cons first rest ih =>
    rw [List.cons_append, passed, ih, passed, List.append_assoc]
    rfl

def Awaits (w : Worker) : Input → Prop
  | .grant _ => True
  | .turn => w.seen.isSome ∨ w.handler.phase = .ready ∨
      (w.handler.phase = .blocked ∧ w.handler.window ≠ 0)
  | .read _ | .readFailed _ => w.seen = none ∧ w.handler.phase = .reading
  | .answer _ => w.seen = none ∧
      ((∃ event, w.handler.phase = .calling event) ∨ ∃ error, w.handler.phase = .interrupting error)

end Worker

inductive Works (w : Worker) : Input → Worker → List Call → Option Frame.Event → Prop
  | ignore {i} (unawaited : ¬ w.Awaits i) : Works w i w [] none
  | widen {size} : Works w (.grant size) ⟨w.handler.grant size, w.seen⟩ [] none
  | look (ready : w.handler.phase = .ready) (between : w.seen = none) :
      Works w .turn ⟨w.handler, some w.handler.limit⟩ [] none
  | pass {limit event after rest} (within : w.seen = some limit)
      (step : (w.handler.decoder.withLimit limit).decode w.handler.buffer =
        ⟨.event event, after, rest⟩) :
      Works w .turn
        ⟨({ w.handler with decoder := after, buffer := rest }.dispatch event).1, none⟩
        ({ w.handler with decoder := after, buffer := rest }.dispatch event).2 (some event)
  | refuse {limit cause after rest} (within : w.seen = some limit)
      (step : (w.handler.decoder.withLimit limit).decode w.handler.buffer =
        ⟨.fault cause, after, rest⟩) :
      Works w .turn
        ⟨({ w.handler with decoder := after, buffer := rest }.fail (.violation cause)).1, none⟩
        ({ w.handler with decoder := after, buffer := rest }.fail (.violation cause)).2 none
  | starve {limit after rest} (within : w.seen = some limit)
      (step : (w.handler.decoder.withLimit limit).decode w.handler.buffer =
        ⟨.nothing, after, rest⟩) :
      Works w .turn
        ⟨{ w.handler with
            decoder := after
            buffer := rest
            phase := if after.isAwaitingPayload && limit == 0 then .blocked else .reading },
          none⟩ [] none
  | unblock (between : w.seen = none) (blocked : w.handler.phase = .blocked)
      (opened : w.handler.window ≠ 0) :
      Works w .turn ⟨{ w.handler with phase := .ready }, none⟩ [] none
  | fill {data} (between : w.seen = none) (reading : w.handler.phase = .reading)
      (nonempty : data ≠ []) :
      Works w (.read data)
        ⟨{ w.handler with buffer := w.handler.buffer ++ data, phase := .ready }, none⟩ [] none
  | close (between : w.seen = none) (reading : w.handler.phase = .reading) :
      Works w (.read []) ⟨(w.handler.fail .connectionClosed).1, none⟩
        (w.handler.fail .connectionClosed).2 none
  | lose {kind} (between : w.seen = none) (reading : w.handler.phase = .reading) :
      Works w (.readFailed kind) ⟨(w.handler.fail (.io kind)).1, none⟩
        (w.handler.fail (.io kind)).2 none
  | proceed {event} (between : w.seen = none) (calling : w.handler.phase = .calling event) :
      Works w (.answer true) ⟨w.handler.proceed event, none⟩ [] none
  | abort {event} (between : w.seen = none) (calling : w.handler.phase = .calling event) :
      Works w (.answer false) ⟨(w.handler.fail .frameCallbackAborted).1, none⟩
        (w.handler.fail .frameCallbackAborted).2 none
  | finish {error keep} (between : w.seen = none)
      (interrupting : w.handler.phase = .interrupting error) :
      Works w (.answer keep) ⟨{ w.handler with phase := .finished (some error) }, none⟩ [] none

namespace Worker

theorem works_within {w : Worker} {limit : Nat} (within : w.seen = some limit) (i : Input) :
    Works w i (w.next i).1 (w.next i).2 (w.passes i) := by
  cases i with
  | turn =>
    generalize step : (w.handler.decoder.withLimit limit).decode w.handler.buffer = r
    rcases r with ⟨outcome, after, rest⟩
    cases outcome with
    | event event =>
      simp only [next, passes, within, Handler.turnWithin_of_event step, step]
      exact .pass within step
    | fault cause =>
      simp only [next, passes, within, Handler.turnWithin_of_fault step, step]
      exact .refuse within step
    | nothing =>
      simp only [next, passes, within, Handler.turnWithin_of_nothing step, step]
      exact .starve within step
  | grant size =>
    have widened : Works w (.grant size) ⟨w.handler.grant size, w.seen⟩ [] none := .widen
    simpa only [next, passes, within] using widened
  | read | readFailed | answer =>
    simp only [next, passes, within]
    refine .ignore ?_
    simp [Awaits, within]

theorem works_between {w : Worker} (between : w.seen = none) (i : Input) :
    Works w i (w.next i).1 (w.next i).2 none := by
  obtain ⟨h, seen⟩ := w
  obtain rfl : seen = none := between
  cases i with
  | turn =>
    cases phase : h.phase with
    | ready =>
      simp only [next, phase, and_self, if_true]
      exact .look phase rfl
    | blocked =>
      simp only [next, phase, reduceCtorEq, and_false, if_false, Handler.next]
      split
      · rename_i shut
        rw [← phase]
        refine .ignore ?_
        simp [Awaits, phase, shut]
      · rename_i opened
        exact .unblock rfl phase opened
    | _ =>
      simp only [next, phase, reduceCtorEq, and_false, if_false, Handler.next]
      refine .ignore ?_
      simp [Awaits, phase]
  | grant size =>
    simp only [next, reduceCtorEq, false_and, if_false, Handler.next]
    exact .widen
  | read data =>
    cases phase : h.phase with
    | reading =>
      simp only [next, phase, reduceCtorEq, and_false, if_false, Handler.next]
      by_cases empty : data = []
      · rw [if_pos empty, empty]
        exact .close rfl phase
      · rw [if_neg empty]
        exact .fill rfl phase empty
    | _ =>
      simp only [next, phase, reduceCtorEq, false_and, if_false, Handler.next]
      refine .ignore ?_
      simp [Awaits, phase]
  | readFailed kind =>
    cases phase : h.phase with
    | reading =>
      simp only [next, phase, reduceCtorEq, and_false, if_false, Handler.next]
      exact .lose rfl phase
    | _ =>
      simp only [next, phase, reduceCtorEq, false_and, if_false, Handler.next]
      refine .ignore ?_
      simp [Awaits, phase]
  | answer keep =>
    cases phase : h.phase with
    | calling event =>
      simp only [next, phase, reduceCtorEq, and_false, if_false, Handler.next]
      cases keep with
      | true => exact .proceed rfl phase
      | false => exact .abort rfl phase
    | interrupting error =>
      simp only [next, phase, reduceCtorEq, and_false, if_false, Handler.next]
      exact .finish rfl phase
    | _ =>
      simp only [next, phase, reduceCtorEq, false_and, if_false, Handler.next]
      refine .ignore ?_
      simp [Awaits, phase]

theorem works (w : Worker) (i : Input) : Works w i (w.next i).1 (w.next i).2 (w.passes i) := by
  cases seen : w.seen with
  | none =>
    have silent : w.passes i = none := by simp [passes, seen]
    rw [silent]
    exact works_between seen i
  | some limit => exact works_within seen i

theorem next_grant (w : Worker) (size : Nat) :
    w.next (.grant size) = (⟨w.handler.grant size, w.seen⟩, []) := by
  cases seen : w.seen <;> simp [next, seen, Handler.next]

theorem next_of_unawaited {w : Worker} {i : Input} (unawaited : ¬ w.Awaits i) :
    w.next i = (w, []) := by
  have works := w.works i
  generalize w.passes i = event at works
  generalize w.next i = result at works ⊢
  rcases result with ⟨after, calls⟩
  cases works with
  | ignore => rfl
  | widen => exact absurd trivial unawaited
  | look ready => exact absurd (.inr (.inl ready)) unawaited
  | pass within | refuse within | starve within =>
    exact absurd (.inl (Option.isSome_of_eq_some within)) unawaited
  | unblock _ blocked opened => exact absurd (.inr (.inr ⟨blocked, opened⟩)) unawaited
  | fill between reading | close between reading | lose between reading =>
    exact absurd ⟨between, reading⟩ unawaited
  | proceed between calling | abort between calling =>
    exact absurd ⟨between, .inl ⟨_, calling⟩⟩ unawaited
  | finish between interrupting =>
    exact absurd ⟨between, .inr ⟨_, interrupting⟩⟩ unawaited

/-- A turn is under way only while the handler goes on by itself. -/
def Settled (w : Worker) : Prop := w.seen.isSome → w.handler.phase = .ready

theorem Settled.next {w : Worker} (h : w.Settled) (i : Input) : (w.next i).1.Settled := by
  have works := w.works i
  generalize (w.next i).1 = after at works ⊢
  generalize (w.next i).2 = calls at works
  generalize w.passes i = event at works
  cases works with
  | ignore => exact h
  | widen => exact h
  | look ready =>
    intro _
    exact ready
  | _ =>
    intro seen
    cases seen

/-- The inputs that make a worker do what an input makes its handler do. -/
def divided (h : Handler) : Input → List Input
  | .turn => if h.phase = .ready then [.turn, .turn] else [.turn]
  | i => [i]

theorem run_divided (h : Handler) (i : Input) :
    (⟨h, none⟩ : Worker).run (divided h i) = ⟨(h.next i).1, none⟩ ∧
      (⟨h, none⟩ : Worker).calls (divided h i) = (h.next i).2 := by
  cases i with
  | turn =>
    by_cases ready : h.phase = .ready
    · simp [divided, ready, run, calls, next, Handler.next, Handler.turn_eq_turnWithin]
    · simp [divided, ready, run, calls, next]
  | _ => simp [divided, run, calls, next]

theorem calls_append (w : Worker) (first rest : List Input) :
    w.calls (first ++ rest) = w.calls first ++ (w.run first).calls rest := by
  induction first generalizing w with
  | nil => rfl
  | cons i first ih =>
    rw [List.cons_append, calls, ih, calls, List.append_assoc]
    rfl

/-- Every run of a handler is one of a worker that nothing disturbs in a turn. -/
theorem exists_run_of_handler (h : Handler) (inputs : List Input) :
    ∃ moves, (⟨h, none⟩ : Worker).run moves = ⟨h.run inputs, none⟩ ∧
      (⟨h, none⟩ : Worker).calls moves = h.calls inputs := by
  induction inputs generalizing h with
  | nil => exact ⟨[], rfl, rfl⟩
  | cons i rest ih =>
    obtain ⟨moves, run_eq, calls_eq⟩ := ih (h.next i).1
    obtain ⟨here, told⟩ := run_divided h i
    refine ⟨divided h i ++ moves, ?_, ?_⟩
    · rw [run, List.foldl_append, ← run, ← run, here, run_eq]
      rfl
    · rw [calls_append, told, here, calls_eq]
      rfl

end Worker

end WebSocketClient.Framing

import Mathlib.Data.List.Induction
import WebSocketClient.Connection.Task
import WebSocketClient.Proofs.Connection.Settling

/-! # Moves of the connection task

Events happen one at a time, and what the task and the user are told grows with every event. An
event is a few moves in a row. Each has one guard and changes few fields, so what every move keeps
holds after every run. Between two moves of one event the task counts as waiting. -/
namespace WebSocketClient.Connection

theorem run_append (s : State) (first rest : List Event) :
    run s (first ++ rest) = run (run s first) rest := List.foldl_append

theorem effects_append (s : State) (first rest : List Event) :
    effects s (first ++ rest) = effects s first ++ effects (run s first) rest := by
  induction first generalizing s with
  | nil => rfl
  | cons e first ih => simp only [List.cons_append, effects, ih, List.append_assoc]; rfl

theorem run_concat (s : State) (events : List Event) (e : Event) :
    run s (events ++ [e]) = (next (run s events) e).1 := run_append s events [e]

theorem effects_concat (s : State) (events : List Event) (e : Event) :
    effects s (events ++ [e]) = effects s events ++ (next (run s events) e).2 := by
  simp [effects_append, effects]

def Effect.isRefusal : Effect → Bool
  | refused .. | notInstalled .. => true
  | _ => false

/-- What ignores refusals finds nothing in them. -/
theorem filterMap_refusals {α : Type} {f : Effect → Option α}
    (refused : ∀ stream error, f (.refused stream error) = none)
    (notInstalled : ∀ handler error, f (.notInstalled handler error) = none) {told : List Effect}
    (refusals : ∀ effect ∈ told, effect.isRefusal = true) : told.filterMap f = [] := by
  refine List.filterMap_eq_nil_iff.mpr fun effect mem => ?_
  have refusal := refusals effect mem
  cases effect with
  | refused stream error => exact refused stream error
  | notInstalled handler error => exact notInstalled handler error
  | _ => cases refusal

/-- What an exchange tells its stream at once, and what follows when it has been told. -/
inductive Script : Stage → List Delivery → Resume → Prop
  | response (status : Status) (headers : List Header) (hasBody : Bool) :
      Script .requested (head status headers hasBody)
        (.stage (if status = .switchingProtocols then .upgrading else .readingBody))
  | body (data : Bytes) :
      Script .readingBody [.callback (.body data)] (.stage .readingBody)
  | failure (stage : Stage) (error : Error) :
      Script stage [.callback (.complete (some error))] (.exchanged false)
  | success : Script .readingBody [.callback (.complete none)] (.exchanged false)

/-- Why a task leaves its loop, with the commands that it leaves unread. -/
inductive Exit (s : State) : List Command → Option Error → Prop
  | closed (error : Option Error) (rest : List Command)
      (channel : s.commands = .close error :: rest) : Exit s rest error
  | driverEnded (error : Option Error) (free : s.job = none) (fresh : s.upgraded = false)
      (driver : s.driverEnd = some error) : Exit s s.commands error
  | handlerEnded (handler : HandlerId) (error : Option Error)
      (held : s.job = some (.handling handler)) : Exit s s.commands error

/-- One move, with the requests that it receives and what it brings about. -/
inductive Move (s : State) : List StreamId → List Effect → State → Prop
  | refuses {told : List Effect} (refusals : ∀ effect ∈ told, effect.isRefusal = true) :
      Move s [] told s
  | accepts (stream : StreamId) (isOpen : s.isOpen = true) :
      Move s [] [.accepted stream] { s with commands := s.commands ++ [.request stream] }
  | closes (commands : List Command) (isOpen : s.isOpen = true) :
      Move s [] [] { s with isOpen := false, commands }
  | installs (handler : HandlerId) (isOpen : s.isOpen = true) (empty : s.slot = none) :
      Move s [] [.installed handler] { s with slot := some handler }
  | fails (error : Error) (dialling : s.control = .dialling) :
      Move s [] [.setup (some error)] { s with control := .ended }
  | opens (dialling : s.control = .dialling) :
      Move s [] [.setup none]
        { s with isOpen := true, receiving := true, control := .settingUp }
  | enters (settingUp : s.control = .settingUp) : Move s [] [] { s with control := .waiting }
  | receives (stream : StreamId) (rest : List Command) (waiting : s.control = .waiting)
      (channel : s.commands = .request stream :: rest) :
      Move s [stream] [] { s with commands := rest, queue := s.queue ++ [stream] }
  | driverEnds (error : Option Error) (waiting : s.control = .waiting) :
      Move s [] [] { s with driverEnd := some error }
  | starts (stream : StreamId) (rest : List StreamId) (waiting : s.control = .waiting)
      (free : s.job = none) (fresh : s.upgraded = false) (idle : s.idle = true)
      (queue : s.queue = stream :: rest) :
      Move s [] [.exchange stream]
        { s with queue := rest, idle := false, job := some (.exchanging stream .requested) }
  | turns {stream : StreamId} {stage : Stage} {steps : List Delivery} {following : Resume}
      (waiting : s.control = .waiting) (held : s.job = some (.exchanging stream stage))
      (script : Script stage steps following) :
      Move s [] [] { s with control := .delivering stream steps following }
  | switches (stream : StreamId) (waiting : s.control = .waiting)
      (held : s.job = some (.exchanging stream .upgrading)) :
      Move s [] []
        { s with
          hasChannel := true
          control := .delivering stream [.callback (.complete none)] (.exchanged true) }
  | marks {stream : StreamId} {status : Status} {rest : List Delivery} {following : Resume}
      (telling : s.control = .delivering stream (.status status :: rest) following) :
      Move s [] [.status stream status] { s with control := .delivering stream rest following }
  | calls {stream : StreamId} {callback : Stream.Callback} {rest : List Delivery}
      {following : Resume}
      (telling : s.control = .delivering stream (.callback callback :: rest) following) :
      Move s [] [.callback stream callback]
        { s with control := .delivering stream rest following }
  | continues {stream : StreamId} {stage : Stage}
      (told : s.control = .delivering stream [] (.stage stage)) :
      Move s [] [] { s with job := some (.exchanging stream stage), control := .waiting }
  | returns {stream : StreamId} (told : s.control = .delivering stream [] (.exchanged false)) :
      Move s [] [] { s with job := none, idle := true, control := .waiting }
  | runs {stream : StreamId} (handler : HandlerId)
      (told : s.control = .delivering stream [] (.exchanged true))
      (installed : s.slot = some handler) :
      Move s [] [.run handler]
        { s with
          job := some (.handling handler)
          upgraded := true
          slot := none
          control := .waiting }
  | rests {stream : StreamId} (told : s.control = .delivering stream [] (.exchanged true))
      (empty : s.slot = none) :
      Move s [] [] { s with job := none, upgraded := true, control := .waiting }
  | leaves {commands : List Command} {error : Option Error} (waiting : s.control = .waiting)
      (exit : Exit s commands error) :
      Move s [] (leave { s with commands } error).2 (leave { s with commands } error).1
  | drains {error : Option Error} {streams : List StreamId}
      (draining : s.control = .draining error streams) :
      Move s [] (drain s error streams).2 (drain s error streams).1
  | ends (reported : s.control = .shuttingDown) : Move s [] [] { s with control := .ended }

inductive Path : State → List StreamId → List Effect → State → Prop
  | nil (s : State) : Path s [] [] s
  | cons {s t u : State} {taken later : List StreamId} {told more : List Effect}
      (move : Move s taken told t) (path : Path t later more u) :
      Path s (taken ++ later) (told ++ more) u

def taken (s : State) : Event → List StreamId
  | .receive =>
    if s.control = .waiting then (s.commands.head?.bind Command.stream?).toList else []
  | _ => []

def received (s : State) : List Event → List StreamId
  | [] => []
  | e :: rest => taken s e ++ received (next s e).1 rest

section Paths

variable {s t : State} {told : List Effect}

theorem Move.path {requests : List StreamId} (move : Move s requests told t) :
    Path s requests told t := by
  simpa using Path.cons move (.nil t)

/-- A move without an answer, and what comes after it. -/
theorem Move.then {r : State} {requests more : List StreamId} (move : Move s requests [] r)
    (path : Path r more told t) : Path s (requests ++ more) told t := .cons move path

theorem leave_control (s : State) (control : Control) (error : Option Error) :
    leave { s with control } error = leave s error := by
  unfold leave inFlight
  generalize _ ++ s.queue = streams
  cases streams <;> rfl

/-- The loop is entered from wherever its top is reached. -/
theorem proceed_control (s : State) (control : Control) :
    proceed { s with control } = proceed s := by
  simp only [proceed, leave_control]

/-- One pass of the top of the loop. -/
theorem proceed_path (waiting : s.control = .waiting) :
    Path s [] (proceed s).2 (proceed s).1 := by
  have stays : { s with control := .waiting } = s := by rw [← waiting]
  unfold proceed
  split
  · rename_i done
    obtain ⟨free, fresh⟩ := done
    have free : s.job = none := Option.isNone_iff_eq_none.mp free
    split
    · rename_i error driver
      exact (Move.leaves waiting (.driverEnded error free fresh driver)).path
    · split
      · rename_i stream rest queue
        split
        · rename_i idle
          have started := (Move.starts stream rest waiting free fresh idle queue).path
          rwa [← waiting]
        · rw [stays]
          exact .nil s
      · rw [stays]
        exact .nil s
  · rw [stays]
    exact .nil s

/-- A move to the top of the loop, and one pass of it. -/
theorem Move.proceed {requests : List StreamId} (r : State)
    (move : Move s requests told { r with control := .waiting }) :
    Path s requests (told ++ (proceed r).2) (proceed r).1 := by
  rw [← proceed_control r .waiting]
  simpa using Path.cons move (proceed_path rfl)

theorem resume_path {stream : StreamId} {following : Resume}
    (told : s.control = .delivering stream [] following) :
    Path s [] (resume s stream following).2 (resume s stream following).1 := by
  cases following with
  | stage stage => exact (Move.continues told).path
  | exchanged upgraded =>
    cases upgraded with
    | false => exact (Move.returns told).proceed { s with job := none, idle := true }
    | true =>
      simp only [resume]
      split
      · rename_i handler installed
        exact (Move.runs handler told installed).proceed
          { s with job := some (.handling handler), upgraded := true, slot := none }
      · rename_i empty
        exact (Move.rests told empty).proceed { s with job := none, upgraded := true }

theorem resume_control (s : State) (control : Control) (stream : StreamId)
    (following : Resume) :
    resume { s with control } stream following = resume s stream following := by
  cases following with
  | stage stage => rfl
  | exchanged upgraded =>
    cases upgraded with
    | false => exact proceed_control { s with job := none, idle := true } control
    | true =>
      simp only [resume]
      split
      · rename_i handler _
        rw [proceed_control
          { s with job := some (.handling handler), upgraded := true, slot := none } control]
      · exact proceed_control { s with job := none, upgraded := true } control

/-- A stream is told step by step, and then the task goes on. -/
theorem deliver_path (s : State) (stream : StreamId) (following : Resume)
    (steps : List Delivery) :
    Path { s with control := .delivering stream steps following } []
      (deliver s stream following steps).2 (deliver s stream following steps).1 := by
  induction steps with
  | nil =>
    rw [deliver, ← resume_control s (.delivering stream [] following)]
    exact resume_path rfl
  | cons step rest ih =>
    cases step with
    | status status => exact .cons (.marks rfl) ih
    | callback callback => exact (Move.calls rfl).path

/-- What a job has its stream told, with all that follows before the task waits again. -/
theorem Script.path {stream : StreamId} {stage : Stage} {steps : List Delivery}
    {following : Resume} (script : Script stage steps following) (waiting : s.control = .waiting)
    (held : s.job = some (.exchanging stream stage)) :
    Path s [] (deliver s stream following steps).2 (deliver s stream following steps).1 :=
  (Move.turns waiting held script).then (deliver_path s stream following steps)

theorem job_path {job : Job} (waiting : s.control = .waiting) (held : s.job = some job)
    (e : Event) : Path s [] (onJob s job e).2 (onJob s job e).1 := by
  cases job with
  | handling handler =>
    cases e with
    | handlerEnded error =>
      have same : leave { s with job := none } error = leave s error := by
        simp only [leave, inFlight, held]
      simp only [onJob, same]
      exact (Move.leaves waiting (.handlerEnded handler error held)).path
    | _ => exact .nil s
  | exchanging stream stage =>
    cases e with
    | responded status headers hasBody =>
      cases stage with
      | requested => exact (Script.response status headers hasBody).path waiting held
      | _ => exact .nil s
    | bodyArrived data =>
      cases stage with
      | readingBody => exact (Script.body data).path waiting held
      | _ => exact .nil s
    | exchangeFailed error => exact (Script.failure stage error).path waiting held
    | exchangeEnded =>
      cases stage with
      | requested => exact .nil s
      | readingBody => exact Script.success.path waiting held
      | upgrading =>
        exact (Move.switches stream waiting held).then
          (deliver_path { s with hasChannel := true } stream (.exchanged true) _)
    | _ => exact .nil s

theorem returned_path (s : State) : Path s [] (onReturned s).2 (onReturned s).1 := by
  unfold onReturned
  cases control : s.control with
  | settingUp => exact (Move.enters control).proceed s
  | delivering stream steps following =>
    have tells := deliver_path s stream following steps
    rwa [← control] at tells
  | draining error streams => exact (Move.drains control).path
  | shuttingDown => exact (Move.ends control).path
  | _ => exact .nil s

theorem receive_path (waiting : s.control = .waiting) :
    Path s (taken s .receive) (onReceive s).2 (onReceive s).1 := by
  simp only [taken, if_pos waiting]
  unfold onReceive
  split
  · rename_i stream rest channel
    simp only [channel, List.head?_cons, Option.bind_some]
    exact (Move.receives stream rest waiting channel).then (proceed_path waiting)
  · rename_i error rest channel
    simp only [channel, List.head?_cons, Option.bind_some]
    exact (Move.leaves waiting (.closed error rest channel)).path
  · rename_i channel
    simp only [channel, List.head?_nil, Option.bind_none]
    exact .nil s

theorem user_path (s : State) {e : Event} (user : e.isOutside = true) (called : e ≠ .dialled) :
    Path s [] (onUser s e).2 (onUser s e).1 := by
  have refuses {told : List Effect} (refusals : ∀ effect ∈ told, effect.isRefusal = true) :
      Path s [] told s := (Move.refuses refusals).path
  cases e with
  | request stream fault =>
    simp only [onUser]
    split
    · exact refuses (by simp [Effect.isRefusal])
    · rename_i wasOpen
      split
      · exact refuses (by simp [Effect.isRefusal])
      · split
        · exact (Move.accepts stream (by simpa using wasOpen)).path
        · exact refuses (by simp [Effect.isRefusal])
  | close error =>
    simp only [onUser]
    split
    · rename_i wasOpen
      exact (Move.closes _ wasOpen).path
    · exact .nil s
  | install handler =>
    simp only [onUser]
    split
    · exact refuses (by simp [Effect.isRefusal])
    · rename_i wasOpen
      split
      · exact refuses (by simp [Effect.isRefusal])
      · rename_i empty
        exact (Move.installs handler (by simpa using wasOpen) (by simpa using empty)).path
  | dialled => exact absurd rfl called
  | _ => cases user

/-- Every event is a path of moves. -/
theorem next_path (s : State) (e : Event) : Path s (taken s e) (next s e).2 (next s e).1 := by
  cases e with
  | request | close | install => exact user_path s rfl (by simp)
  | returned => exact returned_path s
  | dialFailed error =>
    simp only [next]
    split
    · rename_i dialling
      exact (Move.fails error dialling).path
    · exact .nil s
  | dialled =>
    simp only [next]
    split
    · rename_i dialling
      exact (Move.opens dialling).path
    · exact .nil s
  | receive =>
    simp only [next]
    split
    · rename_i waiting
      exact receive_path waiting
    · rename_i elsewhere
      simp only [taken, if_neg elsewhere]
      exact .nil s
  | driverEnded error =>
    simp only [next]
    split
    · rename_i fresh
      exact (Move.driverEnds error fresh.1).then (proceed_path fresh.1)
    · exact .nil s
  | _ =>
    simp only [next]
    split
    · rename_i job waiting held
      exact job_path waiting held _
    · exact .nil s

/-- What every move keeps, a path keeps. -/
theorem Path.keeps {requests : List StreamId} (path : Path s requests told t)
    (Holds : State → List StreamId → List Effect → Prop)
    (step : ∀ {s t taken told}, Move s taken told t → ∀ {before past},
      Holds s before past → Holds t (before ++ taken) (past ++ told))
    (before : List StreamId) (past : List Effect) (holds : Holds s before past) :
    Holds t (before ++ requests) (past ++ told) := by
  induction path generalizing before past with
  | nil => simpa using holds
  | cons move _ ih =>
    rw [← List.append_assoc, ← List.append_assoc]
    exact ih _ _ (step move holds)

end Paths

theorem received_concat (s : State) (events : List Event) (e : Event) :
    received s (events ++ [e]) = received s events ++ taken (run s events) e := by
  induction events generalizing s with
  | nil => simp [received, run]
  | cons first rest ih => simp only [List.cons_append, received, ih, List.append_assoc]; rfl

/-- What holds at the start and is kept by every move holds after every run. -/
theorem run_keeps {s : State} (Holds : State → List StreamId → List Effect → Prop)
    (base : Holds s [] [])
    (step : ∀ {s t taken told}, Move s taken told t → ∀ {before past},
      Holds s before past → Holds t (before ++ taken) (past ++ told))
    (events : List Event) : Holds (run s events) (received s events) (effects s events) := by
  induction events using List.reverseRecOn with
  | nil => exact base
  | append_singleton events e ih =>
    rw [run_concat, received_concat, effects_concat]
    exact (next_path _ e).keeps Holds step _ _ ih

end WebSocketClient.Connection

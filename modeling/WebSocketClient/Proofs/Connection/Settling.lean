import WebSocketClient.Connection.Task

/-! # How the task settles requests

A request is accepted into the channel of commands, received into the queue, exchanged, and
completed. Every part of the task completes some of the requests that it has received and keeps the
others, in order, or it reports the shutdown when there are none. -/
namespace WebSocketClient.Connection

def Effect.accepted? : Effect → Option StreamId
  | accepted stream => some stream
  | _ => none

def Effect.completed? : Effect → Option StreamId
  | callback stream (.complete _) => some stream
  | _ => none

def Effect.isShutdown : Effect → Bool
  | shutdown _ => true
  | _ => false

def accepted (told : List Effect) : List StreamId := told.filterMap Effect.accepted?

def completed (told : List Effect) : List StreamId := told.filterMap Effect.completed?

def Command.stream? : Command → Option StreamId
  | request stream => some stream
  | close _ => none

/-- The accepted requests that the task has not received. -/
def unread (s : State) : List StreamId := s.commands.filterMap Command.stream?

/-- The received requests whose completion has not been delivered. -/
def owed (s : State) : List StreamId :=
  match s.control with
  | .draining _ rest => rest
  | .delivering _ _ (.exchanged _) => s.queue
  | _ => inFlight s ++ s.queue

structure Silent (s : State) : Prop where
  isOpen : s.isOpen = false
  commands : s.commands = []
  job : s.job = none
  queue : s.queue = []

/-- What holds wherever the task stands. A completion is the last step of its delivery, and the
completions at the end are of requests that nothing else holds any more. -/
def Tidy (s : State) : Prop :=
  match s.control with
  | .dialling | .shuttingDown | .ended => Silent s
  | .delivering stream steps (.stage _) =>
    inFlight s = [stream] ∧ ∀ c, .callback c ∈ steps → c.isComplete = false
  | .delivering _ steps (.exchanged _) => steps = []
  | .draining _ _ => s.job = none ∧ s.queue = []
  | .settingUp | .waiting => True

def Gone (s : State) : Prop := s.control = .shuttingDown ∨ s.control = .ended

theorem completed_append (first rest : List Effect) :
    completed (first ++ rest) = completed first ++ completed rest := List.filterMap_append ..

theorem accepted_append (first rest : List Effect) :
    accepted (first ++ rest) = accepted first ++ accepted rest := List.filterMap_append ..

@[simp] theorem completed_shutdown (error : Option Error) : completed [.shutdown error] = [] := rfl

@[simp] theorem accepted_shutdown (error : Option Error) : accepted [.shutdown error] = [] := rfl

theorem completed_callback {c : Stream.Callback} (pending : c.isComplete = false)
    (stream : StreamId) : completed [.callback stream c] = [] := by
  cases c with
  | complete error => cases pending
  | _ => rfl

theorem owed_congr {s t : State} (control : t.control = s.control) (job : t.job = s.job)
    (queue : t.queue = s.queue) : owed t = owed s := by
  simp only [owed, inFlight, control, job, queue]

theorem owed_waiting {s : State} (control : s.control = .waiting) :
    owed s = inFlight s ++ s.queue := by
  simp only [owed, control]

theorem Tidy.congr {s t : State} (h : Tidy s) (control : t.control = s.control)
    (job : t.job = s.job) (queue : t.queue = s.queue) (silent : Silent s → Silent t) : Tidy t := by
  cases stands : s.control with
  | delivering stream steps following =>
    cases following <;> simpa only [Tidy, control, stands, inFlight, job] using h
  | draining => simpa only [Tidy, control, stands, job, queue] using h
  | settingUp => simp only [Tidy, control, stands]
  | waiting => simp only [Tidy, control, stands]
  | _ =>
    simp only [Tidy, control, stands] at h ⊢
    exact silent h

theorem tidy_gone {s : State} (gone : Gone s) (silent : Silent s) : Tidy s := by
  rcases gone with control | control
  · simpa only [Tidy, control] using silent
  · simpa only [Tidy, control] using silent

/-- What becomes of `pending`, in order: each is completed at once or still owed afterwards. The
shutdown is reported if there is nothing to complete. -/
inductive Settles (pending : List StreamId) (s t : State) (told : List Effect) : Prop
  | gone (error : Option Error) (report : told = [.shutdown error]) (settled : pending = [])
      (gone : Gone t) (silent : Silent t)
  | on (order : completed told ++ owed t = pending) (nothing : accepted told = [])
      (running : told.any Effect.isShutdown = false) (tidy : Tidy t)
      (commands : t.commands = s.commands) (isOpen : t.isOpen = s.isOpen)

section Settles

variable {s : State} {pending : List StreamId}

/-- The state before counts for its channel only. -/
theorem Settles.congr {r t : State} {told : List Effect} (h : Settles pending r t told)
    (commands : r.commands = s.commands) (isOpen : r.isOpen = s.isOpen) :
    Settles pending s t told := by
  cases h with
  | gone error report settled gone silent => exact .gone error report settled gone silent
  | on order nothing running tidy same sameOpen =>
    exact .on order nothing running tidy (same.trans commands) (sameOpen.trans isOpen)

theorem Settles.cons {t : State} {told : List Effect} (h : Settles pending s t told)
    (unsettled : pending ≠ []) {effect : Effect} (accepts : effect.accepted? = none)
    (completes : effect.completed? = none) (reports : effect.isShutdown = false) :
    Settles pending s t (effect :: told) := by
  cases h with
  | gone error report settled => exact absurd settled unsettled
  | on order nothing running tidy commands isOpen =>
    refine .on ?_ ?_ ?_ tidy commands isOpen
    · rw [← order, completed, List.filterMap_cons_none completes]
      rfl
    · rw [← nothing, accepted, List.filterMap_cons_none accepts]
      rfl
    · rw [List.any_cons, reports, running]
      rfl

theorem drain_settles (error : Option Error) (job : s.job = none) (queue : s.queue = []) :
    Settles pending s (drain s error pending).1 (drain s error pending).2 := by
  cases pending with
  | nil => exact .gone error rfl rfl (.inl rfl) ⟨rfl, rfl, job, queue⟩
  | cons stream rest => exact .on rfl rfl rfl ⟨job, queue⟩ rfl rfl

theorem leave_settles (s : State) (error : Option Error) :
    Settles (inFlight s ++ s.queue) s (leave s error).1 (leave s error).2 :=
  (drain_settles error rfl rfl).congr rfl rfl

theorem proceed_cases (s : State) :
    (∃ error, proceed s = leave s error) ∨
    (∃ stream rest, s.job = none ∧ s.queue = stream :: rest ∧
      proceed s = ({ s with
        queue := rest
        idle := false
        job := some (.exchanging stream .requested)
        control := .waiting }, [.exchange stream])) ∨
    proceed s = ({ s with control := .waiting }, []) := by
  unfold proceed
  split
  · rename_i free
    have job : s.job = none := Option.isNone_iff_eq_none.mp free.1
    split
    · exact .inl ⟨_, rfl⟩
    · split
      · rename_i stream rest queue
        split
        · exact .inr (.inl ⟨stream, rest, job, queue, rfl⟩)
        · exact .inr (.inr rfl)
      · exact .inr (.inr rfl)
  · exact .inr (.inr rfl)

theorem proceed_settles (s : State) :
    Settles (inFlight s ++ s.queue) s (proceed s).1 (proceed s).2 := by
  rcases proceed_cases s with ⟨error, leaves⟩ | ⟨stream, rest, job, queue, starts⟩ | waits
  · rw [leaves]
    exact leave_settles s error
  · rw [starts]
    refine .on ?_ rfl rfl trivial rfl rfl
    simp only [inFlight, job, queue]
    rfl
  · rw [waits]
    exact .on rfl rfl rfl trivial rfl rfl

theorem proceed_busy (busy : s.job.isSome) :
    proceed s = ({ s with control := .waiting }, []) := by
  unfold proceed
  rw [if_neg]
  rintro ⟨free, -⟩
  rw [Option.isNone_iff_eq_none.mp free] at busy
  cases busy

theorem resume_exchanged_settles (s : State) (stream : StreamId) (upgraded : Bool) :
    Settles s.queue s (resume s stream (.exchanged upgraded)).1
      (resume s stream (.exchanged upgraded)).2 := by
  cases upgraded with
  | false => exact (proceed_settles { s with job := none, idle := true }).congr rfl rfl
  | true =>
    simp only [resume]
    split
    · rw [proceed_busy rfl]
      exact .on rfl rfl rfl trivial rfl rfl
    · exact (proceed_settles { s with job := none, upgraded := true }).congr rfl rfl

theorem deliver_stage_settles (stage : Stage) {stream : StreamId} (flight : inFlight s = [stream])
    {steps : List Delivery} (early : ∀ c, .callback c ∈ steps → c.isComplete = false) :
    Settles (stream :: s.queue) s (deliver s stream (.stage stage) steps).1
      (deliver s stream (.stage stage) steps).2 := by
  induction steps with
  | nil => exact .on rfl rfl rfl trivial rfl rfl
  | cons step steps ih =>
    have later : ∀ c, .callback c ∈ steps → c.isComplete = false := fun c mem =>
      early c (List.mem_cons_of_mem step mem)
    cases step with
    | status status => exact (ih later).cons (List.cons_ne_nil _ _) rfl rfl rfl
    | callback c =>
      have pending := early c List.mem_cons_self
      refine .on ?_ rfl rfl ⟨flight, later⟩ rfl rfl
      change completed [.callback stream c] ++ (inFlight s ++ s.queue) = stream :: s.queue
      rw [completed_callback pending, flight]
      rfl

/-- The completion that ends an exchange. -/
theorem deliver_completion_settles (s : State) (stream : StreamId) (upgraded : Bool)
    (error : Option Error) :
    Settles (stream :: s.queue) s
      (deliver s stream (.exchanged upgraded) [.callback (.complete error)]).1
      (deliver s stream (.exchanged upgraded) [.callback (.complete error)]).2 :=
  .on rfl rfl rfl rfl rfl rfl

theorem Settles.nothing {t : State} (tidy : Tidy t) (owes : owed t = pending)
    (commands : t.commands = s.commands) (isOpen : t.isOpen = s.isOpen) :
    Settles pending s t [] :=
  .on owes rfl rfl tidy commands isOpen

theorem returned_settles (tidy : Tidy s) :
    Settles (owed s) s (onReturned s).1 (onReturned s).2 := by
  unfold onReturned owed
  cases control : s.control with
  | settingUp => exact proceed_settles s
  | delivering stream steps following =>
    cases following with
    | stage stage =>
      simp only [Tidy, control] at tidy
      simp only [tidy.1]
      exact deliver_stage_settles stage tidy.1 tidy.2
    | exchanged upgraded =>
      simp only [Tidy, control] at tidy
      rw [tidy]
      exact resume_exchanged_settles s stream upgraded
  | draining error rest =>
    simp only [Tidy, control] at tidy
    exact drain_settles error tidy.1 tidy.2
  | shuttingDown =>
    simp only [Tidy, control] at tidy
    exact .nothing ⟨tidy.isOpen, tidy.commands, tidy.job, tidy.queue⟩ rfl rfl rfl
  | dialling => exact .nothing tidy (by simp only [owed, control]) rfl rfl
  | waiting => exact .nothing tidy (by simp only [owed, control]) rfl rfl
  | ended => exact .nothing tidy (by simp only [owed, control]) rfl rfl

/-- The end of a job, or a part of its answer. -/
theorem job_settles {job : Job} (held : s.job = some job) (control : s.control = .waiting)
    (tidy : Tidy s) (e : Event) : Settles (owed s) s (onJob s job e).1 (onJob s job e).2 := by
  have idle : Settles (owed s) s s [] := .nothing tidy rfl rfl rfl
  cases job with
  | handling handler =>
    have flight : inFlight s = [] := by simp only [inFlight, held]
    cases e with
    | handlerEnded error =>
      rw [owed_waiting control, flight]
      exact (leave_settles { s with job := none } error).congr rfl rfl
    | _ => exact idle
  | exchanging stream stage =>
    have flight : inFlight s = [stream] := by simp only [inFlight, held]
    have pending : owed s = stream :: s.queue := by
      rw [owed_waiting control, flight]
      rfl
    cases e with
    | responded status headers hasBody =>
      cases stage with
      | requested =>
        rw [pending]
        exact deliver_stage_settles _ flight (by simp [head, Stream.Callback.isComplete])
      | _ => exact idle
    | bodyArrived data =>
      cases stage with
      | readingBody =>
        rw [pending]
        exact deliver_stage_settles _ flight (by simp [Stream.Callback.isComplete])
      | _ => exact idle
    | exchangeFailed error =>
      rw [pending]
      exact deliver_completion_settles s stream false (some error)
    | exchangeEnded =>
      cases stage with
      | requested => exact idle
      | readingBody =>
        rw [pending]
        exact deliver_completion_settles s stream false none
      | upgrading =>
        rw [pending]
        exact (deliver_completion_settles { s with hasChannel := true } stream true none).congr
          rfl rfl
    | _ => exact idle

end Settles

inductive Takes (s r : State) : Prop
  | nothing (same : r = s)
  | command (command : Command) (rest : List Command) (channel : s.commands = command :: rest)
      (left : r.commands = rest) (isOpen : r.isOpen = s.isOpen)
      (owes : owed r = owed s ++ command.stream?.toList)

/-- The calls of the user, and the dial that has succeeded. -/
def Event.isOutside : Event → Bool
  | request .. | close _ | install _ | dialled => true
  | _ => false

theorem receive_settles {s : State} (tidy : Tidy s) (control : s.control = .waiting) :
    ∃ r, Takes s r ∧ Settles (owed r) r (onReceive s).1 (onReceive s).2 := by
  unfold onReceive
  split
  · rename_i stream rest channel
    let r := { s with commands := rest, queue := s.queue ++ [stream] }
    have owes : owed r = owed s ++ [stream] := by
      simp only [r, owed, control, inFlight, List.append_assoc]
    refine ⟨r, .command (.request stream) rest channel rfl rfl owes, ?_⟩
    rw [owed_waiting (s := r) control]
    exact proceed_settles r
  · rename_i error rest channel
    let r := { s with commands := rest }
    have owes : owed r = owed s ++ [] := by
      rw [List.append_nil]
      exact owed_congr rfl rfl rfl
    refine ⟨r, .command (.close error) rest channel rfl rfl owes, ?_⟩
    rw [owed_waiting (s := r) control]
    exact leave_settles r error
  · exact ⟨s, .nothing rfl, .nothing tidy rfl rfl rfl⟩

theorem task_settles {s : State} (tidy : Tidy s) {e : Event} (inside : e.isOutside = false) :
    ∃ r, Takes s r ∧ Settles (owed r) r (next s e).1 (next s e).2 := by
  have idle : ∃ r, Takes s r ∧ Settles (owed r) r s [] :=
    ⟨s, .nothing rfl, .nothing tidy rfl rfl rfl⟩
  cases e with
  | request | close | install | dialled => cases inside
  | returned => exact ⟨s, .nothing rfl, returned_settles tidy⟩
  | dialFailed error =>
    by_cases control : s.control = .dialling
    · simp only [next, if_pos control]
      refine ⟨s, .nothing rfl, .on ?_ rfl rfl ?_ rfl rfl⟩
      · simp only [owed, control]
        rfl
      · simp only [Tidy, control] at tidy
        exact ⟨tidy.isOpen, tidy.commands, tidy.job, tidy.queue⟩
    · simp only [next, if_neg control]
      exact idle
  | receive =>
    by_cases control : s.control = .waiting
    · simp only [next, if_pos control]
      exact receive_settles tidy control
    · simp only [next, if_neg control]
      exact idle
  | driverEnded error =>
    by_cases fresh : s.control = .waiting ∧ s.driverEnd = none
    · simp only [next, if_pos fresh]
      refine ⟨s, .nothing rfl, ?_⟩
      rw [owed_waiting fresh.1]
      exact (proceed_settles { s with driverEnd := some error }).congr rfl rfl
    · simp only [next, if_neg fresh]
      exact idle
  | _ =>
    simp only [next]
    split
    · rename_i job control held
      exact ⟨s, .nothing rfl, job_settles held control tidy _⟩
    · exact idle

inductive Called (s t : State) (told : List Effect) : Prop
  | nothing (commands : t.commands = s.commands) (isOpen : t.isOpen = s.isOpen)
      (nothing : accepted told = [])
  | request (stream : StreamId) (wasOpen : s.isOpen = true)
      (commands : t.commands = s.commands ++ [.request stream]) (isOpen : t.isOpen = true)
      (one : accepted told = [stream])
  | close (error : Option Error) (wasOpen : s.isOpen = true)
      (commands : t.commands = s.commands ++ [.close error] ∨ t.commands = s.commands)
      (isOpen : t.isOpen = false) (nothing : accepted told = [])

structure Outside (s t : State) (told : List Effect) : Prop where
  called : Called s t told
  control : t.control = s.control
  job : t.job = s.job
  queue : t.queue = s.queue
  quiet : completed told = []
  running : told.any Effect.isShutdown = false

theorem user_outside (s : State) {e : Event} (outside : e.isOutside = true) (user : e ≠ .dialled) :
    Outside s (next s e).1 (next s e).2 := by
  have refuses (told : List Effect) (nothing : accepted told = []) (quiet : completed told = [])
      (running : told.any Effect.isShutdown = false) : Outside s s told :=
    ⟨.nothing rfl rfl nothing, rfl, rfl, rfl, quiet, running⟩
  cases e with
  | request stream fault =>
    by_cases closed : s.isOpen = false
    · simp only [next, onUser, if_pos closed]
      exact refuses _ rfl rfl rfl
    · have wasOpen : s.isOpen = true := by simpa using closed
      simp only [next, onUser, if_neg closed]
      cases fault with
      | some error => exact refuses _ rfl rfl rfl
      | none =>
        by_cases receiving : s.receiving = true
        · simp only [if_pos receiving]
          exact ⟨.request stream wasOpen rfl wasOpen rfl, rfl, rfl, rfl, rfl, rfl⟩
        · simp only [if_neg receiving]
          exact refuses _ rfl rfl rfl
  | close error =>
    by_cases wasOpen : s.isOpen = true
    · simp only [next, onUser, if_pos wasOpen]
      refine ⟨.close error wasOpen ?_ rfl rfl, rfl, rfl, rfl, rfl, rfl⟩
      by_cases receiving : s.receiving = true
      · exact .inl (if_pos receiving)
      · exact .inr (if_neg receiving)
    · simp only [next, onUser, if_neg wasOpen]
      exact refuses _ rfl rfl rfl
  | install handler =>
    simp only [next, onUser]
    split
    · exact refuses _ rfl rfl rfl
    · split
      · exact refuses _ rfl rfl rfl
      · exact ⟨.nothing rfl rfl rfl, rfl, rfl, rfl, rfl, rfl⟩
  | dialled => exact absurd rfl user
  | _ => cases outside

end WebSocketClient.Connection

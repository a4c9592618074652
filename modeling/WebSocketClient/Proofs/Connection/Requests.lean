import WebSocketClient.Proofs.Connection.Moves

/-! # What becomes of accepted requests

The task completes the requests that it has received, each once and in the order in which they were
accepted, before it reports the shutdown. It does not receive once it has left its loop, and what
it has not received by then is dropped with the channel of commands. Only a command to close that is
received leaves nothing behind. That rests on a request being one step: it looks at the open flag
and sends its command with no close in between, so the command never comes after that of a close. -/
namespace WebSocketClient.Connection

/-- One event. What was accepted and not completed is still there, unless the shutdown is
reported. -/
inductive Advances (s t : State) (told : List Effect) : Prop
  | gone (error : Option Error) (report : told = [.shutdown error]) (settled : owed s = [])
      (gone : Gone t) (silent : Silent t)
  | on (balance : completed told ++ owed t ++ unread t = owed s ++ unread s ++ accepted told)
      (running : told.any Effect.isShutdown = false) (tidy : Tidy t)

theorem task_advances {s r t : State} {told : List Effect} (takes : Takes s r)
    (settles : Settles (owed r) r t told) : Advances s t told := by
  have received : owed r ++ unread r = owed s ++ unread s := by
    cases takes with
    | nothing same => rw [same]
    | command command rest channel left isOpen owes =>
      rw [owes, unread, unread, left, channel, List.append_assoc]
      cases asks : command.stream? <;> simp [asks]
  cases settles with
  | gone error report settled gone silent =>
    refine .gone error report ?_ gone silent
    cases takes with
    | nothing same => rw [← same, settled]
    | command command rest channel left isOpen owes =>
      exact (List.append_eq_nil_iff.mp (owes.symm.trans settled)).1
  | on order nothing running tidy commands isOpen =>
    refine .on ?_ running tidy
    rw [order, nothing, List.append_nil, ← received, unread, commands]
    rfl

/-- The user adds to the channel what is accepted. -/
theorem Called.unread {s t : State} {told : List Effect} (called : Called s t told) :
    unread t = unread s ++ accepted told := by
  cases called with
  | nothing commands isOpen nothing =>
    rw [Connection.unread, commands, nothing, List.append_nil]
    rfl
  | request stream wasOpen commands isOpen one =>
    rw [Connection.unread, commands, one, List.filterMap_append]
    rfl
  | close error wasOpen commands isOpen nothing =>
    rw [nothing, List.append_nil]
    rcases commands with commands | commands
    · rw [Connection.unread, commands, List.filterMap_append]
      exact List.append_nil _
    · rw [Connection.unread, commands]
      rfl

theorem outside_advances {s t : State} {told : List Effect} (tidy : Tidy s)
    (outside : Outside s t told) : Advances s t told := by
  obtain ⟨called, control, job, queue, quiet, running⟩ := outside
  have owes : owed t = owed s := owed_congr control job queue
  refine .on ?_ running (tidy.congr control job queue ?_)
  · rw [quiet, owes, called.unread, List.nil_append, List.append_assoc]
  · intro silent
    cases called with
    | nothing commands isOpen =>
      exact ⟨isOpen.trans silent.isOpen, commands.trans silent.commands, job.trans silent.job,
        queue.trans silent.queue⟩
    | request stream wasOpen =>
      rw [silent.isOpen] at wasOpen
      cases wasOpen
    | close error wasOpen =>
      rw [silent.isOpen] at wasOpen
      cases wasOpen

theorem next_advances {s : State} (tidy : Tidy s) (e : Event) :
    Advances s (next s e).1 (next s e).2 := by
  by_cases dial : e = .dialled
  · subst dial
    by_cases control : s.control = .dialling
    · simp only [next, if_pos control]
      refine .on ?_ rfl trivial
      simp only [owed, control]
      exact (List.append_nil _).symm
    · simp only [next, if_neg control]
      exact .on (List.append_nil _).symm rfl tidy
  · by_cases outside : e.isOutside = true
    · exact outside_advances tidy (user_outside s outside dial)
    · obtain ⟨r, takes, settles⟩ := task_settles tidy (Bool.not_eq_true _ ▸ outside)
      exact task_advances takes settles

/-- A task that is leaving goes on by the ends of callbacks only, and a closed connection refuses
what the user asks for. -/
theorem next_closed {s : State} (closed : s.isOpen = false) (waiting : s.control ≠ .waiting)
    (dialling : s.control ≠ .dialling) {e : Event} (stays : e ≠ .returned) :
    ∃ told, next s e = (s, told) ∧ accepted told = [] ∧ completed told = [] ∧
      told.any Effect.isShutdown = false := by
  cases e with
  | returned => exact absurd rfl stays
  | request => exact ⟨_, if_pos closed, rfl, rfl, rfl⟩
  | install => exact ⟨_, if_pos closed, rfl, rfl, rfl⟩
  | close => exact ⟨_, if_neg (by simp [closed]), rfl, rfl, rfl⟩
  | dialFailed => exact ⟨_, if_neg dialling, rfl, rfl, rfl⟩
  | dialled => exact ⟨_, if_neg dialling, rfl, rfl, rfl⟩
  | receive => exact ⟨_, if_neg waiting, rfl, rfl, rfl⟩
  | driverEnded => exact ⟨_, if_neg fun fresh => waiting fresh.1, rfl, rfl, rfl⟩
  | _ =>
    refine ⟨[], ?_, rfl, rfl, rfl⟩
    cases control : s.control with
    | waiting => exact absurd control waiting
    | _ => simp only [next, control]

theorem gone_next {s : State} (gone : Gone s) (silent : Silent s) (e : Event) :
    Gone (next s e).1 ∧ Silent (next s e).1 ∧ accepted (next s e).2 = [] ∧
      completed (next s e).2 = [] ∧ (next s e).2.any Effect.isShutdown = false := by
  by_cases returned : e = .returned
  · subst returned
    rcases gone with control | control
    · simp only [next, onReturned, control]
      exact ⟨.inr rfl, ⟨silent.isOpen, silent.commands, silent.job, silent.queue⟩, rfl, rfl, rfl⟩
    · simp only [next, onReturned, control]
      exact ⟨.inr control, silent, rfl, rfl, rfl⟩
  · have waiting : s.control ≠ .waiting := by
      rcases gone with control | control <;> simp [control]
    have dialling : s.control ≠ .dialling := by
      rcases gone with control | control <;> simp [control]
    obtain ⟨told, stays, quiet⟩ := next_closed silent.isOpen waiting dialling returned
    rw [stays]
    exact ⟨gone, silent, quiet⟩

/-- After the shutdown nothing is accepted or completed. -/
theorem gone_effects {s : State} (gone : Gone s) (silent : Silent s) (events : List Event) :
    accepted (effects s events) = [] ∧ completed (effects s events) = [] ∧
      (effects s events).any Effect.isShutdown = false := by
  induction events generalizing s with
  | nil => exact ⟨rfl, rfl, rfl⟩
  | cons e events ih =>
    obtain ⟨still, quiet, accepts, completes, reports⟩ := gone_next gone silent e
    obtain ⟨accepts', completes', reports'⟩ := ih still quiet
    refine ⟨?_, ?_, ?_⟩
    · rw [effects, accepted_append, accepts, accepts']
      rfl
    · rw [effects, completed_append, completes, completes']
      rfl
    · rw [effects, List.any_append, reports, reports']
      rfl

/-- Where a run stands: every accepted request is accounted for, or the shutdown was reported. -/
inductive Account (s : State) (told : List Effect) : Prop
  | gone (gone : Gone s) (silent : Silent s) (first : completed told <+: accepted told)
  | on (balance : accepted told = completed told ++ owed s ++ unread s)
      (running : told.any Effect.isShutdown = false) (tidy : Tidy s)

namespace Account

variable {s : State} {told : List Effect}

theorem tidy (h : Account s told) : Tidy s := by
  cases h with
  | gone gone silent => exact tidy_gone gone silent
  | on _ _ tidy => exact tidy

theorem first (h : Account s told) : completed told <+: accepted told := by
  cases h with
  | gone _ _ first => exact first
  | on balance =>
    rw [balance, List.append_assoc]
    exact List.prefix_append ..

theorem step (h : Account s told) (e : Event) : Account (next s e).1 (told ++ (next s e).2) := by
  have first := h.first
  cases h with
  | gone gone silent =>
    obtain ⟨gone, silent, accepts, completes, -⟩ := gone_next gone silent e
    refine .gone gone silent ?_
    rw [completed_append, accepted_append, accepts, completes]
    simpa using first
  | on balance running tidy =>
    cases next_advances tidy e with
    | gone error report settled gone silent =>
      refine .gone gone silent ?_
      rw [report, completed_append, accepted_append]
      simpa using first
    | on step still tidy =>
      refine .on ?_ ?_ tidy
      · calc accepted (told ++ (next s e).2)
            = completed told ++ (owed s ++ unread s ++ accepted (next s e).2) := by
              rw [accepted_append, balance]
              simp only [List.append_assoc]
          _ = completed (told ++ (next s e).2) ++ owed (next s e).1 ++ unread (next s e).1 := by
              rw [← step, completed_append]
              simp only [List.append_assoc]
      · rw [List.any_append, running, still]
        rfl

end Account

theorem account (events : List Event) :
    Account (run initial events) (effects initial events) := by
  induction events using List.reverseRecOn with
  | nil => exact .on rfl rfl ⟨rfl, rfl, rfl, rfl⟩
  | append_singleton events e ih =>
    rw [run_concat, effects_concat]
    exact ih.step e

section Receiving

variable {s t : State}

theorem Settles.unread {pending : List StreamId} {told : List Effect}
    (h : Settles pending s t told) : (unread t).Sublist (unread s) := by
  cases h with
  | gone error report settled gone silent =>
    rw [Connection.unread, silent.commands]
    exact List.nil_sublist _
  | on _ _ _ _ commands =>
    rw [Connection.unread, commands]
    exact .refl _

theorem Takes.unread (takes : Takes s t) : (unread t).Sublist (unread s) := by
  cases takes with
  | nothing same => exact same ▸ .refl _
  | command command rest channel left =>
    rw [Connection.unread, Connection.unread, left, channel]
    exact (List.sublist_cons_self ..).filterMap _

theorem receive_unread (s : State) :
    ((s.commands.head?.bind Command.stream?).toList ++ unread (onReceive s).1).Sublist
      (unread s) := by
  unfold onReceive
  split
  · rename_i stream rest channel
    have left := (proceed_settles { s with commands := rest, queue := s.queue ++ [stream] }).unread
    have whole : unread s = stream :: rest.filterMap Command.stream? := by rw [unread, channel]; rfl
    rw [whole, channel]
    exact left.cons_cons stream
  · rename_i error rest channel
    have left := (leave_settles { s with commands := rest } error).unread
    have whole : unread s = rest.filterMap Command.stream? := by rw [unread, channel]; rfl
    rw [whole, channel]
    exact left
  · rename_i channel
    rw [channel]
    exact .refl _

/-- What is received comes from the channel, in order. -/
theorem next_received (tidy : Tidy s) (e : Event) :
    (taken s e ++ unread (next s e).1).Sublist (unread s ++ accepted (next s e).2) := by
  have within {left : List StreamId} (part : left.Sublist (unread s)) :
      left.Sublist (unread s ++ accepted (next s e).2) := part.trans (List.sublist_append_left ..)
  by_cases dial : e = .dialled
  · subst dial
    refine within ?_
    simp only [next, taken]
    split <;> exact .refl _
  · by_cases outside : e.isOutside = true
    · have same := (user_outside s outside dial).called.unread
      cases e with
      | request | close | install => exact same ▸ .refl _
      | dialled => exact absurd rfl dial
      | _ => cases outside
    · obtain ⟨r, takes, settles⟩ := task_settles tidy (Bool.not_eq_true _ ▸ outside)
      cases e with
      | receive =>
        refine within ?_
        by_cases control : s.control = .waiting
        · simp only [taken, next, if_pos control]
          exact receive_unread s
        · simp only [taken, next, if_neg control]
          exact .refl _
      | _ => exact within (settles.unread.trans takes.unread)

/-- The task receives what was accepted, in order, and no request twice. -/
theorem received_accepted (events : List Event) :
    (received initial events ++ unread (run initial events)).Sublist
      (accepted (effects initial events)) := by
  induction events using List.reverseRecOn with
  | nil => exact .refl _
  | append_singleton events e ih =>
    rw [run_concat, received_concat, effects_concat, accepted_append, List.append_assoc]
    refine ((next_received (account events).tidy e).append_left _).trans ?_
    rw [← List.append_assoc]
    exact ih.append_right _

end Receiving

section Closing

/-- Nothing is accepted after a command to close, so it is the last in the channel. -/
def ClosesLast (s : State) : Prop :=
  ∀ first cause rest, s.commands = first ++ .close cause :: rest → rest = [] ∧ s.isOpen = false

theorem ClosesLast.of_empty {s : State} (empty : s.commands = []) : ClosesLast s := by
  intro first cause rest split
  rw [empty] at split
  cases first <;> cases split

theorem ClosesLast.of_suffix {s t : State} (h : ClosesLast s) (before : List Command)
    (suffix : s.commands = before ++ t.commands) (isOpen : t.isOpen = s.isOpen) :
    ClosesLast t := by
  intro first cause rest split
  rw [isOpen]
  apply h (before ++ first) cause rest
  rw [suffix, split, List.append_assoc]

theorem close_of_concat {commands first rest : List Command} {last : Command}
    {cause : Option Error} (split : commands ++ [last] = first ++ .close cause :: rest) :
    rest = [] ∧ last = .close cause ∨ ∃ rest, commands = first ++ .close cause :: rest := by
  rcases List.eq_nil_or_concat rest with rfl | ⟨rest, other, rfl⟩
  · obtain ⟨-, same⟩ := List.append_inj' split rfl
    exact .inl ⟨rfl, List.singleton_inj.mp same⟩
  · have split : commands ++ [last] = (first ++ .close cause :: rest) ++ [other] := by
      simpa using split
    exact .inr ⟨rest, (List.append_inj' split rfl).1⟩

theorem ClosesLast.called {s t : State} {told : List Effect} (h : ClosesLast s)
    (called : Called s t told) : ClosesLast t := by
  have unclosed (wasOpen : s.isOpen = true) (first : List Command) (cause : Option Error)
      (rest : List Command) : s.commands ≠ first ++ .close cause :: rest := by
    intro split
    rw [(h first cause rest split).2] at wasOpen
    cases wasOpen
  cases called with
  | nothing commands isOpen => exact h.of_suffix [] commands.symm isOpen
  | request stream wasOpen commands =>
    intro first cause rest split
    rw [commands] at split
    rcases close_of_concat split with ⟨-, same⟩ | ⟨rest, earlier⟩
    · cases same
    · exact absurd earlier (unclosed wasOpen first cause rest)
  | close error wasOpen commands isOpen =>
    intro first cause rest split
    refine ⟨?_, isOpen⟩
    rcases commands with commands | commands
    · rw [commands] at split
      rcases close_of_concat split with ⟨last, -⟩ | ⟨rest, earlier⟩
      · exact last
      · exact absurd earlier (unclosed wasOpen first cause rest)
    · rw [commands] at split
      exact absurd split (unclosed wasOpen first cause rest)

theorem ClosesLast.task {s r t : State} {pending : List StreamId} {told : List Effect}
    (h : ClosesLast s) (takes : Takes s r) (settles : Settles pending r t told) :
    ClosesLast t := by
  have left : ClosesLast r := by
    cases takes with
    | nothing same => exact same ▸ h
    | command command rest channel left isOpen =>
      exact h.of_suffix [command] (by rw [channel, left]; rfl) isOpen
  cases settles with
  | gone error report settled gone silent => exact .of_empty silent.commands
  | on _ _ _ _ commands isOpen => exact left.of_suffix [] commands.symm isOpen

theorem closesLast_run (events : List Event) : ClosesLast (run initial events) := by
  induction events using List.reverseRecOn with
  | nil => exact .of_empty rfl
  | append_singleton events e ih =>
    have tidy := (account events).tidy
    rw [run_concat]
    by_cases dial : e = .dialled
    · subst dial
      by_cases control : (run initial events).control = .dialling
      · simp only [Tidy, control] at tidy
        simp only [next, if_pos control]
        exact .of_empty tidy.commands
      · simp only [next, if_neg control]
        exact ih
    · by_cases outside : e.isOutside = true
      · exact ih.called (user_outside _ outside dial).called
      · obtain ⟨r, takes, settles⟩ := task_settles tidy (Bool.not_eq_true _ ▸ outside)
        exact ih.task takes settles

/-- The task is leaving a connection that is closed, and there is nothing in the channel. -/
structure Shut (s : State) : Prop where
  isOpen : s.isOpen = false
  commands : s.commands = []
  leaving : (∃ error rest, s.control = .draining error rest) ∨ Gone s

theorem shut_drain {s : State} (closed : s.isOpen = false) (empty : s.commands = [])
    (error : Option Error) (streams : List StreamId) :
    Shut (drain s error streams).1 ∧ accepted (drain s error streams).2 = [] := by
  cases streams with
  | nil => exact ⟨⟨rfl, rfl, .inr (.inl rfl)⟩, rfl⟩
  | cons stream rest => exact ⟨⟨closed, empty, .inl ⟨error, rest, rfl⟩⟩, rfl⟩

theorem shut_next {s : State} (h : Shut s) (e : Event) :
    Shut (next s e).1 ∧ accepted (next s e).2 = [] := by
  obtain ⟨closed, empty, leaving⟩ := h
  by_cases returned : e = .returned
  · subst returned
    rcases leaving with ⟨error, rest, control⟩ | control | control
    · simp only [next, onReturned, control]
      exact shut_drain closed empty error rest
    · simp only [next, onReturned, control]
      exact ⟨⟨closed, empty, .inr (.inr rfl)⟩, rfl⟩
    · simp only [next, onReturned, control]
      exact ⟨⟨closed, empty, .inr (.inr control)⟩, rfl⟩
  · have waiting : s.control ≠ .waiting := by
      rcases leaving with ⟨error, rest, control⟩ | control | control <;> simp [control]
    have dialling : s.control ≠ .dialling := by
      rcases leaving with ⟨error, rest, control⟩ | control | control <;> simp [control]
    obtain ⟨told, stays, quiet, -⟩ := next_closed closed waiting dialling returned
    rw [stays]
    exact ⟨⟨closed, empty, leaving⟩, quiet⟩

theorem shut_run {s : State} (h : Shut s) (events : List Event) :
    Shut (run s events) ∧ accepted (effects s events) = [] := by
  induction events generalizing s with
  | nil => exact ⟨h, rfl⟩
  | cons e events ih =>
    obtain ⟨shut, quiet⟩ := shut_next h e
    obtain ⟨later, silent⟩ := ih shut
    refine ⟨later, ?_⟩
    rw [effects, accepted_append, quiet, silent]
    rfl

theorem shut_of_close {s : State} (last : ClosesLast s) (control : s.control = .waiting)
    {cause : Option Error} (closing : s.commands.head? = some (.close cause)) :
    unread s = [] ∧ Shut (next s .receive).1 ∧ accepted (next s .receive).2 = [] := by
  obtain ⟨rest, channel⟩ := List.head?_eq_some_iff.mp closing
  obtain ⟨rfl, closed⟩ := last [] cause rest channel
  refine ⟨by rw [unread, channel]; rfl, ?_⟩
  simp only [next, if_pos control, onReceive, channel]
  exact shut_drain (s := { s with commands := [], job := none, queue := [] }) closed rfl cause _

end Closing

section Shutdown

variable {events : List Event} {e : Event} {error : Option Error}

theorem settled_at_shutdown (reports : .shutdown error ∈ (next (run initial events) e).2) :
    (next (run initial events) e).2 = [.shutdown error] ∧
      Gone (next (run initial events) e).1 ∧ Silent (next (run initial events) e).1 ∧
      accepted (effects initial events) =
        completed (effects initial events) ++ unread (run initial events) := by
  have shutdown : (next (run initial events) e).2.any Effect.isShutdown = true :=
    List.any_eq_true.mpr ⟨_, reports, rfl⟩
  cases account events with
  | gone gone silent =>
    rw [(gone_next gone silent e).2.2.2.2] at shutdown
    cases shutdown
  | on balance running tidy =>
    cases next_advances tidy e with
    | on _ still =>
      rw [still] at shutdown
      cases shutdown
    | gone cause report settled gone silent =>
      rw [report, List.mem_singleton] at reports
      cases reports
      refine ⟨report, gone, silent, ?_⟩
      rw [balance, settled, List.append_nil]

theorem quiet_after_shutdown (reports : .shutdown error ∈ (next (run initial events) e).2)
    (later : List Event) :
    accepted (effects initial (events ++ e :: later)) = accepted (effects initial events) ∧
      completed (effects initial (events ++ e :: later)) = completed (effects initial events) := by
  obtain ⟨report, gone, silent, -⟩ := settled_at_shutdown reports
  obtain ⟨accepts, completes, -⟩ := gone_effects gone silent later
  rw [effects_append, effects, report, accepted_append, accepted_append, completed_append,
    completed_append, accepts, completes]
  simp

theorem unread_after_close {cause : Option Error}
    (control : (run initial events).control = .waiting)
    (closing : (run initial events).commands.head? = some (.close cause)) (later : List Event) :
    unread (run initial (events ++ .receive :: later)) = [] ∧
      accepted (effects initial (events ++ .receive :: later)) =
        accepted (effects initial events) := by
  obtain ⟨-, shut, quiet⟩ := shut_of_close (closesLast_run events) control closing
  obtain ⟨shut, silent⟩ := shut_run shut later
  constructor
  · rw [run_append]
    change (run _ later).commands.filterMap _ = []
    rw [shut.commands]
    rfl
  · rw [effects_append, effects, accepted_append, accepted_append, quiet, silent]
    simp

end Shutdown

/-- The completions of a run are those of the first accepted requests, each once and in order. When
the shutdown is reported, every accepted request has been completed exactly if none is left unread
in the channel, and one that is left is never completed. If the task leaves its loop for a command
to close, none is left. -/
theorem requests_complete_unless_unread (events : List Event) :
    completed (effects initial events) <+: accepted (effects initial events) ∧
    (∀ e error, .shutdown error ∈ (next (run initial events) e).2 → ∀ later,
      accepted (effects initial (events ++ e :: later)) =
        completed (effects initial events) ++ unread (run initial events) ∧
      completed (effects initial (events ++ e :: later)) = completed (effects initial events) ∧
      ((∀ stream, (completed (effects initial events)).count stream =
          (accepted (effects initial (events ++ e :: later))).count stream) ↔
        unread (run initial events) = [])) ∧
    ∀ cause, (run initial events).control = .waiting →
      (run initial events).commands.head? = some (.close cause) →
      unread (run initial events) = [] ∧
      ∀ later, unread (run initial (events ++ .receive :: later)) = [] ∧
        accepted (effects initial (events ++ .receive :: later)) =
          accepted (effects initial events) := by
  refine ⟨(account events).first, ?_, ?_⟩
  · intro e error reports later
    obtain ⟨-, -, -, balance⟩ := settled_at_shutdown reports
    obtain ⟨accepts, completes⟩ := quiet_after_shutdown reports later
    rw [accepts, balance]
    refine ⟨rfl, completes, ?_⟩
    constructor
    · intro same
      have sums := List.perm_iff_count.mpr same
      have lengths := sums.length_eq
      rw [List.length_append] at lengths
      exact List.length_eq_zero_iff.mp (by omega)
    · intro empty stream
      rw [empty, List.append_nil]
  · intro cause control closing
    refine ⟨(shut_of_close (closesLast_run events) control closing).1, ?_⟩
    intro later
    exact unread_after_close control closing later

/-- The end of the driver can be seen before a request in the channel, and a completion at the end
may ask for another request. -/
theorem unread_requests_are_dropped :
    effects initial [.dialled, .returned, .request 0 none, .driverEnded none] =
        [.setup none, .accepted 0, .shutdown none] ∧
      effects initial [.dialled, .returned, .request 0 none, .receive, .request 1 none, .receive,
          .driverEnded none, .exchangeFailed .connectionClosed, .returned, .request 2 none,
          .returned] =
        [.setup none, .accepted 0, .exchange 0, .accepted 1,
          .callback 0 (.complete (some .connectionClosed)),
          .callback 1 (.complete (some .connectionClosed)), .accepted 2, .shutdown none] := by
  decide

theorem closing_leaves_nothing :
    let events : List Event := [.dialled, .returned, .request 0 none, .close none, .receive]
    let leaving := events ++ [.receive]
    (run initial events).control = .waiting ∧
      (run initial events).commands.head? = some (.close none) ∧
      .shutdown none ∈ (next (run initial leaving) .returned).2 ∧
      completed (effects initial leaving) = [0] ∧
      accepted (effects initial (leaving ++ [.returned, .request 1 none])) = [0] := by
  intro events leaving
  obtain ⟨-, -, closing⟩ := requests_complete_unless_unread events
  obtain ⟨-, empty⟩ := closing none (by decide) (by decide)
  obtain ⟨-, shutdown, -⟩ := requests_complete_unless_unread leaving
  obtain ⟨balance, -, -⟩ := shutdown .returned none (by decide) [.request 1 none]
  have unread_nil : unread (run initial leaving) = [] := (empty []).1
  refine ⟨by decide, by decide, by decide, by decide, ?_⟩
  rw [balance, unread_nil]
  decide

end WebSocketClient.Connection

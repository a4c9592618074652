import WebSocketClient.Proofs.Connection.Telling

/-! # The handler that takes over

The first handler that is accepted is run after the upgrade, and no other ever is. The slot is empty
again once the handler runs, so one more handler can be accepted then, which nothing will run. -/
namespace WebSocketClient.Connection

def Effect.installed? : Effect → Option HandlerId
  | installed handler => some handler
  | _ => none

def Effect.run? : Effect → Option HandlerId
  | run handler => some handler
  | _ => none

def installed (told : List Effect) : List HandlerId := told.filterMap Effect.installed?

def ran (told : List Effect) : List HandlerId := told.filterMap Effect.run?

/-- The handlers that are accepted after one has been run. -/
def late : List Effect → List HandlerId
  | [] => []
  | .run _ :: rest => installed rest
  | _ :: rest => late rest

section Histories

variable {told more : List Effect}

theorem installed_append (told more : List Effect) :
    installed (told ++ more) = installed told ++ installed more := List.filterMap_append ..

theorem ran_append (told more : List Effect) : ran (told ++ more) = ran told ++ ran more :=
  List.filterMap_append ..

theorem late_append (ran_some : ran told ≠ []) (more : List Effect) :
    late (told ++ more) = late told ++ installed more := by
  induction told with
  | nil => exact absurd rfl ran_some
  | cons effect told ih =>
    cases effect with
    | run handler => exact installed_append told more
    | _ => exact ih ran_some

theorem late_append_of_unrun (unrun : ran told = []) (more : List Effect) :
    late (told ++ more) = late more := by
  induction told with
  | nil => rfl
  | cons effect told ih =>
    cases effect with
    | run handler => cases unrun
    | _ => exact ih unrun

theorem refusals_install_nothing (refusals : ∀ effect ∈ told, effect.isRefusal = true) :
    installed told = [] ∧ ran told = [] :=
  ⟨filterMap_refusals (fun _ _ => rfl) (fun _ _ => rfl) refusals,
    filterMap_refusals (fun _ _ => rfl) (fun _ _ => rfl) refusals⟩

theorem drain_installs_nothing (s : State) (error : Option Error) (streams : List StreamId) :
    installed (drain s error streams).2 = [] ∧ ran (drain s error streams).2 = [] := by
  cases streams <;> exact ⟨rfl, rfl⟩

end Histories

/-- Where the accepted handlers are: run, dropped at the end, or in the slot. -/
structure Custody (s : State) (told : List Effect) (dropped : List HandlerId) : Prop where
  accepted : installed told = ran told ++ (dropped ++ s.slot.toList)
  later : ran told ≠ [] → late told = dropped ++ s.slot.toList
  single : (dropped ++ s.slot.toList).length ≤ 1
  shut : dropped ≠ [] → s.isOpen = false ∧ s.control ≠ .dialling
  fresh : s.upgraded = false → ran told = []
  once : (ran told).length ≤ 1

namespace Custody

variable {s t : State} {told more : List Effect} {dropped : List HandlerId}

/-- No handler is accepted or run. -/
theorem congr (h : Custody s told dropped) (nothing : installed more = []) (idle : ran more = [])
    (slot : t.slot = s.slot) (shut : dropped ≠ [] → t.isOpen = false ∧ t.control ≠ .dialling)
    (upgraded : t.upgraded = false → s.upgraded = false) : Custody t (told ++ more) dropped := by
  have same : ran (told ++ more) = ran told := by rw [ran_append, idle, List.append_nil]
  refine ⟨?_, ?_, slot ▸ h.single, shut, ?_, same ▸ h.once⟩
  · rw [installed_append, nothing, List.append_nil, same, slot]
    exact h.accepted
  · intro some
    rw [same] at some
    rw [late_append some, nothing, List.append_nil, slot]
    exact h.later some
  · intro before
    rw [same]
    exact h.fresh (upgraded before)

/-- A handler is accepted. -/
theorem installs (h : Custody s told dropped) (isOpen : s.isOpen = true) (empty : s.slot = none)
    (handler : HandlerId) :
    Custody { s with slot := some handler } (told ++ [.installed handler]) [] := by
  have kept : dropped = [] := by
    by_contra given
    have shut := (h.shut given).1
    simp [isOpen] at shut
  subst kept
  have same : ran (told ++ [.installed handler]) = ran told := by
    rw [ran_append]
    exact List.append_nil _
  have one : installed [.installed handler] = [handler] := rfl
  refine ⟨?_, ?_, by simp, nofun, ?_, same ▸ h.once⟩
  · rw [installed_append, h.accepted, empty, same, one]
    simp
  · intro some
    rw [same] at some
    rw [late_append some, h.later some, empty, one]
    rfl
  · rw [same]
    exact h.fresh

/-- The handler in the slot is run. -/
theorem runs (h : Custody s told dropped) (fresh : s.upgraded = false) {handler : HandlerId}
    (held : s.slot = some handler) (empty : t.slot = none) (upgraded : t.upgraded = true) :
    Custody t (told ++ [.run handler]) [] := by
  have unrun := h.fresh fresh
  have accepted := h.accepted
  have single := h.single
  have kept : dropped = [] := by
    simpa [held] using single
  have same : ran (told ++ [.run handler]) = [handler] := by
    rw [ran_append, unrun]
    rfl
  refine ⟨?_, ?_, by simp [empty], nofun, by simp [upgraded], by simp [same]⟩
  · rw [installed_append, accepted, unrun, same, kept, held, empty]
    rfl
  · intro _
    rw [late_append_of_unrun unrun, empty]
    rfl

/-- The end of the task drops the handler in the slot. -/
theorem tearsDown (h : Custody s told dropped) (nothing : installed more = [])
    (idle : ran more = []) (empty : t.slot = none) (shut : t.isOpen = false)
    (control : t.control ≠ .dialling) (upgraded : t.upgraded = s.upgraded) :
    Custody t (told ++ more) (dropped ++ s.slot.toList) := by
  have same : ran (told ++ more) = ran told := by rw [ran_append, idle, List.append_nil]
  refine ⟨?_, ?_, by simpa [empty] using h.single, fun _ => ⟨shut, control⟩, ?_, same ▸ h.once⟩
  · rw [installed_append, nothing, List.append_nil, same, empty, Option.toList_none,
      List.append_nil]
    exact h.accepted
  · intro some
    rw [same] at some
    rw [late_append some, nothing, List.append_nil, empty, Option.toList_none, List.append_nil]
    exact h.later some
  · rw [upgraded, same]
    exact h.fresh

theorem drains (h : Custody s told dropped) (error : Option Error) (streams : List StreamId)
    (slot : t.slot = s.slot) (isOpen : t.isOpen = s.isOpen) (upgraded : t.upgraded = s.upgraded) :
    ∃ dropped, Custody (drain t error streams).1 (told ++ (drain t error streams).2) dropped := by
  cases streams with
  | nil => exact ⟨_, h.tearsDown rfl rfl rfl rfl nofun upgraded⟩
  | cons stream rest =>
    have shut : dropped ≠ [] → t.isOpen = false ∧ Control.draining error rest ≠ .dialling :=
      fun given => ⟨isOpen.trans (h.shut given).1, nofun⟩
    exact ⟨dropped, h.congr rfl rfl slot shut upgraded.symm.trans⟩

theorem move {taken : List StreamId} (h : Custody s told dropped) (sender : Sender s)
    (move : Move s taken more t) : ∃ dropped, Custody t (told ++ more) dropped := by
  have elsewhere {control : Control} (later : control ≠ .dialling) :
      dropped ≠ [] → s.isOpen = false ∧ control ≠ .dialling :=
    fun given => ⟨(h.shut given).1, later⟩
  cases move with
  | refuses refusals =>
    obtain ⟨nothing, idle⟩ := refusals_install_nothing refusals
    exact ⟨dropped, h.congr nothing idle rfl h.shut id⟩
  | accepts | receives | driverEnds | starts => exact ⟨dropped, h.congr rfl rfl rfl h.shut id⟩
  | closes => exact ⟨dropped, h.congr rfl rfl rfl (fun given => ⟨rfl, (h.shut given).2⟩) id⟩
  | installs handler isOpen empty => exact ⟨[], h.installs isOpen empty handler⟩
  | opens dialling =>
    exact ⟨dropped, h.congr rfl rfl rfl (fun given => absurd dialling (h.shut given).2) id⟩
  | fails | enters | turns | switches | marks | calls | continues | returns | ends =>
    exact ⟨dropped, h.congr rfl rfl rfl (elsewhere nofun) id⟩
  | runs handler told installed =>
    obtain ⟨_, _, _, fresh⟩ := sender.of_delivering told
    exact ⟨[], h.runs fresh installed rfl rfl⟩
  | rests => exact ⟨dropped, h.congr rfl rfl rfl (elsewhere nofun) nofun⟩
  | leaves => exact h.drains _ _ rfl rfl rfl
  | drains => exact h.drains _ _ rfl rfl rfl

end Custody

theorem Script.announces {stage : Stage} {steps : List Delivery}
    (script : Script stage steps (.stage .upgrading)) : .status .switchingProtocols ∈ steps := by
  generalize announced : Resume.stage .upgrading = following at script
  cases script with
  | response status headers hasBody =>
    have switching : status = .switchingProtocols := by
      by_contra other
      simp [other] at announced
    subst switching
    simp [head]
  | body | failure | success => cases announced

theorem script_switches_nothing {stage : Stage} {steps : List Delivery} :
    ¬ Script stage steps (.exchanged true) := nofun

/-- What has been announced to the stream whose exchange switches protocols. -/
structure Switch (s : State) (told : List Effect) : Prop where
  announcing : ∀ {stream steps}, s.control = .delivering stream steps (.stage .upgrading) →
    .status .switchingProtocols ∈ steps ∨ .status stream .switchingProtocols ∈ told
  announced : ∀ {stream}, s.job = some (.exchanging stream .upgrading) →
    .status stream .switchingProtocols ∈ told
  completing : ∀ {stream steps}, s.control = .delivering stream steps (.exchanged true) →
    .status stream .switchingProtocols ∈ told ∧
      (steps = [.callback (.complete none)] ∨
        steps = [] ∧ (callbacks told).getLast? = some (stream, .complete none))

namespace Switch

variable {s t : State} {told more : List Effect}

/-- No stream is told anything. -/
theorem congr (h : Switch s told) (silent : callbacks more = []) (job : t.job = s.job)
    (control : t.control = s.control) : Switch t (told ++ more) := by
  refine ⟨?_, ?_, ?_⟩
  · intro stream steps telling
    rcases h.announcing (control ▸ telling) with later | before
    · exact .inl later
    · exact .inr (List.mem_append_left more before)
  · intro stream held
    exact List.mem_append_left more (h.announced (job ▸ held))
  · intro stream steps telling
    rw [callbacks_silent silent]
    obtain ⟨before, rest⟩ := h.completing (control ▸ telling)
    exact ⟨List.mem_append_left more before, rest⟩

/-- No stream is being told anything, and no other exchange is under way. -/
theorem quiet (h : Switch s told)
    (job : t.job = s.job ∨ ∀ stream, t.job ≠ some (.exchanging stream .upgrading))
    (control : ∀ stream steps following, t.control ≠ .delivering stream steps following) :
    Switch t (told ++ more) := by
  refine ⟨fun telling => absurd telling (control _ _ _), ?_,
    fun telling => absurd telling (control _ _ _)⟩
  intro stream held
  rcases job with same | other
  · exact List.mem_append_left more (h.announced (same ▸ held))
  · exact absurd held (other stream)

theorem drains (h : Switch s told) (error : Option Error) (streams : List StreamId)
    (job : t.job = s.job ∨ t.job = none) :
    Switch (drain t error streams).1 (told ++ (drain t error streams).2) := by
  obtain ⟨gone, same⟩ := drain_over t error streams
  refine h.quiet ?_ ?_
  · rw [same]
    rcases job with kept | free
    · exact .inl kept
    · exact .inr (by simp [free])
  · intro stream steps following telling
    simp [telling, Control.isOver] at gone

theorem move {taken : List StreamId} (h : Switch s told) (move : Move s taken more t) :
    Switch t (told ++ more) := by
  cases move with
  | refuses refusals => exact h.congr (refusals_silent refusals).2 rfl rfl
  | accepts | closes | installs | receives | driverEnds => exact h.congr rfl rfl rfl
  | fails | opens | enters | ends => exact h.quiet (.inl rfl) (by simp)
  | starts _ _ waiting => exact h.quiet (.inr (by simp)) (by simp [waiting])
  | returns | runs | rests => exact h.quiet (.inr (by simp)) (by simp)
  | turns waiting held script =>
    refine ⟨?_, fun held => List.mem_append_left [] (h.announced held), ?_⟩
    · intro stream steps telling
      cases telling
      exact .inl script.announces
    · intro stream steps telling
      cases telling
      exact absurd script script_switches_nothing
  | switches stream waiting held =>
    have before := List.mem_append_left [] (h.announced held)
    refine ⟨nofun, fun held => List.mem_append_left [] (h.announced held), ?_⟩
    intro stream steps telling
    cases telling
    exact ⟨before, .inl rfl⟩
  | marks telling =>
    refine ⟨?_, fun held => List.mem_append_left _ (h.announced held), ?_⟩
    · intro stream steps later
      cases later
      rcases h.announcing telling with here | before
      · rcases List.mem_cons.mp here with same | later
        · cases same
          exact .inr List.mem_concat_self
        · exact .inl later
      · exact .inr (List.mem_append_left _ before)
    · intro stream steps later
      cases later
      have steps := (h.completing telling).2
      simp at steps
  | calls telling =>
    refine ⟨?_, fun held => List.mem_append_left _ (h.announced held), ?_⟩
    · intro stream steps later
      cases later
      rcases h.announcing telling with here | before
      · rcases List.mem_cons.mp here with same | later
        · cases same
        · exact .inl later
      · exact .inr (List.mem_append_left _ before)
    · intro stream steps later
      cases later
      obtain ⟨before, steps⟩ := h.completing telling
      rcases steps with one | ⟨none, -⟩
      · cases one
        refine ⟨List.mem_append_left _ before, .inr ⟨rfl, ?_⟩⟩
        rw [callbacks_append]
        exact List.getLast?_concat
      · cases none
  | continues said =>
    refine ⟨nofun, ?_, nofun⟩
    intro stream held
    cases held
    rcases h.announcing said with here | before
    · cases here
    · exact List.mem_append_left _ before
  | leaves => exact h.drains _ _ (.inr rfl)
  | drains => exact h.drains _ _ (.inl rfl)

end Switch

section Runs

variable {s : State} {handler : HandlerId}

theorem proceed_runs_nothing : ran (proceed s).2 = [] := by
  rcases proceed_cases s with ⟨error, leaves⟩ | ⟨stream, rest, -, -, starts⟩ | waits
  · rw [leaves]
    exact (drain_installs_nothing _ _ _).2
  · rw [starts]
    rfl
  · rw [waits]
    rfl

/-- A handler is run when an upgraded exchange has told its stream everything. -/
theorem deliver_runs {stream : StreamId} {following : Resume} {steps : List Delivery}
    (mem : handler ∈ ran (deliver s stream following steps).2) :
    following = .exchanged true ∧ ∀ c, .callback c ∉ steps := by
  induction steps with
  | nil =>
    cases following with
    | stage stage => cases mem
    | exchanged upgraded =>
      cases upgraded with
      | false =>
        have nothing : ran (deliver s stream (.exchanged false) []).2 = [] := proceed_runs_nothing
        rw [nothing] at mem
        cases mem
      | true => exact ⟨rfl, fun c => List.not_mem_nil⟩
  | cons step rest ih =>
    cases step with
    | status status =>
      obtain ⟨upgraded, silent⟩ := ih mem
      refine ⟨upgraded, fun c called => ?_⟩
      rcases List.mem_cons.mp called with same | later
      · cases same
      · exact silent c later
    | callback c => cases mem

theorem user_runs_nothing (s : State) (e : Event) : ran (onUser s e).2 = [] := by
  unfold onUser
  repeat' split
  all_goals rfl

/-- What a job reports is told to its stream first. -/
theorem job_runs_nothing (s : State) (job : Job) (e : Event) : ran (onJob s job e).2 = [] := by
  cases job with
  | handling other =>
    cases e with
    | handlerEnded error => exact (drain_installs_nothing _ _ _).2
    | _ => rfl
  | exchanging stream stage => cases e <;> cases stage <;> rfl

theorem receive_runs_nothing (s : State) : ran (onReceive s).2 = [] := by
  unfold onReceive
  split
  · exact proceed_runs_nothing
  · exact (drain_installs_nothing _ _ _).2
  · rfl

/-- Only the return of a callback lets a handler run. -/
theorem next_runs {e : Event} (mem : handler ∈ ran (next s e).2) :
    e = .returned ∧ ∃ stream steps, s.control = .delivering stream steps (.exchanged true) ∧
      ∀ c, .callback c ∉ steps := by
  have absurd_of {told : List Effect} (nothing : ran told = []) (mem : handler ∈ ran told) :
      False := by
    rw [nothing] at mem
    cases mem
  cases e with
  | returned =>
    refine ⟨rfl, ?_⟩
    simp only [next, onReturned] at mem
    split at mem
    · exact (absurd_of proceed_runs_nothing mem).elim
    · rename_i stream steps following telling
      obtain ⟨rfl, silent⟩ := deliver_runs mem
      exact ⟨stream, steps, telling, silent⟩
    · exact (absurd_of (drain_installs_nothing _ _ _).2 mem).elim
    · cases mem
    · cases mem
  | request | close | install => exact (absurd_of (user_runs_nothing s _) mem).elim
  | _ =>
    simp only [next] at mem
    split at mem
    · first
        | exact (absurd_of (job_runs_nothing _ _ _) mem).elim
        | exact (absurd_of (receive_runs_nothing s) mem).elim
        | exact (absurd_of proceed_runs_nothing mem).elim
        | cases mem
    · cases mem

end Runs

theorem custody_run (events : List Event) :
    ∃ dropped, Custody (run initial events) (effects initial events) dropped := by
  have base : Custody initial [] [] :=
    ⟨rfl, fun given => absurd rfl given, Nat.zero_le 1, fun given => absurd rfl given, fun _ => rfl,
      Nat.zero_le 1⟩
  have kept := run_keeps (fun s _ told => Sender s ∧ ∃ dropped, Custody s told dropped)
    ⟨.back rfl rfl rfl (.inl rfl), [], base⟩ ?_ events
  · exact kept.2
  · intro s t taken told move before past ⟨sender, dropped, custody⟩
    exact ⟨sender.move move, custody.move sender move⟩

theorem switch_run (events : List Event) :
    Switch (run initial events) (effects initial events) := by
  have base : Switch initial [] := by
    constructor <;> simp [initial]
  exact run_keeps (fun s _ told => Switch s told) base (fun move _ _ switch => switch.move move)
    events

/-- A handler is refused while another is in its slot, and when the connection is not open. -/
theorem Custody.refuses {s : State} {told : List Effect} {dropped : List HandlerId}
    (h : Custody s told dropped) (unrun : ran told = []) (accepted : installed told ≠ [])
    (handler : HandlerId) :
    ∃ error, (error = .alreadyInstalled ∨ error = .shuttingDown) ∧
      next s (.install handler) = (s, [.notInstalled handler error]) := by
  simp only [next, onUser]
  by_cases shut : s.isOpen = false
  · rw [if_pos shut]
    exact ⟨_, .inr rfl, rfl⟩
  · have held : s.slot.isSome = true := by
      cases slot : s.slot with
      | some other => rfl
      | none =>
        have given : dropped ≠ [] := by
          simpa [h.accepted, unrun, slot] using accepted
        exact absurd (h.shut given).1 shut
    rw [if_neg shut, if_pos held]
    exact ⟨_, .inl rfl, rfl⟩

/-- Who gets the upgraded IO. The first handler that is accepted is run, when the completion of a
switch of protocols returns. Until then every other is refused, and afterwards one more may be
accepted, which is `late`. -/
structure SoleConsumer (events : List Event) : Prop where
  once : (ran (effects initial events)).length ≤ 1
  first : ran (effects initial events) <+: installed (effects initial events)
  single : ran (effects initial events) = [] → (installed (effects initial events)).length ≤ 1
  refused : ran (effects initial events) = [] → installed (effects initial events) ≠ [] →
    ∀ handler, ∃ error, (error = .alreadyInstalled ∨ error = .shuttingDown) ∧
      next (run initial events) (.install handler) =
        (run initial events, [.notInstalled handler error])
  afterwards : (late (effects initial events)).length ≤ 1
  exactly : (installed (effects initial events)).length ≤ 1 ↔ late (effects initial events) = []
  takeover : ∀ e handler, handler ∈ ran (next (run initial events) e).2 → e = .returned ∧
    ∃ stream, (run initial events).control = .delivering stream [] (.exchanged true) ∧
      .status stream .switchingProtocols ∈ effects initial events ∧
      (callbacks (effects initial events)).getLast? = some (stream, .complete none)

/-- At most one handler is ever run, and at most one is accepted unless one is offered late. -/
theorem sole_consumer_unless_late (events : List Event) : SoleConsumer events := by
  obtain ⟨dropped, custody⟩ := custody_run events
  have accepted := custody.accepted
  refine ⟨custody.once, ?_, ?_, custody.refuses, ?_, ?_, ?_⟩
  · rw [accepted]
    exact List.prefix_append ..
  · intro unrun
    rw [accepted, unrun]
    exact custody.single
  · by_cases unrun : ran (effects initial events) = []
    · have none := late_append_of_unrun unrun []
      rw [List.append_nil] at none
      simp [none, late]
    · rw [custody.later unrun]
      exact custody.single
  · by_cases unrun : ran (effects initial events) = []
    · have none := late_append_of_unrun unrun []
      rw [List.append_nil] at none
      rw [accepted, unrun, none]
      exact iff_of_true custody.single rfl
    · have one : (ran (effects initial events)).length = 1 :=
        Nat.le_antisymm custody.once (List.length_pos_iff.mpr unrun)
      rw [accepted, custody.later unrun, List.length_append, one, ← List.length_eq_zero_iff]
      omega
  · intro e handler mem
    obtain ⟨returned, stream, steps, telling, silent⟩ := next_runs mem
    obtain ⟨announced, one | ⟨rfl, last⟩⟩ := (switch_run events).completing telling
    · subst one
      exact absurd List.mem_cons_self (silent _)
    · exact ⟨returned, stream, telling, announced, last⟩

/-- A handler is installed while the switch of protocols completes. -/
theorem handler_takes_over :
    let events : List Event := [.dialled, .returned, .request 0 none, .receive,
      .responded .switchingProtocols [] false, .returned, .returned, .returned, .exchangeEnded,
      .install 5]
    5 ∈ ran (next (run initial events) .returned).2 ∧
      (∃ stream, (run initial events).control = .delivering stream [] (.exchanged true) ∧
        .status stream .switchingProtocols ∈ effects initial events ∧
        (callbacks (effects initial events)).getLast? = some (stream, .complete none)) ∧
      ∃ error, (error = .alreadyInstalled ∨ error = .shuttingDown) ∧
        next (run initial events) (.install 6) =
          (run initial events, [.notInstalled 6 error]) := by
  intro events
  have sole := sole_consumer_unless_late events
  have runs : 5 ∈ ran (next (run initial events) .returned).2 := by decide
  exact ⟨runs, (sole.takeover .returned 5 runs).2, sole.refused (by decide) (by decide) 6⟩

/-- Once the first handler runs, another is accepted, and nothing runs it. -/
theorem late_handler_is_accepted :
    let events : List Event := [.dialled, .returned, .request 0 none, .receive,
      .responded .switchingProtocols [] false, .returned, .returned, .returned, .exchangeEnded,
      .install 5, .returned, .install 6]
    ¬ (installed (effects initial events)).length ≤ 1 ∧ (run initial events).isOpen = true ∧
      ran (effects initial events) = [5] := by
  decide

end WebSocketClient.Connection

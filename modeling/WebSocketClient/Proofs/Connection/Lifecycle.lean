import Mathlib.Logic.Function.Basic
import WebSocketClient.Framing.Handler
import WebSocketClient.Proofs.Connection.Moves
import WebSocketClient.Proofs.Handshake.Contract

/-! # What the listener of a connection is told

The listener is told of the setup before the task does anything else, and of the shutdown after all
else. The task drives its handler too, so the frame callbacks belong to the account. -/
namespace WebSocketClient.Connection

/-- A task, and the handlers that may be installed on its channel. -/
structure Host where
  task : State
  handlers : HandlerId → Framing.Handler

/-- The answers to calls of the user. All else is the doing of the task. -/
def Effect.isAnswer : Effect → Bool
  | accepted _ | refused .. | installed _ | notInstalled .. => true
  | _ => false

theorem Effect.isAnswer_of_isRefusal {effect : Effect} (refusal : effect.isRefusal = true) :
    effect.isAnswer = true := by
  cases effect with
  | refused | notInstalled => rfl
  | _ => cases refusal

def Control.isLive : Control → Bool
  | settingUp | waiting | delivering .. | draining .. => true
  | _ => false

/-- Nothing can be asked of the connection any more, or yet. -/
structure Vacant (s : State) : Prop where
  isOpen : s.isOpen = false
  slot : s.slot = none

namespace Host

inductive Act
  | event (e : Event)
  | handle (input : Framing.Input)

inductive Entry
  | told (effect : Effect)
  | frame (handler : HandlerId) (call : Framing.Call)
deriving DecidableEq

namespace Entry

def isDriven : Entry → Bool
  | told effect => !effect.isAnswer
  | frame .. => true

def isSetup : Entry → Bool
  | told (.setup _) => true
  | _ => false

def isShutdown : Entry → Bool
  | told (.shutdown _) => true
  | _ => false

/-- What an attempt hears: its connection, and of its streams the headers and the completion. -/
def heard? : Entry → Option Effect
  | told (.setup error) => some (.setup error)
  | told (.shutdown error) => some (.shutdown error)
  | told (.callback stream (.headers headers)) => some (.callback stream (.headers headers))
  | told (.callback stream (.complete error)) => some (.callback stream (.complete error))
  | _ => none

end Entry

theorem Entry.isDriven_of_isSetup {entry : Entry} (setup : entry.isSetup = true) :
    entry.isDriven = true := by
  unfold isSetup at setup
  split at setup
  · rfl
  · cases setup

theorem Entry.isDriven_of_isShutdown {entry : Entry} (shutdown : entry.isShutdown = true) :
    entry.isDriven = true := by
  unfold isShutdown at shutdown
  split at shutdown
  · rfl
  · cases shutdown

def driven (entries : List Entry) : List Entry := entries.filter Entry.isDriven

def heard (entries : List Entry) : List Effect := entries.filterMap Entry.heard?

def next (h : Host) : Act → Host × List Entry
  | .event e =>
    let (after, told) := Connection.next h.task e
    ({ h with task := after }, told.map .told)
  | .handle input =>
    match h.task.control, h.task.job with
    | .waiting, some (.handling handler) =>
      let (after, calls) := (h.handlers handler).next input
      ({ h with handlers := Function.update h.handlers handler after },
        calls.map (.frame handler))
    | _, _ => (h, [])

def run (h : Host) (acts : List Act) : Host := acts.foldl (fun h act => (h.next act).1) h

def entries (h : Host) : List Act → List Entry
  | [] => []
  | act :: rest => (h.next act).2 ++ entries (h.next act).1 rest

theorem run_concat (h : Host) (acts : List Act) (act : Act) :
    h.run (acts ++ [act]) = ((h.run acts).next act).1 := List.foldl_append

theorem entries_concat (h : Host) (acts : List Act) (act : Act) :
    h.entries (acts ++ [act]) = h.entries acts ++ ((h.run acts).next act).2 := by
  induction acts generalizing h with
  | nil => simp [entries, run]
  | cons first rest ih => simp only [List.cons_append, entries, ih, List.append_assoc]; rfl

section Driven

variable {told more : List Entry}

theorem driven_append (told more : List Entry) :
    driven (told ++ more) = driven told ++ driven more := List.filter_append ..

theorem driven_answers {effects : List Effect}
    (answers : ∀ effect ∈ effects, effect.isAnswer = true) : driven (effects.map .told) = [] := by
  apply List.filter_eq_nil_iff.mpr
  intro entry mem
  obtain ⟨effect, answer, rfl⟩ := List.mem_map.mp mem
  simp [Entry.isDriven, answers effect answer]

/-- What only the task does is counted in either list. -/
theorem countP_driven {p : Entry → Bool}
    (task : ∀ {entry}, p entry = true → entry.isDriven = true)
    (told : List Entry) : (driven told).countP p = told.countP p := by
  rw [driven, List.countP_filter]
  apply List.countP_congr
  intro entry _
  simp only [Bool.and_eq_true]
  exact and_iff_left_of_imp task

theorem heard_driven (told : List Entry) : heard (driven told) = heard told := by
  rw [heard, driven, List.filterMap_filter, heard]
  congr
  funext entry
  cases entry with
  | told effect => cases effect <;> rfl
  | frame handler call => rfl

end Driven

/-- How far a connection has come, by what its task has done. -/
inductive Lifetime (s : State) (told : List Entry) : Prop
  | dialling (control : s.control = .dialling) (vacant : Vacant s) (report : driven told = [])
  | failed (error : Error) (control : s.control = .ended) (vacant : Vacant s)
      (report : driven told = [.told (.setup (some error))])
  | live (middle : List Entry) (control : s.control.isLive = true)
      (plain : ∀ entry ∈ middle, entry.isSetup = false ∧ entry.isShutdown = false)
      (report : driven told = .told (.setup none) :: middle)
  | gone (middle : List Entry) (error : Option Error) (control : Gone s) (vacant : Vacant s)
      (plain : ∀ entry ∈ middle, entry.isSetup = false ∧ entry.isShutdown = false)
      (report : driven told = .told (.setup none) :: middle ++ [.told (.shutdown error)])

namespace Lifetime

variable {s t : State} {told : List Entry} {effects : List Effect}

/-- The task stays where it is, and only answers. -/
theorem congr (h : Lifetime s told) (control : t.control = s.control)
    (vacant : Vacant s → Vacant t) (answers : ∀ effect ∈ effects, effect.isAnswer = true) :
    Lifetime t (told ++ effects.map .told) := by
  have same : driven (told ++ effects.map .told) = driven told := by
    rw [driven_append, driven_answers answers, List.append_nil]
  cases h with
  | dialling stands empty report =>
    exact .dialling (control.trans stands) (vacant empty) (same.trans report)
  | failed error stands empty report =>
    exact .failed error (control.trans stands) (vacant empty) (same.trans report)
  | live middle stands plain report =>
    exact .live middle (control ▸ stands) plain (same.trans report)
  | gone middle error stands empty plain report =>
    exact .gone middle error (stands.imp control.trans control.trans) (vacant empty) plain
      (same.trans report)

theorem of_live (h : Lifetime s told) (live : s.control.isLive = true) :
    ∃ middle, (∀ entry ∈ middle, entry.isSetup = false ∧ entry.isShutdown = false) ∧
      driven told = .told (.setup none) :: middle := by
  cases h with
  | dialling control => simp [control, Control.isLive] at live
  | failed _ control => simp [control, Control.isLive] at live
  | live middle _ plain report => exact ⟨middle, plain, report⟩
  | gone _ _ control =>
    rcases control with control | control <;> simp [control, Control.isLive] at live

theorem of_dialling (h : Lifetime s told) (dialling : s.control = .dialling) :
    Vacant s ∧ driven told = [] := by
  cases h with
  | dialling _ vacant report => exact ⟨vacant, report⟩
  | failed _ control => simp [dialling] at control
  | live _ control => simp [dialling, Control.isLive] at control
  | gone _ _ control => rcases control with control | control <;> simp [dialling] at control

/-- The task goes on, and tells the listener nothing. -/
theorem goes (h : Lifetime s told) (live : s.control.isLive = true)
    (later : t.control.isLive = true) {more : List Entry}
    (plain : ∀ entry ∈ more, entry.isSetup = false ∧ entry.isShutdown = false) :
    Lifetime t (told ++ more) := by
  obtain ⟨middle, before, report⟩ := h.of_live live
  refine .live (middle ++ driven more) later ?_ ?_
  · intro entry mem
    rcases List.mem_append.mp mem with old | new
    · exact before entry old
    · exact plain entry (List.mem_filter.mp new).1
  · rw [driven_append, report, List.cons_append]

theorem drains (h : Lifetime s told) (live : s.control.isLive = true) (error : Option Error)
    (streams : List StreamId) :
    Lifetime (drain t error streams).1 (told ++ (drain t error streams).2.map .told) := by
  cases streams with
  | nil =>
    obtain ⟨middle, plain, report⟩ := h.of_live live
    refine .gone middle error (.inl rfl) ⟨rfl, rfl⟩ plain ?_
    rw [driven_append, report]
    rfl
  | cons stream rest => exact h.goes live rfl (by simp [drain, Entry.isSetup, Entry.isShutdown])

theorem move {taken : List StreamId} (h : Lifetime s told) (move : Move s taken effects t) :
    Lifetime t (told ++ effects.map .told) := by
  cases move with
  | refuses refusals =>
    exact h.congr rfl id fun effect mem => Effect.isAnswer_of_isRefusal (refusals effect mem)
  | accepts | receives | driverEnds =>
    exact h.congr rfl (fun vacant => ⟨vacant.isOpen, vacant.slot⟩) (by simp [Effect.isAnswer])
  | closes => exact h.congr rfl (fun vacant => ⟨rfl, vacant.slot⟩) (by simp)
  | installs handler isOpen empty =>
    refine h.congr rfl (fun vacant => ?_) (by simp [Effect.isAnswer])
    have shut := vacant.isOpen
    simp [isOpen] at shut
  | fails error dialling =>
    obtain ⟨vacant, report⟩ := h.of_dialling dialling
    refine .failed error rfl ⟨vacant.isOpen, vacant.slot⟩ ?_
    rw [driven_append, report]
    rfl
  | opens dialling =>
    obtain ⟨-, report⟩ := h.of_dialling dialling
    refine .live [] rfl (by simp) ?_
    rw [driven_append, report]
    rfl
  | enters stands | turns stands | switches _ stands | marks stands | calls stands
  | continues stands | returns stands | runs _ stands | rests stands =>
    exact h.goes (by simp [stands, Control.isLive]) rfl (by simp [Entry.isSetup, Entry.isShutdown])
  | starts _ _ stands =>
    exact h.goes (by simp [stands, Control.isLive]) (by simp [stands, Control.isLive])
      (by simp [Entry.isSetup, Entry.isShutdown])
  | leaves stands => exact h.drains (by simp [stands, Control.isLive]) _ _
  | drains stands => exact h.drains (by simp [stands, Control.isLive]) _ _
  | ends stands =>
    cases h with
    | dialling control => simp [stands] at control
    | failed _ control => simp [stands] at control
    | live _ control => simp [stands, Control.isLive] at control
    | gone middle error _ vacant plain report =>
      refine .gone middle error (.inr rfl) ⟨vacant.isOpen, vacant.slot⟩ plain ?_
      rw [List.map_nil, List.append_nil, report]

/-- Every event, and every input of the handler that the task drives. -/
theorem act {h : Host} (lifetime : Lifetime h.task told) (act : Act) :
    Lifetime (h.next act).1.task (told ++ (h.next act).2) := by
  cases act with
  | event e =>
    let Holds (s : State) (_ : List StreamId) (more : List Effect) : Prop :=
      Lifetime s (told ++ more.map .told)
    have base : Holds h.task [] [] := by simpa [Holds] using lifetime
    refine (next_path h.task e).keeps Holds ?_ [] [] base
    intro s t taken effects move before past holds
    have moved := holds.move move
    rwa [List.append_assoc, ← List.map_append] at moved
  | handle input =>
    simp only [Host.next]
    split
    · rename_i handler waiting job
      have live : h.task.control.isLive = true := by simp [waiting, Control.isLive]
      refine lifetime.goes live live ?_
      simp [Entry.isSetup, Entry.isShutdown]
    · simpa using lifetime

end Lifetime

theorem lifetime_run (handlers : HandlerId → Framing.Handler) (acts : List Act) :
    Lifetime ((Host.mk initial handlers).run acts).task
      ((Host.mk initial handlers).entries acts) := by
  induction acts using List.reverseRecOn with
  | nil => exact .dialling rfl ⟨rfl, rfl⟩ rfl
  | append_singleton acts act ih =>
    rw [run_concat, entries_concat]
    exact ih.act act

/-- What a call on the listener or on a stream is to an attempt. The streams know their status, and
the collaborators of the attempt reply as they like. -/
inductive Hears : Effect → Handshake.Event → Prop
  | connected (connection : Handshake.ConnectionId) (reply : Handshake.RequestReply) :
      Hears (.setup none) (.connected connection reply)
  | connectFailed (error : Error) : Hears (.setup (some error)) (.connectFailed error)
  | headers (stream : StreamId) (batch : List Header) (status : Option Status) :
      Hears (.callback stream (.headers batch)) (.headers stream status batch)
  | completed (stream : StreamId) (error : Option Error) (status : Option Status)
      (channel : Option ChannelId) (reply : Handshake.HandlerReply) :
      Hears (.callback stream (.complete error))
        (.completed stream status error channel reply)
  | shutDown (error : Option Error) : Hears (.shutdown error) (.shutDown error)

theorem Hears.of_stream {stream : StreamId} {c : Stream.Callback} {event : Handshake.Event}
    (hears : Hears (.callback stream c) event) (life : Handshake.Life) :
    life.next? event = some life := by
  cases hears <;> cases life <;> rfl

/-- The streams may call at any time. -/
theorem follow?_streams {calls rest : List Effect}
    (streams : ∀ effect ∈ calls, ∃ stream c, effect = .callback stream c)
    {events : List Handshake.Event} (hears : List.Forall₂ Hears (calls ++ rest) events)
    (life : Handshake.Life) :
    ∃ later, List.Forall₂ Hears rest later ∧ life.follow? events = life.follow? later := by
  induction calls generalizing events with
  | nil => exact ⟨events, hears, rfl⟩
  | cons call calls ih =>
    obtain ⟨stream, c, rfl⟩ := streams call List.mem_cons_self
    cases hears with
    | cons first others =>
      obtain ⟨later, matched, same⟩ :=
        ih (fun effect mem => streams effect (List.mem_cons_of_mem _ mem)) others
      refine ⟨later, matched, ?_⟩
      rw [Handshake.Life.follow?, first.of_stream life]
      exact same

theorem heard_plain {middle : List Entry}
    (plain : ∀ entry ∈ middle, entry.isSetup = false ∧ entry.isShutdown = false) :
    ∀ effect ∈ heard middle, ∃ stream c, effect = .callback stream c := by
  intro effect mem
  obtain ⟨entry, within, hears⟩ := List.mem_filterMap.mp mem
  obtain ⟨noSetup, noShutdown⟩ := plain entry within
  unfold Entry.heard? at hears
  split at hears
  · cases noSetup
  · cases noShutdown
  · exact ⟨_, _, (Option.some.inj hears).symm⟩
  · exact ⟨_, _, (Option.some.inj hears).symm⟩
  · cases hears

theorem Lifetime.contract {s : State} {told : List Entry} (h : Lifetime s told)
    {events : List Handshake.Event} (hears : List.Forall₂ Hears (heard told) events) :
    Handshake.KeepsContract events := by
  rw [← heard_driven] at hears
  cases h with
  | dialling _ _ report =>
    rw [report] at hears
    cases hears
    rfl
  | failed error _ _ report =>
    rw [report] at hears
    obtain _ | ⟨first, rest⟩ := hears
    cases first
    cases rest
    rfl
  | live middle _ plain report =>
    have split : heard (driven told) = .setup none :: (heard middle ++ []) := by
      rw [report, List.append_nil]
      rfl
    rw [split] at hears
    obtain _ | ⟨first, rest⟩ := hears
    cases first
    obtain ⟨later, matched, same⟩ := follow?_streams (heard_plain plain) rest .live
    cases matched
    exact congrArg Option.isSome same
  | gone middle error _ _ plain report =>
    have split : heard (driven told) = .setup none :: (heard middle ++ [.shutdown error]) := by
      rw [report]
      simp [heard, Entry.heard?]
    rw [split] at hears
    obtain _ | ⟨first, rest⟩ := hears
    cases first
    obtain ⟨later, matched, same⟩ := follow?_streams (heard_plain plain) rest .live
    obtain _ | ⟨last, nothing⟩ := matched
    cases last
    cases nothing
    exact congrArg Option.isSome same

section Reports

variable {s : State} {told : List Entry}

theorem countP_plain {p : Entry → Bool} {middle : List Entry}
    (plain : ∀ entry ∈ middle, p entry = false) : middle.countP p = 0 :=
  List.countP_eq_zero.mpr fun entry mem => by simp [plain entry mem]

theorem setup_not_plain {middle : List Entry}
    (plain : ∀ entry ∈ middle, entry.isSetup = false ∧ entry.isShutdown = false)
    (error : Option Error) : .told (.setup error) ∉ middle :=
  fun mem => Bool.noConfusion (plain _ mem).1

theorem shutdown_not_plain {middle : List Entry}
    (plain : ∀ entry ∈ middle, entry.isSetup = false ∧ entry.isShutdown = false)
    (error : Option Error) : .told (.shutdown error) ∉ middle :=
  fun mem => Bool.noConfusion (plain _ mem).2

theorem mem_driven {effect : Effect} (task : effect.isAnswer = false) :
    .told effect ∈ driven told ↔ .told effect ∈ told := by
  simp [driven, Entry.isDriven, task]

theorem Lifetime.setups (h : Lifetime s told) :
    told.countP Entry.isSetup = if s.control = .dialling then 0 else 1 := by
  rw [← countP_driven @Entry.isDriven_of_isSetup]
  cases h with
  | dialling control _ report => simp [report, control]
  | failed error control _ report => simp [report, control, Entry.isSetup]
  | live middle control plain report =>
    have elsewhere : s.control ≠ .dialling := by
      rintro dialling
      simp [dialling, Control.isLive] at control
    rw [report, List.countP_cons, countP_plain fun entry mem => (plain entry mem).1]
    simp [elsewhere, Entry.isSetup]
  | gone middle error control _ plain report =>
    have elsewhere : s.control ≠ .dialling := by
      rcases control with control | control <;> simp [control]
    rw [report, List.countP_append, List.countP_cons,
      countP_plain fun entry mem => (plain entry mem).1]
    simp [elsewhere, Entry.isSetup]

theorem Lifetime.shutdowns (h : Lifetime s told) : told.countP Entry.isShutdown ≤ 1 := by
  rw [← countP_driven @Entry.isDriven_of_isShutdown]
  cases h with
  | dialling _ _ report => simp [report]
  | failed error _ _ report => simp [report, Entry.isShutdown]
  | live middle _ plain report =>
    rw [report, List.countP_cons, countP_plain fun entry mem => (plain entry mem).2]
    simp [Entry.isShutdown]
  | gone middle error _ _ plain report =>
    rw [report, List.countP_append, List.countP_cons,
      countP_plain fun entry mem => (plain entry mem).2]
    simp [Entry.isShutdown]

theorem Lifetime.first (h : Lifetime s told) :
    ∀ entry ∈ (driven told).head?, entry.isSetup = true := by
  cases h with
  | dialling _ _ report => simp [report]
  | failed error _ _ report => simp [report, Entry.isSetup]
  | live middle _ _ report => simp [report, Entry.isSetup]
  | gone middle error _ _ _ report => simp [report, Entry.isSetup]

theorem Lifetime.refused (h : Lifetime s told) {error : Error}
    (failed : .told (.setup (some error)) ∈ told) :
    driven told = [.told (.setup (some error))] := by
  rw [← mem_driven rfl] at failed
  cases h with
  | dialling _ _ report => simp [report] at failed
  | failed other _ _ report =>
    rw [report, List.mem_singleton] at failed
    rw [report, failed]
  | live middle _ plain report => simp [report, setup_not_plain plain] at failed
  | gone middle other _ _ plain report => simp [report, setup_not_plain plain] at failed

/-- The task of a connection ends with the shutdown. -/
theorem Lifetime.ends (h : Lifetime s told) (opened : .told (.setup none) ∈ told)
    (ended : s.control = .ended) :
    ∃ error, (driven told).getLast? = some (.told (.shutdown error)) := by
  rw [← mem_driven rfl] at opened
  cases h with
  | dialling control => simp [ended] at control
  | failed other _ _ report => simp [report] at opened
  | live middle control => simp [ended, Control.isLive] at control
  | gone middle error _ _ _ report =>
    refine ⟨error, ?_⟩
    rw [report]
    exact List.getLast?_concat

/-- Once the shutdown has been told, the task is over. -/
theorem Lifetime.of_shutdown (h : Lifetime s told) {error : Option Error}
    (shutdown : .told (.shutdown error) ∈ told) :
    Vacant s ∧ ∃ first, driven told = first ++ [.told (.shutdown error)] ∧
      .told (.shutdown error) ∉ first := by
  rw [← mem_driven rfl] at shutdown
  cases h with
  | dialling _ _ report => simp [report] at shutdown
  | failed other _ _ report => simp [report] at shutdown
  | live middle _ plain report => simp [report, shutdown_not_plain plain] at shutdown
  | gone middle other _ vacant plain report =>
    have same : error = other := by
      simpa [report, shutdown_not_plain plain] using shutdown
    subst same
    exact ⟨vacant, _, report, by simp [shutdown_not_plain plain]⟩

theorem Lifetime.last (h : Lifetime s told) {before after : List Entry} {error : Option Error}
    (split : told = before ++ .told (.shutdown error) :: after) : driven after = [] := by
  have shutdown : .told (.shutdown error) ∈ told := by simp [split]
  obtain ⟨-, first, report, once⟩ := h.of_shutdown shutdown
  have parts : driven told = driven before ++ .told (.shutdown error) :: driven after := by
    rw [split, driven_append]
    rfl
  rw [report] at parts
  rcases List.eq_nil_or_concat (driven after) with nothing | ⟨others, entry, some⟩
  · exact nothing
  · rw [some, List.concat_eq_append, ← List.cons_append, ← List.append_assoc] at parts
    have earlier := (List.append_inj' parts rfl).1
    exact absurd (by simp [earlier]) once

/-- No call of the user is answered with a callback. -/
theorem calls_drive_nothing (h : Host) {e : Event} (user : e.isOutside = true)
    (called : e ≠ .dialled) : driven (h.next (.event e)).2 = [] := by
  have answers : ∀ effect ∈ (onUser h.task e).2, effect.isAnswer = true := by
    unfold onUser
    repeat' split
    all_goals simp [Effect.isAnswer]
  have user_next : Connection.next h.task e = onUser h.task e := by
    cases e with
    | request | close | install => rfl
    | dialled => exact absurd rfl called
    | _ => cases user
  simp only [next, user_next]
  exact driven_answers answers

end Reports

/-- What a listener may rely on: setup once and before all else, shutdown at most once and after all
else, on a connection that is closed by then. No call of the user is answered with a callback. -/
structure KeepsListener (h : Host) (acts : List Act) : Prop where
  setup : (h.entries acts).countP Entry.isSetup =
    if (h.run acts).task.control = .dialling then 0 else 1
  first : ∀ entry ∈ (driven (h.entries acts)).head?, entry.isSetup = true
  shutdown : (h.entries acts).countP Entry.isShutdown ≤ 1
  refused : ∀ error, .told (.setup (some error)) ∈ h.entries acts →
    driven (h.entries acts) = [.told (.setup (some error))]
  ends : .told (.setup none) ∈ h.entries acts → (h.run acts).task.control = .ended →
    ∃ error, (driven (h.entries acts)).getLast? = some (.told (.shutdown error))
  last : ∀ before error after, h.entries acts = before ++ .told (.shutdown error) :: after →
    driven after = []
  closed : ∀ error, .told (.shutdown error) ∈ h.entries acts →
    (h.run acts).task.isOpen = false ∧ (h.run acts).task.slot = none
  apart : ∀ e : Event, e.isOutside = true → e ≠ .dialled →
    driven ((h.run acts).next (.event e)).2 = []
  contract : ∀ events, List.Forall₂ Hears (heard (h.entries acts)) events →
    Handshake.KeepsContract events

/-- A connection keeps the contract with its listener, whatever its handlers do. -/
theorem listener_contract_kept (handlers : HandlerId → Framing.Handler) (acts : List Act) :
    KeepsListener ⟨initial, handlers⟩ acts := by
  have lifetime := lifetime_run handlers acts
  exact {
    setup := lifetime.setups
    first := lifetime.first
    shutdown := lifetime.shutdowns
    refused := fun error => lifetime.refused
    ends := lifetime.ends
    last := fun before error after => lifetime.last
    closed := fun error shutdown =>
      have vacant := (lifetime.of_shutdown shutdown).1
      ⟨vacant.isOpen, vacant.slot⟩
    apart := fun e => calls_drive_nothing _
    contract := fun events => lifetime.contract }

def framedActs : List Act :=
  [.event .dialled, .event .returned, .event (.request 0 none), .event .receive,
    .event (.responded .switchingProtocols [] false), .event .returned, .event .returned,
    .event .returned, .event .exchangeEnded, .event (.install 5), .event .returned, .handle .turn,
    .handle (.read [129, 0]), .handle .turn, .event (.close none), .event .receive,
    .event .returned]

def framedHost : Host := ⟨initial, fun _ => .initial 16 false true⟩

theorem frames_come_before_shutdown :
    .frame 5 (.event (.begin ⟨.text, true, 0⟩)) ∈ framedHost.entries framedActs ∧
      (∃ error, (driven (framedHost.entries framedActs)).getLast? =
        some (.told (.shutdown error))) ∧
      (framedHost.run framedActs).task.isOpen = false ∧
      Handshake.KeepsContract [.connected 0 (.accepted 0), .headers 0 none [],
        .completed 0 (some .switchingProtocols) none (some 0) (.installed 0), .shutDown none] := by
  have kept : KeepsListener framedHost framedActs :=
    listener_contract_kept (fun _ => .initial 16 false true) framedActs
  have hears : heard (framedHost.entries framedActs) = [.setup none, .callback 0 (.headers []),
      .callback 0 (.complete none), .shutdown none] := by decide
  refine ⟨by decide, kept.ends (by decide) (by decide), (kept.closed none (by decide)).1, ?_⟩
  apply kept.contract
  rw [hears]
  exact .cons (.connected 0 _) (.cons (.headers 0 [] _) (.cons (.completed 0 none _ _ _)
    (.cons (.shutDown none) .nil)))

end Host

end WebSocketClient.Connection

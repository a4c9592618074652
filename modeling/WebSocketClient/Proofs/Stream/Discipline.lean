import Mathlib.Data.List.Induction
import WebSocketClient.Stream

/-! # What the listener of a stream is called with

A call that is made while a callback runs reaches nobody, however deeply callbacks and calls are
nested. So a stream calls its listener with whatever is asked for between its callbacks, one
callback at a time, up to the completion. -/
namespace WebSocketClient.Stream

def upToCompletion : List Callback → List Callback
  | [] => []
  | c :: rest => if c.isComplete then [c] else c :: upToCompletion rest

/-- What is selected from each event of a run and the state in which it happens. -/
def gather (select : State → Event → Option Callback) (s : State) : List Event → List Callback
  | [] => []
  | e :: rest => (select s e).toList ++ gather select (next s e).1 rest

def outside? (s : State) : Event → Option Callback
  | .call c => if s.running = [] then some c else none
  | _ => none

/-- A completion whose caller is told that it reached the listener. -/
def granted? (s : State) : Event → Option Callback
  | .call c => if s.answer c = .truth true then some c else none
  | _ => none

section Completion

variable {calls rest : List Callback}

theorem upToCompletion_append (pending : ∀ c ∈ calls, c.isComplete = false) :
    upToCompletion (calls ++ rest) = calls ++ upToCompletion rest := by
  induction calls with
  | nil => rfl
  | cons c calls ih =>
    have now := pending c List.mem_cons_self
    have later := ih fun d mem => pending d (List.mem_cons_of_mem c mem)
    simp [upToCompletion, now, later]

theorem upToCompletion_pending (pending : ∀ c ∈ upToCompletion calls, c.isComplete = false) :
    upToCompletion calls = calls := by
  induction calls with
  | nil => rfl
  | cons c calls ih =>
    by_cases complete : c.isComplete = true
    · have now := pending c (by simp [upToCompletion, complete])
      rw [complete] at now
      cases now
    · simp only [upToCompletion, if_neg complete] at pending ⊢
      rw [ih fun d mem => pending d (List.mem_cons_of_mem c mem)]

theorem upToCompletion_over {c : Callback} (mem : c ∈ upToCompletion calls)
    (complete : c.isComplete = true) :
    upToCompletion (calls ++ rest) = upToCompletion calls := by
  induction calls with
  | nil => cases mem
  | cons d calls ih =>
    by_cases last : d.isComplete = true
    · simp [upToCompletion, last]
    · simp only [upToCompletion, List.cons_append, if_neg last, List.mem_cons] at mem ⊢
      rcases mem with rfl | mem
      · exact absurd complete last
      · rw [ih mem]

end Completion

theorem run_append (s : State) (first rest : List Event) :
    run s (first ++ rest) = run (run s first) rest := List.foldl_append

theorem gather_append (select : State → Event → Option Callback) (s : State)
    (first rest : List Event) :
    gather select s (first ++ rest) =
      gather select s first ++ gather select (run s first) rest := by
  induction first generalizing s with
  | nil => rfl
  | cons e first ih => simp only [List.cons_append, gather, ih, List.append_assoc]; rfl

theorem callbacks_eq_gather (s : State) (events : List Event) :
    callbacks s events = gather (fun s e => (next s e).2) s events := by
  induction events generalizing s with
  | nil => rfl
  | cons e events ih => rw [callbacks, gather, ih]

theorem callbacks_append (s : State) (first rest : List Event) :
    callbacks s (first ++ rest) = callbacks s first ++ callbacks (run s first) rest := by
  simp only [callbacks_eq_gather, gather_append]

theorem next_call_listening {s : State} (slot : s.listening = true) (c : Callback) :
    next s (.call c) = (invoke s c, some c) := by
  simp [next, slot]

theorem next_call_shut {s : State} (slot : s.listening = false) (c : Callback) :
    next s (.call c) = (s, none) := by
  simp [next, slot]

inductive Stage (s : State) : List Callback → Prop
  | waiting {told} (slot : s.listening = true) (idle : s.running = [])
      (pending : ∀ c ∈ told, c.isComplete = false) : Stage s told
  | busy {told c} (slot : s.listening = false) (running : s.running = [c])
      (pending : ∀ d ∈ told, d.isComplete = false) : Stage s (told ++ [c])
  | done {told c} (slot : s.listening = false) (idle : s.running = [])
      (complete : c.isComplete = true) (pending : ∀ d ∈ told, d.isComplete = false) :
      Stage s (told ++ [c])

namespace Stage

variable {s : State} {told : List Callback}

/-- Whatever happens, the listener is where it was unless a callback starts or ends. -/
theorem congr {t : State} (h : Stage s told) (slot : t.listening = s.listening)
    (running : t.running = s.running) : Stage t told := by
  cases h with
  | waiting opened idle pending => exact .waiting (slot.trans opened) (running.trans idle) pending
  | busy shut busy pending => exact .busy (slot.trans shut) (running.trans busy) pending
  | done shut idle complete pending =>
    exact .done (slot.trans shut) (running.trans idle) complete pending

theorem call (h : Stage s told) (c : Callback) :
    Stage (next s (.call c)).1 (told ++ (next s (.call c)).2.toList) := by
  cases h with
  | waiting slot idle pending =>
    rw [next_call_listening slot]
    exact .busy rfl (by simp [invoke, idle]) pending
  | busy slot running pending =>
    rw [next_call_shut slot, Option.toList_none, List.append_nil]
    exact .busy slot running pending
  | done slot idle complete pending =>
    rw [next_call_shut slot, Option.toList_none, List.append_nil]
    exact .done slot idle complete pending

theorem returned (h : Stage s told) : Stage (next s .returned).1 told := by
  cases h with
  | waiting slot idle pending =>
    simp only [next, finish, idle]
    exact .waiting slot idle pending
  | @busy told c slot running pending =>
    simp only [next, finish, running]
    cases complete : c.isComplete with
    | true => exact .done (by simp [slot]) rfl complete pending
    | false =>
      refine .waiting (by simp) rfl ?_
      intro d mem
      rcases List.mem_append.mp mem with mem | mem
      · exact pending d mem
      · rw [List.mem_singleton.mp mem]
        exact complete
  | done slot idle complete pending =>
    simp only [next, finish, idle]
    exact .done slot idle complete pending

theorem step (h : Stage s told) (e : Event) :
    Stage (next s e).1 (told ++ (next s e).2.toList) := by
  cases e with
  | call c => exact h.call c
  | returned => simpa [next] using h.returned
  | setStatus status => exact (List.append_nil told).symm ▸ h.congr rfl rfl
  | setRequest method target => exact (List.append_nil told).symm ▸ h.congr rfl rfl
  | clone => exact (List.append_nil told).symm ▸ h.congr rfl rfl
  | drop => exact (List.append_nil told).symm ▸ h.congr rfl rfl

theorem started (h : Stage s told) {e : Event} {c : Callback} (starts : (next s e).2 = some c) :
    e = .call c ∧ s.running = [] ∧ ∀ d ∈ told, d.isComplete = false := by
  cases e with
  | call d =>
    cases h with
    | waiting slot idle pending =>
      rw [next_call_listening slot] at starts
      cases starts
      exact ⟨rfl, idle, pending⟩
    | busy slot running pending =>
      rw [next_call_shut slot] at starts
      cases starts
    | done slot idle complete pending =>
      rw [next_call_shut slot] at starts
      cases starts
  | _ => cases starts

/-- Between callbacks and before the completion the listener is in its slot. -/
theorem slot (h : Stage s told) (idle : s.running = [])
    (pending : ∀ c ∈ told, c.isComplete = false) : s.listening = true := by
  cases h with
  | waiting slot => exact slot
  | busy _ running =>
    rw [running] at idle
    cases idle
  | done _ _ complete =>
    rw [pending _ (by simp)] at complete
    cases complete

theorem completions (h : Stage s told) : told.countP Callback.isComplete ≤ 1 := by
  have one (told : List Callback) (c : Callback) (pending : ∀ d ∈ told, d.isComplete = false) :
      (told ++ [c]).countP Callback.isComplete ≤ 1 := by
    rw [List.countP_append, List.countP_eq_zero.mpr (by simpa using pending), Nat.zero_add]
    exact List.countP_le_length
  cases h with
  | waiting _ _ pending =>
    rw [List.countP_eq_zero.mpr (by simpa using pending)]
    exact Nat.zero_le 1
  | busy _ _ pending => exact one _ _ pending
  | done _ _ _ pending => exact one _ _ pending

end Stage

/-- What a listener was called with, by what was asked for and by what the callers were told. -/
structure Account (s : State) (told asked answered : List Callback) : Prop where
  stage : Stage s told
  asked : told = upToCompletion asked
  answered : answered = told.filter Callback.isComplete

theorem Account.step {s : State} {told asked answered : List Callback}
    (h : Account s told asked answered) (e : Event) :
    Account (next s e).1 (told ++ (next s e).2.toList) (asked ++ (outside? s e).toList)
      (answered ++ (granted? s e).toList) := by
  refine ⟨h.stage.step e, ?_, ?_⟩
  · cases e with
    | call c =>
      obtain ⟨stage, asked_eq, -⟩ := h
      cases stage with
      | waiting slot idle pending =>
        -- Nothing asked for so far was dropped.
        have all : told = asked := by
          rw [asked_eq] at pending ⊢
          exact upToCompletion_pending pending
        rw [next_call_listening slot, outside?, if_pos idle, ← all, Option.toList_some,
          upToCompletion_append pending]
        cases complete : c.isComplete <;> simp [upToCompletion, complete]
      | busy slot running pending =>
        simpa [next_call_shut slot, outside?, running] using asked_eq
      | @done told d slot idle complete pending =>
        have mem : d ∈ upToCompletion asked := by
          rw [← asked_eq]
          simp
        rw [next_call_shut slot, Option.toList_none, List.append_nil,
          upToCompletion_over mem complete]
        exact asked_eq
    | _ => simpa [next, outside?] using h.asked
  · cases e with
    | call c =>
      rw [List.filter_append, h.answered]
      congr 1
      cases slot : s.listening with
      | true =>
        rw [next_call_listening slot]
        cases complete : c.isComplete <;> simp [granted?, State.answer, complete, slot]
      | false =>
        rw [next_call_shut slot]
        cases complete : c.isComplete <;> simp [granted?, State.answer, complete, slot]
    | _ => simpa [next, granted?] using h.answered

theorem account (events : List Event) :
    Account (run initial events) (callbacks initial events) (gather outside? initial events)
      (gather granted? initial events) := by
  induction events using List.reverseRecOn with
  | nil => exact ⟨.waiting rfl rfl (by simp [callbacks]), rfl, rfl⟩
  | append_singleton events e ih =>
    have last : run (run initial events) [e] = (next (run initial events) e).1 := rfl
    simpa only [run_append, last, callbacks_append, gather_append, gather, callbacks,
      List.append_nil] using ih.step e

def Entry.started? : Entry → Option Callback
  | started c _ => some c
  | nested _ => none

def Call.callback? : Call → Option Callback
  | call c => some c
  | _ => none

/-- What a run logs of a listener that answers with a script, over calls that are made one after
the other. -/
def drive (script : Script) (depth : Nat) (s : State) : List Call → List Entry
  | [] => []
  | call :: rest =>
    (perform script depth s call).2.1 ++ drive script depth (perform script depth s call).1 rest

def after (script : Script) (depth : Nat) (s : State) (calls : List Call) : State :=
  calls.foldl (fun t call => (perform script depth t call).1) s

/-- A call and all that is nested in it make a run that ends with the callbacks running that ran
before. -/
structure Plays (s t : State) (log : List Entry) (asked : List Callback) (events : List Event) :
    Prop where
  state : t = run s events
  started : log.filterMap Entry.started? = callbacks s events
  running : t.running = s.running
  asked : gather outside? s events = if s.running = [] then asked else []

namespace Plays

theorem nothing (s : State) : Plays s s [] [] [] := ⟨rfl, rfl, rfl, by simp [gather]⟩

theorem append {s t u : State} {log more : List Entry} {asked rest : List Callback}
    {events later : List Event} (h : Plays s t log asked events) (k : Plays t u more rest later) :
    Plays s u (log ++ more) (asked ++ rest) (events ++ later) := by
  obtain ⟨rfl, started, running, outside⟩ := h
  obtain ⟨rfl, started', running', outside'⟩ := k
  refine ⟨?_, ?_, ?_, ?_⟩
  · rw [run_append]
  · rw [List.filterMap_append, callbacks_append, started, started']
  · exact running'.trans running
  · rw [gather_append, outside, outside', running]
    by_cases idle : s.running = []
    · simp only [if_pos idle]
    · simp only [if_neg idle, List.append_nil]

theorem answered {s t : State} {log : List Entry} {asked : List Callback} {events : List Event}
    (h : Plays s t log asked events) (answer : Answer) :
    Plays s t (log ++ [.nested answer]) asked events := by
  refine ⟨h.state, ?_, h.running, h.asked⟩
  rw [List.filterMap_append, h.started]
  exact List.append_nil _

/-- A callback that starts and returns, with what happens meanwhile. -/
theorem around {s t : State} {c : Callback} (slot : s.listening = true) {log : List Entry}
    {asked : List Callback} {events : List Event} (h : Plays (invoke s c) t log asked events)
    (status : Option Status) :
    Plays s (next t .returned).1 (.started c status :: log) [c]
      (.call c :: events ++ [.returned]) := by
  obtain ⟨rfl, started, running, outside⟩ := h
  have first : next s (.call c) = (invoke s c, some c) := next_call_listening slot c
  have busy : (invoke s c).running = c :: s.running := rfl
  refine ⟨?_, ?_, ?_, ?_⟩
  · simp [run, first]
  · have last : callbacks (run (invoke s c) events) [.returned] = [] := rfl
    rw [List.cons_append, callbacks, first, callbacks_append, last]
    simp [Entry.started?, started]
  · simp only [next, finish, running, busy]
  · have last : gather outside? (run (invoke s c) events) [.returned] = [] := rfl
    rw [List.cons_append, gather, first, gather_append, last, outside, busy, if_neg (by simp),
      outside?]
    by_cases idle : s.running = []
    · simp [idle]
    · simp [idle]

theorem unheard {s : State} (slot : s.listening = false) (c : Callback) :
    Plays s s [] [c] [.call c] := by
  have drops : next s (.call c) = (s, none) := next_call_shut slot c
  refine ⟨?_, ?_, rfl, ?_⟩
  · simp [run, drops]
  · simp [callbacks, drops]
  · by_cases idle : s.running = []
    · simp [gather, outside?, idle]
    · simp [gather, outside?, idle]

end Plays

def logging (each : State → Call → State × List Entry × Answer) (t : State × List Entry)
    (call : Call) : State × List Entry :=
  ((each t.1 call).1, t.2 ++ (each t.1 call).2.1 ++ [.nested (each t.1 call).2.2])

section Perform

variable (script : Script) (depth : Nat) (s : State)

theorem perform_quiet {call : Call} (quiet : call.callback? = none) :
    ∃ events,
      Plays s (perform script depth s call).1 (perform script depth s call).2.1 [] events := by
  have one (e : Event) (silent : (next s e).2 = none) (unasked : outside? s e = none)
      (same : (next s e).1.running = s.running) : Plays s (next s e).1 [] [] [e] :=
    ⟨rfl, by simp [callbacks, silent], same, by simp [gather, unasked]⟩
  cases call with
  | call c => cases quiet
  | setStatus status =>
    cases status with
    | none => exact ⟨[], by simpa only [perform] using .nothing s⟩
    | some status => exact ⟨_, by simpa only [perform] using one (.setStatus status) rfl rfl rfl⟩
  | setRequest method target =>
    cases method with
    | none => exact ⟨[], by simpa only [perform] using .nothing s⟩
    | some method =>
      exact ⟨_, by simpa only [perform] using one (.setRequest method target) rfl rfl rfl⟩
  | isComplete => exact ⟨[], by simpa only [perform] using .nothing s⟩
  | version => exact ⟨[], by simpa only [perform] using .nothing s⟩

variable {s}

theorem perform_shut (slot : s.listening = false) (c : Callback) :
    perform script depth s (.call c) = (s, [], s.answer c) := by
  cases depth <;> simp [perform, next_call_shut slot]

theorem perform_zero (slot : s.listening = true) (c : Callback) :
    perform script 0 s (.call c) =
      ((next (invoke s c) .returned).1, [.started c s.status], s.answer c) := by
  unfold perform
  simp only [next_call_listening slot]

theorem perform_succ (slot : s.listening = true) (c : Callback) :
    perform script (depth + 1) s (.call c) =
      let after := (script c).foldl (logging (perform script depth))
        (invoke s c, [.started c s.status])
      ((next after.1 .returned).1, after.2, s.answer c) := by
  conv => lhs; unfold perform
  simp only [next_call_listening slot]
  rfl

end Perform

/-- The calls that a callback makes, after what was logged when it started. -/
theorem foldl_plays {each : State → Call → State × List Entry × Answer}
    (plays : ∀ s call, ∃ events, Plays s (each s call).1 (each s call).2.1
      call.callback?.toList events)
    {s t : State} {log : List Entry} {asked : List Callback} {events : List Event}
    (h : Plays s t log asked events) (first : List Entry) (calls : List Call) :
    let after := calls.foldl (logging each) (t, first ++ log)
    ∃ log asked events, after.2 = first ++ log ∧ Plays s after.1 log asked events := by
  induction calls generalizing t log asked events with
  | nil => exact ⟨log, asked, events, rfl, h⟩
  | cons call calls ih =>
    obtain ⟨inner, now⟩ := plays t call
    have next := ih ((h.append now).answered (each t call).2.2)
    simpa only [List.foldl_cons, logging, List.append_assoc] using next

theorem perform_plays (script : Script) (depth : Nat) (s : State) (call : Call) :
    ∃ events, Plays s (perform script depth s call).1 (perform script depth s call).2.1
      call.callback?.toList events := by
  induction depth generalizing s call with
  | zero =>
    cases call with
    | call c =>
      cases slot : s.listening with
      | false =>
        rw [perform_shut script 0 slot]
        exact ⟨_, Plays.unheard slot c⟩
      | true =>
        refine ⟨[.call c, .returned], ?_⟩
        rw [perform_zero script slot]
        exact (Plays.nothing (invoke s c)).around slot s.status
    | _ => exact perform_quiet script 0 s rfl
  | succ depth ih =>
    cases call with
    | call c =>
      cases slot : s.listening with
      | false =>
        rw [perform_shut script (depth + 1) slot]
        exact ⟨_, Plays.unheard slot c⟩
      | true =>
        obtain ⟨log, asked, events, logged, inner⟩ :=
          foldl_plays ih (Plays.nothing (invoke s c)) [.started c s.status] (script c)
        simp only [List.append_nil] at logged inner
        rw [perform_succ script depth slot]
        simp only [logged]
        exact ⟨_, inner.around slot s.status⟩
    | _ => exact perform_quiet script (depth + 1) s rfl

theorem after_plays (script : Script) (depth : Nat) (s : State) (calls : List Call) :
    ∃ events, Plays s (after script depth s calls) (drive script depth s calls)
      (calls.filterMap Call.callback?) events := by
  induction calls generalizing s with
  | nil => exact ⟨[], .nothing s⟩
  | cons call calls ih =>
    obtain ⟨events, now⟩ := perform_plays script depth s call
    obtain ⟨later, rest⟩ := ih (perform script depth s call).1
    refine ⟨events ++ later, ?_⟩
    have both := now.append rest
    cases asked : call.callback? <;> simpa [drive, after, asked] using both

theorem drive_plays (script : Script) (depth : Nat) (s : State) (calls : List Call) :
    ∃ t events, Plays s t (drive script depth s calls) (calls.filterMap Call.callback?) events :=
  ⟨_, after_plays script depth s calls⟩

/-- While a callback runs, no call starts another, and so no depth is needed for it. -/
theorem perform_nested (script : Script) (depth : Nat) {s : State} (slot : s.listening = false)
    (call : Call) :
    perform script depth s call = perform script 0 s call ∧
      (perform script 0 s call).1.listening = false := by
  cases call with
  | call c =>
    rw [perform_shut script depth slot, perform_shut script 0 slot]
    exact ⟨rfl, slot⟩
  | setStatus status => cases status <;> simp [perform, next, slot]
  | setRequest method target => cases method <;> simp [perform, next, slot]
  | isComplete => simp [perform, slot]
  | version => simp [perform, slot]

theorem perform_depth (script : Script) (depth : Nat) (s : State) (call : Call) :
    perform script (depth + 1) s call = perform script 1 s call := by
  have same (calls : List Call) (t : State) (slot : t.listening = false) (log : List Entry) :
      calls.foldl (logging (perform script depth)) (t, log) =
        calls.foldl (logging (perform script 0)) (t, log) := by
    induction calls generalizing t log with
    | nil => rfl
    | cons call calls ih =>
      obtain ⟨deep, shut⟩ := perform_nested script depth slot call
      simp only [List.foldl_cons, logging, deep]
      exact ih _ shut _
  cases call with
  | call c =>
    cases slot : s.listening with
    | false => rw [perform_shut script (depth + 1) slot, perform_shut script 1 slot]
    | true =>
      rw [perform_succ script depth slot, perform_succ script 0 slot, same (script c) _ rfl]
  | setStatus status => cases status <;> simp only [perform]
  | setRequest method target => cases method <;> simp only [perform]
  | _ => simp only [perform]

theorem drive_depth (script : Script) (depth : Nat) (s : State) (calls : List Call) :
    drive script (depth + 1) s calls = drive script 1 s calls := by
  induction calls generalizing s with
  | nil => rfl
  | cons call calls ih => rw [drive, drive, perform_depth, ih]

/-- Whatever happens to a stream, its listener is called with one callback at a time and with no
more than one completion, which is the last. It is called with whatever is asked for between its
callbacks, in that order, up to the completion. The completions whose callers are told that they
reached it are those that did. It makes no difference what its callbacks do. -/
theorem listener_discipline :
    (∀ events,
      (callbacks initial events).countP Callback.isComplete ≤ 1 ∧
      callbacks initial events = upToCompletion (gather outside? initial events) ∧
      gather granted? initial events = (callbacks initial events).filter Callback.isComplete ∧
      (∀ e c, (next (run initial events) e).2 = some c →
        e = .call c ∧ (run initial events).running = [] ∧
        ∀ d ∈ callbacks initial events, d.isComplete = false) ∧
      ((run initial events).running = [] →
        (∀ d ∈ callbacks initial events, d.isComplete = false) →
        ∀ c, (next (run initial events) (.call c)).2 = some c)) ∧
    ∀ script depth calls,
      drive script (depth + 1) initial calls = drive script 1 initial calls ∧
      (drive script depth initial calls).filterMap Entry.started? =
        upToCompletion (calls.filterMap Call.callback?) := by
  constructor
  · intro events
    obtain ⟨stage, asked, answered⟩ := account events
    refine ⟨stage.completions, asked, answered, fun e c starts => stage.started starts, ?_⟩
    intro idle pending c
    rw [next_call_listening (stage.slot idle pending)]
  · intro script depth calls
    refine ⟨drive_depth script depth initial calls, ?_⟩
    obtain ⟨t, events, plays⟩ := drive_plays script depth initial calls
    have outside : gather outside? initial events = calls.filterMap Call.callback? := plays.asked
    rw [plays.started, (account events).asked, outside]

/-- A callback that asks for the completion is refused. The stream still completes later. -/
theorem nested_completion_is_refused :
    let events : List Event := [.call .requestEnd, .call (.complete none), .returned]
    (run initial events).running = [] ∧ callbacks initial events = [.requestEnd] ∧
      gather granted? initial events = [] ∧
      (next (run initial events) (.call (.complete (some .unknown)))).2 =
        some (.complete (some .unknown)) ∧
      drive (fun _ => [.call (.complete none)]) 2 initial [.call .requestEnd] =
        [.started .requestEnd none, .nested (.truth false)] := by
  intro events
  obtain ⟨-, -, answered, -, slot⟩ := listener_discipline.1 events
  have deep := (listener_discipline.2 (fun _ => [.call (.complete none)]) 1 [.call .requestEnd]).1
  refine ⟨rfl, rfl, ?_, ?_, ?_⟩
  · rw [answered]
    rfl
  · exact slot rfl (by decide) (.complete (some .unknown))
  · rw [deep]
    rfl

end WebSocketClient.Stream

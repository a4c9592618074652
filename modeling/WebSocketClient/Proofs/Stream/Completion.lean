import WebSocketClient.Proofs.Stream.Discipline

/-! # What a stream says about its completion

A stream goes by its slot. It says that it is complete, and refuses a completion, whenever its
listener is not there. That is so once the listener has been called with the completion. It is so
as well while any other callback runs, and then what the stream says is not true: the completion has
not come about, and one that is asked for is lost. -/
namespace WebSocketClient.Stream

def Completed (told : List Callback) : Prop := ∃ c ∈ told, c.isComplete = true

def Interrupted (s : State) : Prop := ∃ c ∈ s.running, c.isComplete = false

/-- What a stream says of its completion is what has come about, and a completion that has not come
about can be had. -/
structure TellsTruth (s : State) (told : List Callback) : Prop where
  flag : s.isComplete = true ↔ Completed told
  refuses : ∀ error, s.answer (.complete error) = .truth false ↔ Completed told
  grants : ∀ error, s.answer (.complete error) = .truth true ↔ ¬ Completed told
  delivers : ∀ error, ¬ Completed told →
    next s (.call (.complete error)) = (invoke s (.complete error), some (.complete error))

/-- Whether a listener is in its slot, by what it was called with: the slot is empty for good once
it is complete, and for the time of any other callback. -/
inductive Slot (s : State) (told : List Callback) : Prop
  | there (slot : s.listening = true) (pending : ¬ Completed told) (idle : ¬ Interrupted s)
  | gone (slot : s.listening = false) (complete : Completed told) (idle : ¬ Interrupted s)
  | busy (slot : s.listening = false) (pending : ¬ Completed told) (running : Interrupted s)

theorem not_completed {told : List Callback} (pending : ∀ c ∈ told, c.isComplete = false) :
    ¬ Completed told := by
  rintro ⟨c, mem, complete⟩
  rw [pending c mem] at complete
  cases complete

theorem not_interrupted {s : State} (idle : s.running = []) : ¬ Interrupted s := by
  rintro ⟨c, mem, -⟩
  rw [idle] at mem
  cases mem

theorem Stage.slotted {s : State} {told : List Callback} (h : Stage s told) : Slot s told := by
  cases h with
  | waiting slot idle pending => exact .there slot (not_completed pending) (not_interrupted idle)
  | @busy told c slot running pending =>
    cases complete : c.isComplete with
    | true =>
      refine .gone slot ⟨c, by simp, complete⟩ ?_
      rintro ⟨d, mem, incomplete⟩
      rw [running] at mem
      obtain rfl := List.mem_singleton.mp mem
      rw [complete] at incomplete
      cases incomplete
    | false =>
      refine .busy slot (not_completed ?_) ⟨c, by simp [running], complete⟩
      intro d mem
      rcases List.mem_append.mp mem with old | new
      · exact pending d old
      · rwa [List.mem_singleton.mp new]
  | @done told c slot idle complete pending =>
    exact .gone slot ⟨c, by simp, complete⟩ (not_interrupted idle)

section Slot

variable {s : State} {told : List Callback}

theorem answer_complete (s : State) (error : Option Error) :
    s.answer (.complete error) = .truth s.listening := rfl

theorem isComplete_eq (s : State) : s.isComplete = !s.listening := rfl

/-- A stream tells the truth exactly while no callback but the completion runs. -/
theorem Slot.tellsTruth_iff (h : Slot s told) : TellsTruth s told ↔ ¬ Interrupted s := by
  cases h with
  | there slot pending idle =>
    refine iff_of_true ?_ idle
    refine ⟨?_, fun error => ?_, fun error => ?_, fun error _ => next_call_listening slot _⟩
    · simp [isComplete_eq, slot, pending]
    · simp [answer_complete, slot, pending]
    · simp [answer_complete, slot, pending]
  | gone slot complete idle =>
    refine iff_of_true ?_ idle
    refine ⟨?_, fun error => ?_, fun error => ?_, fun error pending => absurd complete pending⟩
    · simp [isComplete_eq, slot, complete]
    · simp [answer_complete, slot, complete]
    · simp [answer_complete, slot, complete]
  | busy slot pending running =>
    refine iff_of_false ?_ (not_not_intro running)
    intro truth
    exact pending (truth.flag.mp (by simp [isComplete_eq, slot]))

/-- While another callback runs the stream says that it is complete, and a completion is lost. -/
theorem Slot.loses (h : Slot s told) (running : Interrupted s) :
    ¬ Completed told ∧ s.isComplete = true ∧ ∀ error,
      s.answer (.complete error) = .truth false ∧ next s (.call (.complete error)) = (s, none) := by
  cases h with
  | there _ _ idle => exact absurd running idle
  | gone _ _ idle => exact absurd running idle
  | busy slot pending _ =>
    refine ⟨pending, by simp [isComplete_eq, slot], fun error => ⟨?_, next_call_shut slot _⟩⟩
    rw [answer_complete, slot]

end Slot

/-- What a call is answered that is made from inside a callback. -/
def Call.inside : Call → Answer
  | call c => if c.isComplete then .truth false else .nothing
  | setStatus (some _) => .nothing
  | setStatus none => .invalidStatus
  | setRequest (some _) _ => .nothing
  | setRequest none _ => .invalidMethod
  | isComplete => .truth true
  | version => .version

section Perform

variable (script : Script) (depth : Nat) {s : State}

theorem perform_inside (slot : s.listening = false) (call : Call) :
    (perform script depth s call).1.listening = false ∧
      (perform script depth s call).2 = ([], call.inside) := by
  rw [(perform_nested script depth slot call).1]
  refine ⟨(perform_nested script depth slot call).2, ?_⟩
  cases call with
  | call c =>
    rw [perform_shut script 0 slot, Call.inside, State.answer, slot]
  | setStatus status => cases status <;> simp [perform, Call.inside]
  | setRequest method target => cases method <;> simp [perform, Call.inside]
  | isComplete => simp [perform, Call.inside, isComplete_eq, slot]
  | version => simp [perform, Call.inside]

theorem foldl_inside (slot : s.listening = false) (log : List Entry) (calls : List Call) :
    (calls.foldl (logging (perform script depth)) (s, log)).2 =
      log ++ calls.map fun call => .nested call.inside := by
  induction calls generalizing s log with
  | nil => simp
  | cons call calls ih =>
    obtain ⟨still, answer⟩ := perform_inside script depth slot call
    rw [List.foldl_cons, logging, ih still, answer]
    simp

/-- A callback that starts is logged with the answers to the calls that it makes. -/
theorem perform_log (slot : s.listening = true) (c : Callback) :
    (perform script (depth + 1) s (.call c)).2.1 =
      .started c s.status :: (script c).map fun call => .nested call.inside := by
  rw [perform_succ script depth slot]
  exact foldl_inside script depth rfl [.started c s.status] (script c)

end Perform

/-- What a stream tells about its completion is true exactly while no callback runs but the
completion itself. While another one runs the stream says that it is complete, which it is not, and
a completion is refused and lost. So it tells the truth to its driver between callbacks, and what a
callback is told, however deeply it is nested, depends on what it asks only. -/
theorem truthful_unless_interrupted (events : List Event) (script : Script) (depth : Nat)
    (calls : List Call) :
    (let s := run initial events
      let told := callbacks initial events
      (TellsTruth s told ↔ ¬ Interrupted s) ∧
      (Interrupted s → ¬ Completed told ∧ s.isComplete = true ∧ ∀ error,
        s.answer (.complete error) = .truth false ∧
        next s (.call (.complete error)) = (s, none))) ∧
    let s := after script (depth + 1) initial calls
    let told := (drive script (depth + 1) initial calls).filterMap Entry.started?
    TellsTruth s told ∧
    (¬ Completed told → ∀ c, (perform script (depth + 1) s (.call c)).2.1 =
      .started c s.status :: (script c).map fun call => .nested call.inside) := by
  constructor
  · intro s told
    have slot : Slot s told := (account events).stage.slotted
    exact ⟨slot.tellsTruth_iff, slot.loses⟩
  · intro s told
    obtain ⟨moves, plays⟩ := after_plays script (depth + 1) initial calls
    have slot : Slot s told := by
      have stage := (account moves).stage.slotted
      rwa [← plays.state, ← plays.started] at stage
    have idle : ¬ Interrupted s := not_interrupted plays.running
    refine ⟨slot.tellsTruth_iff.mpr idle, ?_⟩
    intro pending c
    cases slot with
    | there slot => exact perform_log script depth slot c
    | gone _ complete => exact absurd complete pending
    | busy _ _ running => exact absurd running idle

/-- The end of a request is told, and the completion that is asked for meanwhile is lost. -/
theorem completion_is_lost :
    let s := run initial [.call .requestEnd]
    let told := callbacks initial [.call .requestEnd]
    told = [.requestEnd] ∧ ¬ Completed told ∧ s.isComplete = true ∧
      s.answer (.complete none) = .truth false ∧
      next s (.call (.complete none)) = (s, none) ∧
      callbacks initial [.call .requestEnd, .call (.complete none), .returned] = told ∧
      drive (fun _ => [.isComplete, .call (.complete none)]) 2 initial [.call .requestEnd] =
        [.started .requestEnd none, .nested (.truth true), .nested (.truth false)] ∧
      ¬ TellsTruth s told := by
  intro s told
  have pending : ¬ Completed told := not_completed (by decide)
  refine ⟨rfl, pending, rfl, rfl, rfl, rfl, rfl, ?_⟩
  intro truth
  exact pending (truth.flag.mp rfl)

/-- A stream is wrong about itself inside a callback and right again after it. -/
theorem truth_returns :
    ¬ TellsTruth (run initial [.call (.body [1])]) [.body [1]] ∧
      next (run initial [.call (.body [1])]) (.call (.complete none)) =
        (run initial [.call (.body [1])], none) ∧
      TellsTruth (run initial [.call (.body [1]), .returned]) [.body [1]] ∧
      TellsTruth (after (fun _ => [.call (.complete none)]) 1 initial [.call (.body [1])])
        [.body [1]] ∧
      (perform (fun _ => [.call (.complete none)]) 1 initial (.call (.body [1]))).2.1 =
        [.started (.body [1]) none, .nested (.truth false)] := by
  have interrupted : Interrupted (run initial [.call (.body [1])]) := ⟨.body [1], by decide, rfl⟩
  obtain ⟨⟨inside, lost⟩, truthful, -⟩ := truthful_unless_interrupted [.call (.body [1])]
    (fun _ => [.call (.complete none)]) 0 [.call (.body [1])]
  obtain ⟨⟨outside, -⟩, -, logged⟩ := truthful_unless_interrupted [.call (.body [1]), .returned]
    (fun _ => [.call (.complete none)]) 0 []
  refine ⟨fun truth => inside.mp truth interrupted, ((lost interrupted).2.2 none).2, ?_, ?_, ?_⟩
  · exact outside.mpr (not_interrupted rfl)
  · exact truthful
  · exact logged (not_completed (by decide)) (.body [1])

end WebSocketClient.Stream

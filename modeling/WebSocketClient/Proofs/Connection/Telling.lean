import WebSocketClient.Proofs.Connection.Sender

/-! # What the streams are told

The task tells one stream after the other, in the order in which it has received their requests. A
stream is told the end of its request, its headers, the end of the headers and its body, and last of
all its completion, which may come early. -/
namespace WebSocketClient.Connection

def Effect.exchange? : Effect → Option StreamId
  | exchange stream => some stream
  | _ => none

def Effect.callback? : Effect → Option (StreamId × Stream.Callback)
  | callback stream c => some (stream, c)
  | _ => none

/-- The requests that have been handed to the sender, in order. -/
def exchanged (told : List Effect) : List StreamId := told.filterMap Effect.exchange?

def callbacks (told : List Effect) : List (StreamId × Stream.Callback) :=
  told.filterMap Effect.callback?

structure Part where
  stream : StreamId
  callbacks : List Stream.Callback

/-- The callbacks of several streams, one stream after the other. -/
def spoken (parts : List Part) : List (StreamId × Stream.Callback) :=
  parts.flatMap fun p => p.callbacks.map (p.stream, ·)

/-- What a stream is told before the completion of an exchange that is not cut short. -/
def course (headers : List Header) (hasBody : Bool) (chunks : List Bytes) :
    List Stream.Callback :=
  .requestEnd :: .headers headers :: .blockDone hasBody :: chunks.map .body

def Begun (told : List Stream.Callback) : Prop :=
  ∃ headers hasBody chunks, told <+: course headers hasBody chunks

/-- Only a whole course is completed without an error. -/
inductive Finished : List Stream.Callback → Prop
  | whole (headers : List Header) (hasBody : Bool) (chunks : List Bytes) :
      Finished (course headers hasBody chunks ++ [.complete none])
  | cut {told : List Stream.Callback} (begun : Begun told) (error : Error) :
      Finished (told ++ [.complete (some error)])

def Orderly (told : List Stream.Callback) : Prop := Begun told ∨ Finished told

/-- What the stream has been told that is in flight. -/
inductive Heard : Stage → List Stream.Callback → Prop
  | requested : Heard .requested []
  | upgrading (headers : List Header) (hasBody : Bool) :
      Heard .upgrading (course headers hasBody [])
  | readingBody (headers : List Header) (hasBody : Bool) (chunks : List Bytes) :
      Heard .readingBody (course headers hasBody chunks)

def Suits : Resume → List Stream.Callback → Prop
  | .stage stage, told => Heard stage told
  | .exchanged _, told => Finished told

def Delivery.callback? : Delivery → Option Stream.Callback
  | status _ => none
  | callback c => some c

theorem Heard.begun {stage : Stage} {told : List Stream.Callback} (h : Heard stage told) :
    Begun told := by
  cases h with
  | requested => exact ⟨[], false, [], List.nil_prefix⟩
  | upgrading headers hasBody => exact ⟨headers, hasBody, [], List.prefix_rfl⟩
  | readingBody headers hasBody chunks => exact ⟨headers, hasBody, chunks, List.prefix_rfl⟩

/-- What a job has its stream told continues what the stream has heard. -/
theorem Script.suits {stage : Stage} {steps : List Delivery} {following : Resume}
    (script : Script stage steps following) {told : List Stream.Callback}
    (heard : Heard stage told) :
    Suits following (told ++ steps.filterMap Delivery.callback?) := by
  cases script with
  | response status headers hasBody =>
    cases heard
    have whole : [] ++ (head status headers hasBody).filterMap Delivery.callback? =
        course headers hasBody [] := rfl
    simp only [whole, Suits]
    split
    · exact .upgrading headers hasBody
    · exact .readingBody headers hasBody []
  | body data =>
    cases heard with
    | readingBody headers hasBody chunks =>
      have longer : course headers hasBody chunks ++ [.body data] =
          course headers hasBody (chunks ++ [data]) := by
        simp [course]
      change Heard .readingBody (course headers hasBody chunks ++ [.body data])
      rw [longer]
      exact .readingBody headers hasBody (chunks ++ [data])
  | failure _ error => exact .cut heard.begun error
  | success =>
    cases heard with
    | readingBody headers hasBody chunks => exact .whole headers hasBody chunks

section Histories

variable {told more : List Effect} {parts : List Part}

theorem exchanged_append (told more : List Effect) :
    exchanged (told ++ more) = exchanged told ++ exchanged more := List.filterMap_append ..

theorem callbacks_append (told more : List Effect) :
    callbacks (told ++ more) = callbacks told ++ callbacks more := List.filterMap_append ..

theorem exchanged_silent (silent : exchanged more = []) :
    exchanged (told ++ more) = exchanged told := by
  rw [exchanged_append, silent, List.append_nil]

theorem callbacks_silent (silent : callbacks more = []) :
    callbacks (told ++ more) = callbacks told := by
  rw [callbacks_append, silent, List.append_nil]

theorem spoken_concat (parts : List Part) (p : Part) :
    spoken (parts ++ [p]) = spoken parts ++ p.callbacks.map (p.stream, ·) := by
  simp [spoken]

/-- A refusal tells no stream anything. -/
theorem refusals_silent (refusals : ∀ effect ∈ told, effect.isRefusal = true) :
    exchanged told = [] ∧ callbacks told = [] :=
  ⟨filterMap_refusals (fun _ _ => rfl) (fun _ _ => rfl) refusals,
    filterMap_refusals (fun _ _ => rfl) (fun _ _ => rfl) refusals⟩

def completion? (call : StreamId × Stream.Callback) : Option StreamId :=
  if call.2.isComplete then some call.1 else none

theorem completed_eq (told : List Effect) :
    completed told = (callbacks told).filterMap completion? := by
  rw [completed, callbacks, List.filterMap_filterMap]
  congr
  funext effect
  cases effect with
  | callback stream c => cases c <;> rfl
  | _ => rfl

theorem pending_of_begun {heard : List Stream.Callback} (begun : Begun heard)
    {c : Stream.Callback} (mem : c ∈ heard) : c.isComplete = false := by
  obtain ⟨headers, hasBody, chunks, part⟩ := begun
  have within := part.subset mem
  simp only [course, List.mem_cons, List.mem_map] at within
  rcases within with rfl | rfl | rfl | ⟨data, -, rfl⟩ <;> rfl

/-- A finished part has one completion. -/
theorem completions_of_finished {heard : List Stream.Callback} (finished : Finished heard)
    (stream : StreamId) : (heard.map (stream, ·)).filterMap completion? = [stream] := by
  have last (before : List Stream.Callback) (begun : Begun before) (error : Option Error) :
      ((before ++ [Stream.Callback.complete error]).map (stream, ·)).filterMap completion? =
        [stream] := by
    have none : (before.map (stream, ·)).filterMap completion? = [] := by
      apply List.filterMap_eq_nil_iff.mpr
      intro call mem
      obtain ⟨c, within, rfl⟩ := List.mem_map.mp mem
      simp [completion?, pending_of_begun begun within]
    rw [List.map_append, List.filterMap_append, none]
    rfl
  cases finished with
  | whole headers hasBody chunks =>
    exact last _ ⟨headers, hasBody, chunks, List.prefix_rfl⟩ none
  | cut begun error => exact last _ begun (some error)

/-- The streams that have been completed are those whose part is finished. -/
theorem completed_spoken (finished : ∀ p ∈ parts, Finished p.callbacks)
    (heard : callbacks told = spoken parts) : completed told = parts.map (·.stream) := by
  rw [completed_eq, heard]
  clear heard
  induction parts with
  | nil => rfl
  | cons p parts ih =>
    have first := completions_of_finished (finished p List.mem_cons_self) p.stream
    have rest := ih fun q mem => finished q (List.mem_cons_of_mem p mem)
    rw [spoken] at rest ⊢
    rw [List.flatMap_cons, List.filterMap_append, first, rest]
    rfl

end Histories

/-- The stream that the task is telling, or whose exchange it waits for. -/
inductive Now (s : State) (stream : StreamId) (heard : List Stream.Callback) : Prop
  | exchanging (stage : Stage) (waiting : s.control = .waiting)
      (held : s.job = some (.exchanging stream stage)) (heard : Heard stage heard)
  | telling (steps : List Delivery) (following : Resume)
      (control : s.control = .delivering stream steps following)
      (suits : Suits following (heard ++ steps.filterMap Delivery.callback?))

structure Unfinished (parts : List Part) (part : Part) (queue requests : List StreamId)
    (told : List Effect) : Prop where
  heard : callbacks told = spoken (parts ++ [part])
  finished : ∀ p ∈ parts, Finished p.callbacks
  order : requests = (parts ++ [part]).map (·.stream) ++ queue
  started : exchanged told = (parts ++ [part]).map (·.stream)

/-- Where a run stands. `requests` have been received, and `parts` are over. At the end these are
all the requests. -/
inductive Tale (s : State) (requests : List StreamId) (told : List Effect) : Prop
  | early (control : s.control = .dialling ∨ s.control = .settingUp) (free : s.job = none)
      (unfilled : s.queue = []) (unasked : requests = []) (unstarted : exchanged told = [])
      (silent : callbacks told = [])
  | between (parts : List Part) (unlent : ∀ stream stage, s.job ≠ some (.exchanging stream stage))
      (waiting : s.control = .waiting) (heard : callbacks told = spoken parts)
      (finished : ∀ p ∈ parts, Finished p.callbacks)
      (order : requests = parts.map (·.stream) ++ s.queue)
      (started : exchanged told = parts.map (·.stream))
  | amid (parts : List Part) (part : Part) (now : Now s part.stream part.callbacks)
      (unfinished : Unfinished parts part s.queue requests told)
  | leaving (parts : List Part) (error : Option Error) (rest : List StreamId)
      (control : s.control = .draining error rest)
      (heard : callbacks told = spoken parts) (finished : ∀ p ∈ parts, Finished p.callbacks)
      (order : requests = parts.map (·.stream) ++ rest) (started : exchanged told <+: requests)
  | gone (parts : List Part) (control : s.control = .shuttingDown ∨ s.control = .ended)
      (heard : callbacks told = spoken parts) (finished : ∀ p ∈ parts, Finished p.callbacks)
      (order : requests = parts.map (·.stream)) (started : exchanged told <+: requests)

/-- Nothing is started, and no stream is told anything. -/
theorem Unfinished.silent {parts : List Part} {part : Part} {queue requests : List StreamId}
    {told more : List Effect} (h : Unfinished parts part queue requests told)
    (unstarted : exchanged more = []) (silent : callbacks more = []) :
    Unfinished parts part queue requests (told ++ more) := by
  refine ⟨?_, h.finished, h.order, ?_⟩
  · rw [callbacks_silent silent, h.heard]
  · rw [exchanged_silent unstarted, h.started]

/-- The stream in flight is told more. -/
theorem Unfinished.call {parts : List Part} {stream : StreamId} {heard : List Stream.Callback}
    {queue requests : List StreamId} {told : List Effect}
    (h : Unfinished parts ⟨stream, heard⟩ queue requests told) (c : Stream.Callback) :
    Unfinished parts ⟨stream, heard ++ [c]⟩ queue requests (told ++ [.callback stream c]) := by
  have unstarted : exchanged [.callback stream c] = [] := rfl
  have one : callbacks [.callback stream c] = [(stream, c)] := rfl
  refine ⟨?_, h.finished, ?_, ?_⟩
  · rw [callbacks_append, h.heard, one, spoken_concat, spoken_concat]
    simp
  · simpa using h.order
  · simpa [exchanged_append, unstarted] using h.started

namespace Tale

variable {s t : State} {requests : List StreamId} {told more : List Effect}

/-- Nothing is started, no stream is told anything, and the task stays where it is. -/
theorem congr (h : Tale s requests told) (control : t.control = s.control) (job : t.job = s.job)
    (queue : t.queue = s.queue) (unstarted : exchanged more = []) (silent : callbacks more = []) :
    Tale t requests (told ++ more) := by
  have same : exchanged (told ++ more) = exchanged told := exchanged_silent unstarted
  have still : callbacks (told ++ more) = callbacks told := callbacks_silent silent
  cases h with
  | early stands free unfilled unasked unstarted silent =>
    exact .early (control ▸ stands) (job.trans free) (queue.trans unfilled) unasked
      (same.trans unstarted) (still.trans silent)
  | between parts unlent waiting heard finished order started =>
    exact .between parts (job ▸ unlent) (control.trans waiting) (still.trans heard) finished
      (queue ▸ order) (same.trans started)
  | amid parts part now unfinished =>
    refine .amid parts part ?_ (queue ▸ unfinished.silent unstarted silent)
    cases now with
    | exchanging stage waiting held heard =>
      exact .exchanging stage (control.trans waiting) (job.trans held) heard
    | telling steps following stands suits =>
      exact .telling steps following (control.trans stands) suits
  | leaving parts error rest stands heard finished order started =>
    exact .leaving parts error rest (control.trans stands) (still.trans heard) finished order
      (same ▸ started)
  | gone parts stands heard finished order started =>
    exact .gone parts (control ▸ stands) (still.trans heard) finished order (same ▸ started)

/-- The part that a job in hand goes on with. -/
theorem of_held (h : Tale s requests told) (waiting : s.control = .waiting) {stream : StreamId}
    {stage : Stage} (held : s.job = some (.exchanging stream stage)) :
    ∃ parts cs, Heard stage cs ∧ Unfinished parts ⟨stream, cs⟩ s.queue requests told := by
  cases h with
  | early control => simp [waiting] at control
  | between _ unlent => exact absurd held (unlent stream stage)
  | amid parts part now unfinished =>
    cases now with
    | exchanging other _ same heard =>
      rw [held] at same
      cases same
      exact ⟨parts, part.callbacks, heard, unfinished⟩
    | telling steps following control => simp [waiting] at control
  | leaving _ _ _ control => simp [waiting] at control
  | gone _ control => simp [waiting] at control

/-- The part of the stream that is being told. -/
theorem of_telling (h : Tale s requests told) {stream : StreamId} {steps : List Delivery}
    {following : Resume} (telling : s.control = .delivering stream steps following) :
    ∃ parts cs, Suits following (cs ++ steps.filterMap Delivery.callback?) ∧
      Unfinished parts ⟨stream, cs⟩ s.queue requests told := by
  cases h with
  | early control => simp [telling] at control
  | between _ _ control => simp [telling] at control
  | amid parts part now unfinished =>
    cases now with
    | exchanging _ waiting => simp [telling] at waiting
    | telling _ _ control suits =>
      rw [telling] at control
      cases control
      exact ⟨parts, part.callbacks, suits, unfinished⟩
  | leaving _ _ _ control => simp [telling] at control
  | gone _ control => simp [telling] at control

/-- Between two exchanges every request that was started has been completed. -/
theorem of_idle (h : Tale s requests told) (waiting : s.control = .waiting)
    (unlent : ∀ stream stage, s.job ≠ some (.exchanging stream stage)) :
    ∃ parts, callbacks told = spoken parts ∧ (∀ p ∈ parts, Finished p.callbacks) ∧
      requests = parts.map (·.stream) ++ s.queue ∧ exchanged told = parts.map (·.stream) := by
  cases h with
  | early control => simp [waiting] at control
  | between parts _ _ heard finished order started =>
    exact ⟨parts, heard, finished, order, started⟩
  | amid parts part now =>
    cases now with
    | exchanging stage _ held => exact absurd held (unlent part.stream stage)
    | telling _ _ control => simp [waiting] at control
  | leaving _ _ _ control => simp [waiting] at control
  | gone _ control => simp [waiting] at control

/-- Before the loop is entered nothing has been received. -/
theorem of_entry (h : Tale s requests told)
    (early : s.control = .dialling ∨ s.control = .settingUp) :
    s.job = none ∧ s.queue = [] ∧ requests = [] ∧ exchanged told = [] ∧ callbacks told = [] := by
  cases h with
  | early _ free unfilled unasked unstarted silent =>
    exact ⟨free, unfilled, unasked, unstarted, silent⟩
  | between _ _ waiting => simp [waiting] at early
  | amid _ _ now =>
    cases now with
    | exchanging _ waiting => simp [waiting] at early
    | telling _ _ control => simp [control] at early
  | leaving _ _ _ control => simp [control] at early
  | gone _ control => rcases control with control | control <;> simp [control] at early

/-- A stream that has not been completed is completed at the end of the task. -/
theorem completes {parts : List Part} {stream : StreamId} {cs : List Stream.Callback}
    {rest : List StreamId} (begun : Begun cs)
    (heard : callbacks told = spoken (parts ++ [⟨stream, cs⟩]))
    (finished : ∀ p ∈ parts, Finished p.callbacks)
    (order : requests = parts.map (·.stream) ++ stream :: rest)
    (started : exchanged told <+: requests) (error : Option Error) :
    Tale (drain s error (stream :: rest)).1 requests
      (told ++ (drain s error (stream :: rest)).2) := by
  have unstarted : exchanged (drain s error (stream :: rest)).2 = [] := rfl
  have one : callbacks (drain s error (stream :: rest)).2 =
      [(stream, .complete (some .connectionClosed))] := rfl
  let part : Part := ⟨stream, cs ++ [.complete (some .connectionClosed)]⟩
  refine .leaving (parts ++ [part]) error rest rfl ?_ ?_ ?_ ?_
  · rw [callbacks_append, heard, one, spoken_concat, spoken_concat]
    simp [part]
  · intro p mem
    rcases List.mem_append.mp mem with before | last
    · exact finished p before
    · obtain rfl := List.mem_singleton.mp last
      exact .cut begun .connectionClosed
  · simp [order, part]
  · rwa [exchanged_append, unstarted, List.append_nil]

/-- The task completes what it still holds, in order. -/
theorem drains {parts : List Part} {streams : List StreamId}
    (heard : callbacks told = spoken parts) (finished : ∀ p ∈ parts, Finished p.callbacks)
    (order : requests = parts.map (·.stream) ++ streams) (started : exchanged told <+: requests)
    (error : Option Error) :
    Tale (drain s error streams).1 requests (told ++ (drain s error streams).2) := by
  cases streams with
  | nil =>
    have unstarted : exchanged (drain s error []).2 = [] := rfl
    have silent : callbacks (drain s error []).2 = [] := rfl
    refine .gone parts (.inl rfl) ?_ finished ?_ ?_
    · rw [callbacks_append, silent, List.append_nil, heard]
    · rw [order, List.append_nil]
    · rwa [exchanged_append, unstarted, List.append_nil]
  | cons stream rest =>
    have begun : Begun [] := ⟨[], false, [], List.nil_prefix⟩
    refine completes begun ?_ finished order started error
    rw [spoken_concat, heard]
    simp

/-- After its completion a stream's part is over. -/
theorem ends (h : Tale s requests told) {stream : StreamId} {upgraded : Bool}
    (last : s.control = .delivering stream [] (.exchanged upgraded))
    (unlent : ∀ stream stage, t.job ≠ some (.exchanging stream stage))
    (waiting : t.control = .waiting) (queue : t.queue = s.queue)
    (unstarted : exchanged more = []) (silent : callbacks more = []) :
    Tale t requests (told ++ more) := by
  obtain ⟨parts, cs, suits, unfinished⟩ := h.of_telling last
  have whole : Finished cs := by simpa [Suits] using suits
  obtain ⟨heard, finished, order, started⟩ := unfinished.silent unstarted silent
  refine .between (parts ++ [⟨stream, cs⟩]) unlent waiting heard ?_ (queue ▸ order) started
  intro p mem
  rcases List.mem_append.mp mem with before | current
  · exact finished p before
  · obtain rfl := List.mem_singleton.mp current
    exact whole

/-- The task leaves its loop with what it holds. -/
theorem leaves (h : Tale s requests told) (waiting : s.control = .waiting)
    (commands : List Command) (error : Option Error) :
    Tale (leave { s with commands } error).1 requests
      (told ++ (leave { s with commands } error).2) := by
  by_cases lent : ∃ stream stage, s.job = some (.exchanging stream stage)
  · obtain ⟨stream, stage, held⟩ := lent
    obtain ⟨parts, cs, heard, unfinished⟩ := h.of_held waiting held
    have order : requests = parts.map (·.stream) ++ stream :: s.queue := by
      simpa using unfinished.order
    have started : exchanged told <+: requests := by
      rw [unfinished.started, unfinished.order]
      exact List.prefix_append ..
    simp only [leave, inFlight, held]
    exact completes heard.begun unfinished.heard unfinished.finished order started error
  · have unlent : ∀ stream stage, s.job ≠ some (.exchanging stream stage) :=
      fun stream stage held => lent ⟨stream, stage, held⟩
    obtain ⟨parts, heard, finished, order, started⟩ := h.of_idle waiting unlent
    have nothing : inFlight { s with commands } = [] := by
      unfold inFlight
      split
      · rename_i stream stage held
        exact absurd held (unlent stream stage)
      · rfl
    rw [leave, nothing]
    exact drains heard finished order (started ▸ order ▸ List.prefix_append ..) error

theorem move {taken : List StreamId} (h : Tale s requests told) (move : Move s taken more t) :
    Tale t (requests ++ taken) (told ++ more) := by
  cases move with
  | refuses refusals =>
    obtain ⟨unstarted, silent⟩ := refusals_silent refusals
    rw [List.append_nil requests]
    exact h.congr rfl rfl rfl unstarted silent
  | accepts | closes | installs | driverEnds =>
    rw [List.append_nil requests]
    exact h.congr rfl rfl rfl rfl rfl
  | fails error dialling =>
    rw [List.append_nil requests]
    obtain ⟨-, -, unasked, unstarted, silent⟩ := h.of_entry (.inl dialling)
    refine .gone [] (.inr rfl) (Eq.trans (callbacks_silent rfl) silent) (fun _ => nofun) unasked ?_
    rw [exchanged_silent rfl, unstarted]
    exact List.nil_prefix
  | opens dialling =>
    rw [List.append_nil requests]
    obtain ⟨free, unfilled, unasked, unstarted, silent⟩ := h.of_entry (.inl dialling)
    exact .early (.inr rfl) free unfilled unasked (Eq.trans (exchanged_silent rfl) unstarted)
      (Eq.trans (callbacks_silent rfl) silent)
  | enters settingUp =>
    rw [List.append_nil requests]
    obtain ⟨free, unfilled, unasked, unstarted, silent⟩ := h.of_entry (.inr settingUp)
    exact .between [] (by simp [free]) rfl (Eq.trans (callbacks_silent rfl) silent)
      (fun _ => nofun) (unasked.trans unfilled.symm) (Eq.trans (exchanged_silent rfl) unstarted)
  | receives stream rest waiting channel =>
    rw [List.append_nil told]
    cases h with
    | early control => simp [waiting] at control
    | between parts unlent _ heard finished order started =>
      exact .between parts unlent waiting heard finished (by simp [order]) started
    | amid parts part now unfinished =>
      cases now with
      | exchanging stage _ held heard =>
        exact .amid parts part (.exchanging stage waiting held heard)
          ⟨unfinished.heard, unfinished.finished, by simp [unfinished.order], unfinished.started⟩
      | telling _ _ control => simp [waiting] at control
    | leaving _ _ _ control => simp [waiting] at control
    | gone _ control => simp [waiting] at control
  | starts stream rest waiting free fresh idle queue =>
    rw [List.append_nil requests]
    obtain ⟨parts, heard, finished, order, started⟩ := h.of_idle waiting (by simp [free])
    refine .amid parts ⟨stream, []⟩ (.exchanging .requested waiting rfl .requested)
      ⟨?_, finished, ?_, ?_⟩
    · rw [spoken_concat, callbacks_silent rfl, heard]
      simp
    · simp [order, queue]
    · rw [exchanged_append, started]
      simp [exchanged, Effect.exchange?]
  | turns waiting held script =>
    obtain ⟨parts, cs, heard, unfinished⟩ := h.of_held waiting held
    simp only [List.append_nil]
    exact .amid parts ⟨_, cs⟩ (.telling _ _ rfl (script.suits heard)) unfinished
  | switches stream waiting held =>
    obtain ⟨parts, cs, heard, unfinished⟩ := h.of_held waiting held
    simp only [List.append_nil]
    refine .amid parts ⟨stream, cs⟩ (.telling _ _ rfl ?_) unfinished
    cases heard with
    | upgrading headers hasBody => exact .whole headers hasBody []
  | marks telling =>
    obtain ⟨parts, cs, suits, unfinished⟩ := h.of_telling telling
    simp only [List.append_nil]
    exact .amid parts ⟨_, cs⟩ (.telling _ _ rfl suits) (unfinished.silent rfl rfl)
  | @calls stream c rest following telling =>
    obtain ⟨parts, cs, suits, unfinished⟩ := h.of_telling telling
    simp only [List.append_nil]
    refine .amid parts ⟨stream, cs ++ [c]⟩ (.telling rest following rfl ?_) (unfinished.call c)
    simpa [Delivery.callback?] using suits
  | continues last =>
    obtain ⟨parts, cs, suits, unfinished⟩ := h.of_telling last
    simp only [List.append_nil]
    refine .amid parts ⟨_, cs⟩ (.exchanging _ rfl rfl ?_) unfinished
    simpa [Suits] using suits
  | returns last | runs _ last _ | rests last _ =>
    rw [List.append_nil requests]
    exact h.ends last (by simp) rfl rfl rfl rfl
  | leaves waiting exit =>
    rw [List.append_nil requests]
    exact h.leaves waiting _ _
  | drains draining =>
    rw [List.append_nil requests]
    cases h with
    | early control => simp [draining] at control
    | between _ _ control => simp [draining] at control
    | amid _ _ now =>
      cases now with
      | exchanging _ waiting => simp [draining] at waiting
      | telling _ _ control => simp [draining] at control
    | leaving parts _ _ control heard finished order started =>
      rw [draining] at control
      cases control
      exact Tale.drains heard finished order started _
    | gone _ control => simp [draining] at control
  | ends reported =>
    rw [List.append_nil requests]
    cases h with
    | early control => simp [reported] at control
    | between _ _ control => simp [reported] at control
    | amid _ _ now =>
      cases now with
      | exchanging _ waiting => simp [reported] at waiting
      | telling _ _ control => simp [reported] at control
    | leaving _ _ _ control => simp [reported] at control
    | gone parts _ heard finished order started =>
      rw [List.append_nil told]
      exact .gone parts (.inr rfl) heard finished order started

end Tale

end WebSocketClient.Connection

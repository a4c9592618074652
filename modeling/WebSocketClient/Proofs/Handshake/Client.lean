import WebSocketClient.Proofs.Handshake.Establishment

/-! # A client with a framing handler

An attempt whose factory makes framing handlers, beside the handler that its channel has taken. A
channel never runs a handler from inside the call that installs it, so the acts of the handler come
between the calls on the attempt. -/
namespace WebSocketClient.Handshake

def framingReply (options : HandlerOptions) (install : Framing.InstallReply) (socket : SocketId) :
    HandlerReply :=
  match (Framing.make options install).socket with
  | .ok _ => .installed socket
  | .error error => .refused error

def Event.framed (a : Attempt) (install : Framing.InstallReply) (socket : SocketId) :
    Event → Event
  | completed stream status error (some channel) _ =>
    .completed stream status error (some channel)
      (framingReply (handlerOptions a channel) install socket)
  | e => e

structure Client where
  attempt : Attempt
  handler : Option Framing.Handler

namespace Client

inductive Act
  /-- A call on the attempt. `install` is what the channel replies if a handler is offered to it,
  and `socket` the WebSocket made with that handler. -/
  | call (e : Event) (install : Framing.InstallReply) (socket : SocketId)
  | handle (input : Framing.Input)

inductive Entry
  | told (effect : Effect)
  | frame (call : Framing.Call)
deriving DecidableEq

def taken (told : List Effect) : Framing.InstallReply → Option Framing.Handler
  | .installed => (handlersAsked told).head?.bind fun options =>
      (Framing.make options .installed).offered
  | .refused _ => none

def next (c : Client) : Act → Client × List Entry
  | .call e install socket =>
    let (after, told) := Handshake.next c.attempt (e.framed c.attempt install socket)
    (⟨after, (taken told install).or c.handler⟩, told.map .told)
  | .handle input =>
    match c.handler with
    | none => (c, [])
    | some handler =>
      let (after, calls) := handler.next input
      (⟨c.attempt, some after⟩, calls.map .frame)

def run (c : Client) (acts : List Act) : Client := acts.foldl (fun c act => (c.next act).1) c

def entries (c : Client) : List Act → List Entry
  | [] => []
  | act :: rest => (c.next act).2 ++ entries (c.next act).1 rest

def Act.event? (a : Attempt) : Act → Option Event
  | call e install socket => some (e.framed a install socket)
  | handle _ => none

def events (c : Client) : List Act → List Event
  | [] => []
  | act :: rest => (act.event? c.attempt).toList ++ events (c.next act).1 rest

theorem run_concat (c : Client) (acts : List Act) (act : Act) :
    c.run (acts ++ [act]) = ((c.run acts).next act).1 := List.foldl_append

theorem entries_concat (c : Client) (acts : List Act) (act : Act) :
    c.entries (acts ++ [act]) = c.entries acts ++ ((c.run acts).next act).2 := by
  induction acts generalizing c with
  | nil => simp [entries, run]
  | cons first rest ih => simp only [List.cons_append, entries, ih, List.append_assoc]; rfl

theorem events_concat (c : Client) (acts : List Act) (act : Act) :
    c.events (acts ++ [act]) = c.events acts ++ (act.event? (c.run acts).attempt).toList := by
  induction acts generalizing c with
  | nil => simp [events, run]
  | cons first rest ih => simp only [List.cons_append, events, ih, List.append_assoc]; rfl

/-- A handler leaves the attempt alone. -/
theorem frames_only (c : Client) (input : Framing.Input) :
    (c.next (.handle input)).1.attempt = c.attempt ∧
      ∃ calls : List Framing.Call, (c.next (.handle input)).2 = calls.map .frame := by
  cases taken : c.handler with
  | none => exact ⟨by simp [next, taken], [], by simp [next, taken]⟩
  | some handler =>
    exact ⟨by simp [next, taken], (handler.next input).2, by simp [next, taken]⟩

/-- The attempt of a client runs by itself. -/
theorem run_attempt (c : Client) (acts : List Act) :
    (c.run acts).attempt = Handshake.run c.attempt (c.events acts) := by
  induction acts using List.reverseRecOn with
  | nil => rfl
  | append_singleton acts act ih =>
    rw [run_concat, events_concat]
    cases act with
    | call e install socket => simp [next, Act.event?, Handshake.run_concat, ih]
    | handle input =>
      rw [(frames_only _ input).1]
      simpa [Act.event?] using ih

theorem mem_told (c : Client) (acts : List Act) (effect : Effect) :
    .told effect ∈ c.entries acts ↔ effect ∈ effects c.attempt (c.events acts) := by
  induction acts using List.reverseRecOn with
  | nil => simp [entries, events, effects]
  | append_singleton acts act ih =>
    rw [entries_concat, events_concat, List.mem_append, ih]
    cases act with
    | call e install socket =>
      simp [next, Act.event?, effects_concat, run_attempt]
    | handle input =>
      obtain ⟨-, calls, same⟩ := frames_only (c.run acts) input
      simp [Act.event?, same]

def Opened (told : List Entry) : Prop :=
  ∃ reaction socket response, .told (.setup reaction (.opened socket) response) ∈ told

theorem Opened.append {first : List Entry} (h : Opened first) (rest : List Entry) :
    Opened (first ++ rest) := by
  obtain ⟨reaction, socket, response, told⟩ := h
  exact ⟨reaction, socket, response, List.mem_append_left _ told⟩

theorem opened_append (first rest : List Entry) :
    Opened (first ++ rest) ↔ Opened first ∨ Opened rest := by
  constructor
  · rintro ⟨reaction, socket, response, told⟩
    rcases List.mem_append.mp told with old | new
    · exact .inl ⟨reaction, socket, response, old⟩
    · exact .inr ⟨reaction, socket, response, new⟩
  · rintro (old | ⟨reaction, socket, response, new⟩)
    · exact old.append rest
    · exact ⟨reaction, socket, response, List.mem_append_right _ new⟩

/-- A handler is for clients only, and the factory's reply is the channel's. -/
theorem framingReply_eq (a : Attempt) (channel : ChannelId) (install : Framing.InstallReply)
    (socket : SocketId) :
    framingReply (handlerOptions a channel) install socket =
      match install with
      | .installed => .installed socket
      | .refused error => .refused error := by
  cases install <;> rfl

theorem channel?_framed (e : Event) (a : Attempt) (install : Framing.InstallReply)
    (socket : SocketId) : (e.framed a install socket).channel? = e.channel? := by
  cases e with
  | completed stream status error channel reply =>
    cases channel <;> cases status <;> cases error <;> rfl
  | _ => rfl

theorem opened_told (told : List Effect) :
    Opened (told.map .told) ↔
      ∃ socket reaction response, .setup reaction (.opened socket) response ∈ told := by
  constructor
  · rintro ⟨reaction, socket, response, mem⟩
    obtain ⟨effect, mem, eq⟩ := List.mem_map.mp mem
    cases eq
    exact ⟨socket, reaction, response, mem⟩
  · rintro ⟨socket, reaction, response, mem⟩
    exact ⟨reaction, socket, response, List.mem_map.mpr ⟨_, mem, rfl⟩⟩

/-- The channel takes a handler in the very call in which setup reports a WebSocket. -/
theorem taken_isSome_iff {life : Life} {a : Attempt} (h : Coherent life a) (e : Event)
    (install : Framing.InstallReply) (socket : SocketId) :
    (taken (Handshake.next a (e.framed a install socket)).2 install).isSome ↔
      Opened ((Handshake.next a (e.framed a install socket)).2.map .told) := by
  rw [opened_told]
  simp only [opened_iff h]
  have asked := handlersAsked_next a (e.framed a install socket)
  rw [channel?_framed] at asked
  generalize (Handshake.next a (e.framed a install socket)).2 = told at asked
  constructor
  · intro took
    cases install with
    | refused error => cases took
    | installed =>
      by_cases awaiting : a.phase = .awaitingResponse
      · cases found : e.channel? with
        | none => simp [taken, asked, awaiting, found] at took
        | some channel =>
          obtain ⟨stream, reply, rfl⟩ := Event.channel?_eq_some.mp found
          exact ⟨socket, awaiting, stream, channel, rfl⟩
      · simp [taken, asked, awaiting] at took
  · rintro ⟨s, awaiting, stream, channel, framed⟩
    have found : e.channel? = some channel := by
      rw [← channel?_framed e a install socket, framed]
      rfl
    obtain ⟨stream, reply, rfl⟩ := Event.channel?_eq_some.mp found
    cases install with
    | refused error => simp [Event.framed, framingReply_eq] at framed
    | installed => simp [taken, asked, awaiting, found, Framing.make, handlerOptions]

/-- A handler is on the channel once setup has reported a WebSocket, and its frame callbacks are
called after that. -/
structure Installed (c : Client) (heard : List Entry) : Prop where
  handler : c.handler.isSome ↔ Opened heard
  frames : ∀ before call after, heard = before ++ .frame call :: after → Opened before

theorem frames_append {first rest : List Entry}
    (old : ∀ before call after, first = before ++ .frame call :: after → Opened before)
    (new : ∀ before call after, rest = before ++ .frame call :: after → Opened (first ++ before)) :
    ∀ before call after, first ++ rest = before ++ .frame call :: after → Opened before := by
  intro before call after split
  rcases List.append_eq_append_iff.mp split with ⟨middle, rfl, tail⟩ | ⟨middle, same, tail⟩
  · exact new middle call after tail
  · cases middle with
    | nil =>
      rw [List.append_nil] at same
      have opened := new [] call after tail.symm
      rwa [List.append_nil, same] at opened
    | cons entry middle =>
      obtain ⟨rfl, -⟩ := List.cons.inj tail
      exact old before call middle same

theorem Installed.call {c : Client} {heard : List Entry} (h : Installed c heard) {life : Life}
    (coherent : Coherent life c.attempt) (e : Event) (install : Framing.InstallReply)
    (socket : SocketId) :
    Installed (c.next (.call e install socket)).1 (heard ++ (c.next (.call e install socket)).2) := by
  constructor
  · have took := taken_isSome_iff coherent e install socket
    rw [opened_append, ← h.handler]
    simp only [next]
    rw [← took, Option.isSome_or, Bool.or_eq_true]
    exact or_comm
  · apply frames_append h.frames
    intro before call after split
    have framed : .frame call ∈ (c.next (.call e install socket)).2 := by simp [split]
    simp [next] at framed

theorem Installed.handle {c : Client} {heard : List Entry} (h : Installed c heard)
    (input : Framing.Input) :
    Installed (c.next (.handle input)).1 (heard ++ (c.next (.handle input)).2) := by
  cases present : c.handler with
  | none =>
    have same : c.next (.handle input) = (c, []) := by simp [next, present]
    rw [same, List.append_nil]
    exact h
  | some handler =>
    have opened : Opened heard := by
      rw [← h.handler, present]
      rfl
    constructor
    · refine iff_of_true ?_ (opened.append _)
      simp [next, present]
    · apply frames_append h.frames
      intro before call after split
      exact opened.append before

theorem installed_run {o : Options} {a : Attempt} (fresh : Fresh o a) {acts : List Act}
    (kept : KeepsContract ((Client.mk a none).events acts)) :
    Installed ((Client.mk a none).run acts) ((Client.mk a none).entries acts) := by
  induction acts using List.reverseRecOn with
  | nil =>
    constructor
    · simp [run, entries, Opened]
    · intro before call after split
      cases before <;> cases split
  | append_singleton acts act ih =>
    rw [events_concat] at kept
    obtain ⟨life, led⟩ := kept.left
    have before := ih (by simp [KeepsContract, led])
    rw [run_concat, entries_concat]
    cases act with
    | handle input => exact before.handle input
    | call e install socket =>
      have coherent : Coherent life ((Client.mk a none).run acts).attempt := by
        rw [run_attempt]
        exact coherent_run fresh led
      exact before.call coherent e install socket

theorem failed_or_opened {o : Options} {a : Attempt} (fresh : Fresh o a) {acts : List Act}
    {reaction : SetupReaction} {error : Error} {response : Response}
    (failed : .told (.setup reaction (.failed error) response) ∈
      (Client.mk a none).entries acts) :
    ¬ Opened ((Client.mk a none).entries acts) := by
  rintro ⟨other, socket, shown, opened⟩
  rw [mem_told] at failed opened
  have once := setups_at_most_held a ((Client.mk a none).events acts)
  obtain ⟨held, given⟩ := Option.isSome_iff_exists.mp fresh.reaction
  rw [fresh.onSetup, given, List.countP_eq_length_filter] at once
  have first := List.mem_filter.mpr ⟨failed, (rfl : Effect.isSetup _ = true)⟩
  have second := List.mem_filter.mpr ⟨opened, (rfl : Effect.isSetup _ = true)⟩
  obtain ⟨only, single⟩ : ∃ only, List.filter Effect.isSetup _ = [only] :=
    List.length_eq_one_iff.mp (Nat.le_antisymm once (List.length_pos_of_mem first))
  rw [single, List.mem_singleton] at first second
  cases first.trans second.symm

end Client

section Establishment

variable {o : Options} {a : Attempt} {events : List Event} {e : Event}

theorem opened_when (fresh : Fresh o a) (kept : KeepsContract (events ++ [e]))
    (socket : SocketId) :
    (∃ reaction response, .setup reaction (.opened socket) response ∈ (next (run a events) e).2) ↔
      listens a events = true ∧ ∃ stream channel,
        e = .completed stream (some .switchingProtocols) none (some channel) (.installed socket) :=
    by
  obtain ⟨life, led⟩ := kept.left
  rw [opened_iff (coherent_run fresh led), listens_iff fresh kept]

theorem asked_when (fresh : Fresh o a) (kept : KeepsContract (events ++ [e]))
    (options : HandlerOptions) :
    .newHandler options ∈ (next (run a events) e).2 ↔
      listens a events = true ∧ ∃ stream channel reply,
        e = .completed stream (some .switchingProtocols) none (some channel) reply ∧
        options = ⟨channel, o.initialWindow, o.manualWindow, o.hasAllFrameCallbacks, false⟩ := by
  obtain ⟨life, led⟩ := kept.left
  have configured := configured_run fresh led
  rw [← mem_handlersAsked, handlersAsked_next, ← listens_iff fresh kept]
  by_cases awaiting : (run a events).phase = .awaitingResponse
  · have given (channel : ChannelId) : handlerOptions (run a events) channel =
        ⟨channel, o.initialWindow, o.manualWindow, o.hasAllFrameCallbacks, false⟩ := by
      simp [handlerOptions, configured.initialWindow, configured.manualWindow,
        configured.frameCallbacks (.inr awaiting)]
    rw [if_pos awaiting, Option.mem_toList, Option.map_eq_some_iff]
    constructor
    · rintro ⟨channel, found, rfl⟩
      obtain ⟨stream, reply, rfl⟩ := Event.channel?_eq_some.mp found
      exact ⟨awaiting, stream, channel, reply, rfl, given channel⟩
    · rintro ⟨-, stream, channel, reply, rfl, rfl⟩
      exact ⟨channel, rfl, given channel⟩
  · rw [if_neg awaiting]
    simp [awaiting]

end Establishment

/-- Setup reports a WebSocket exactly when the response is completed without an error while it is
awaited and nothing has failed, accepts the upgrade, comes with a channel, and the factory makes the
WebSocket. The factory is asked once at most, when all else is in order, and for what was
configured. With framing handlers the channel has taken one exactly when setup has reported a
WebSocket, and frame callbacks are called after that only. -/
theorem establishes_all_or_nothing {m : Allocator} {o : Options} {a : Attempt} {dial : Dial}
    (started : start m o = .ok (a, dial)) :
    (∀ events e, KeepsContract (events ++ [e]) →
      (∀ socket, (∃ reaction response,
          .setup reaction (.opened socket) response ∈ (next (run a events) e).2) ↔
        listens a events = true ∧ ∃ stream channel,
          e = .completed stream (some .switchingProtocols) none (some channel)
            (.installed socket)) ∧
      (∀ options, .newHandler options ∈ (next (run a events) e).2 ↔
        listens a events = true ∧ ∃ stream channel reply,
          e = .completed stream (some .switchingProtocols) none (some channel) reply ∧
          options = ⟨channel, o.initialWindow, o.manualWindow,
            o.onFrameBegin && o.onFramePayload && o.onFrameComplete, false⟩) ∧
      (handlersAsked (effects a (events ++ [e]))).length ≤ 1) ∧
    ∀ acts, KeepsContract ((Client.mk a none).events acts) →
      let client := (Client.mk a none).run acts
      let heard := (Client.mk a none).entries acts
      (client.handler.isSome ↔ Client.Opened heard) ∧
      (∀ reaction error response, .told (.setup reaction (.failed error) response) ∈ heard →
        client.handler = none ∧ ∀ call, .frame call ∉ heard) ∧
      ∀ before call after, heard = before ++ .frame call :: after → Client.Opened before := by
  have fresh := start_fresh started
  constructor
  · intro events e kept
    refine ⟨opened_when fresh kept, asked_when fresh kept, ?_⟩
    obtain ⟨life, led⟩ := Option.isSome_iff_exists.mp kept
    have once := handlersAsked_at_most_once fresh led
    omega
  · intro acts kept client heard
    have installed := Client.installed_run fresh kept
    refine ⟨installed.handler, ?_, installed.frames⟩
    intro reaction error response failed
    have unopened := Client.failed_or_opened fresh failed
    constructor
    · rw [← Option.not_isSome_iff_eq_none, installed.handler]
      exact unopened
    · intro call framed
      obtain ⟨before, after, split⟩ := List.append_of_mem framed
      apply unopened
      change Client.Opened heard
      rw [split]
      exact (installed.frames before call after split).append _

def framedOptions : Options :=
  { plainOptions with onFrameBegin := true, onFramePayload := true, onFrameComplete := true }

def framedActs : List Client.Act :=
  [.call (.connected 0 (.accepted 0)) .installed 0,
    .call (.completed 0 (some .switchingProtocols) none (some 2) (.installed 0)) .installed 4,
    .handle .turn, .handle (.read [129, 0]), .handle .turn]

theorem frames_follow_setup :
    ∃ a dial, start (.doubling 4096) framedOptions = .ok (a, dial) ∧
      KeepsContract ((Client.mk a none).events framedActs) ∧
      ((Client.mk a none).run framedActs).handler.isSome ∧
      ∃ before, (Client.mk a none).entries framedActs =
        before ++ [.frame (.event (.begin ⟨.text, true, 0⟩))] ∧ Client.Opened before := by
  obtain ⟨a, dial, started, kept, taken, last⟩ : ∃ a dial,
      start (.doubling 4096) framedOptions = .ok (a, dial) ∧
      KeepsContract ((Client.mk a none).events framedActs) ∧
      ((Client.mk a none).run framedActs).handler.isSome ∧
      ((Client.mk a none).entries framedActs).getLast? =
        some (.frame (.event (.begin ⟨.text, true, 0⟩))) :=
    ⟨_, _, rfl, by decide, by decide, by decide⟩
  obtain ⟨before, split⟩ := List.getLast?_eq_some_iff.mp last
  obtain ⟨-, -, framed⟩ := (establishes_all_or_nothing started).2 framedActs kept
  exact ⟨a, dial, started, kept, taken, before, split, framed before _ [] split⟩

end WebSocketClient.Handshake

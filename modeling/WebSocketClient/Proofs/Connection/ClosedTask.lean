import WebSocketClient.Proofs.Connection.Exchanges
import WebSocketClient.Proofs.Connection.Requests

/-! # A task that has been closed

A close travels as a command, and the outcome of the handler competes with it. Whichever the task
sees first is what it shuts down with, and it shuts down after a bounded number of turns. -/
namespace WebSocketClient.Connection

/-- What takes an upgraded task out of its loop once it has been closed. -/
inductive Seen
  | close
  | outcome (handler : HandlerId) (error : Option Error)
deriving DecidableEq

def Seen.error : Seen → Option Error
  | close => none
  | outcome _ error => error

def seen? (s : State) : Event → Option Seen
  | .receive =>
    if s.control = .waiting ∧ s.commands.head? = some (.close none) then some .close else none
  | .handlerEnded error =>
    match s.control, s.job with
    | .waiting, some (.handling handler) => some (.outcome handler error)
    | _, _ => none
  | _ => none

def firstSeen (s : State) : List Event → Option Seen
  | [] => none
  | e :: rest => (seen? s e).or (firstSeen (next s e).1 rest)

/-- The task takes a command, or a callback that it waits for returns. -/
def isTurn (s : State) : Event → Bool
  | .receive => s.control = .waiting
  | .returned =>
    match s.control with
    | .delivering .. | .draining .. => true
    | _ => false
  | _ => false

def turns (s : State) : List Event → Nat
  | [] => 0
  | e :: rest => (isTurn s e).toNat + turns (next s e).1 rest

/-- How many turns a task that has been closed can take. A command that is received may become a
stream to be completed. -/
def work (s : State) : Nat :=
  match s.control with
  | .waiting => 2 * s.commands.length + s.queue.length
  | .delivering _ steps _ => steps.length + 1 + (2 * s.commands.length + s.queue.length)
  | .draining _ rest => rest.length + 1
  | _ => 0

def Effect.shutdown? : Effect → Option (Option Error)
  | shutdown error => some error
  | _ => none

def shutdowns (told : List Effect) : List (Option Error) := told.filterMap Effect.shutdown?

inductive Upgraded (s : State) : Prop
  | loop (control : s.control = .waiting) (upgraded : s.upgraded = true)
      (unlent : ∀ stream stage, s.job ≠ some (.exchanging stream stage))
  | telling (stream : StreamId) (steps : List Delivery)
      (control : s.control = .delivering stream steps (.exchanged true))

/-- The WebSocket is open, and its task has not left the loop. -/
structure Established (s : State) : Prop where
  isOpen : s.isOpen = true
  channel : s.hasChannel = true
  inside : s.control.isOver = false

structure Closing (s : State) : Prop where
  shut : s.isOpen = false
  channel : ∃ streams : List StreamId, s.commands = streams.map .request ++ [.close none]
  place : Upgraded s

section Closing

variable {s t : State} {told : List Effect}

theorem mem_shutdowns {error : Option Error} : error ∈ shutdowns told ↔ .shutdown error ∈ told := by
  simp only [shutdowns, List.mem_filterMap]
  constructor
  · rintro ⟨effect, mem, same⟩
    cases effect with
    | shutdown => cases same; exact mem
    | _ => cases same
  · exact fun mem => ⟨_, mem, rfl⟩

theorem shutdowns_append (told more : List Effect) :
    shutdowns (told ++ more) = shutdowns told ++ shutdowns more := List.filterMap_append

/-- An upgraded task does nothing at the top of its loop but wait. -/
theorem proceed_upgraded (upgraded : s.upgraded = true) :
    proceed s = ({ s with control := .waiting }, []) :=
  if_neg fun fresh => by simp [upgraded] at fresh

structure Told (s t : State) (told : List Effect) : Prop where
  place : Upgraded t
  isOpen : t.isOpen = s.isOpen
  commands : t.commands = s.commands
  quiet : shutdowns told = []

theorem resume_told (s : State) (stream : StreamId) :
    Told s (resume s stream (.exchanged true)).1 (resume s stream (.exchanged true)).2 ∧
      work (resume s stream (.exchanged true)).1 = 2 * s.commands.length + s.queue.length := by
  simp only [resume]
  split
  · rw [proceed_upgraded rfl]
    exact ⟨⟨.loop rfl rfl (by simp), rfl, rfl, rfl⟩, rfl⟩
  · rw [proceed_upgraded rfl]
    exact ⟨⟨.loop rfl rfl (by simp), rfl, rfl, rfl⟩, rfl⟩

theorem deliver_told (s : State) (stream : StreamId) (steps : List Delivery) :
    Told s (deliver s stream (.exchanged true) steps).1
        (deliver s stream (.exchanged true) steps).2 ∧
      work (deliver s stream (.exchanged true) steps).1 ≤
        steps.length + (2 * s.commands.length + s.queue.length) := by
  induction steps with
  | nil =>
    obtain ⟨told, same⟩ := resume_told s stream
    refine ⟨told, Nat.le_of_eq ?_⟩
    rw [deliver, same, List.length_nil, Nat.zero_add]
  | cons step rest ih =>
    cases step with
    | status status =>
      obtain ⟨told, bound⟩ := ih
      exact ⟨⟨told.place, told.isOpen, told.commands, told.quiet⟩, by
        rw [List.length_cons]
        exact Nat.le_trans bound (by omega)⟩
    | callback callback => exact ⟨⟨.telling stream rest rfl, rfl, rfl, rfl⟩, Nat.le_refl _⟩

/-- The task has left its loop with an error, which it tells when its streams are completed. -/
inductive Leaving (error : Option Error) (s : State) (told : List Effect) : Prop
  | draining (rest : List StreamId) (control : s.control = .draining error rest)
      (shut : s.isOpen = false) (untold : shutdowns told = [])
  | gone (ended : Gone s) (shut : s.isOpen = false) (report : shutdowns told = [error])

theorem drain_leaving (shut : s.isOpen = false) (error : Option Error) (streams : List StreamId)
    (untold : shutdowns told = []) :
    Leaving error (drain s error streams).1 (told ++ (drain s error streams).2) ∧
      work (drain s error streams).1 = streams.length := by
  cases streams with
  | nil =>
    refine ⟨.gone (.inl rfl) rfl ?_, rfl⟩
    rw [shutdowns_append, untold]
    rfl
  | cons stream rest =>
    refine ⟨.draining rest rfl shut ?_, rfl⟩
    rw [shutdowns_append, untold]
    rfl

theorem shutdowns_of_any (quiet : told.any Effect.isShutdown = false) : shutdowns told = [] := by
  refine List.filterMap_eq_nil_iff.mpr fun effect mem => ?_
  have plain := List.any_eq_false.mp quiet effect mem
  cases effect with
  | shutdown => exact absurd rfl plain
  | _ => rfl

namespace Leaving

variable {error : Option Error}

theorem shut (h : Leaving error s told) : s.isOpen = false := by
  cases h with
  | draining _ _ shut => exact shut
  | gone _ shut => exact shut

theorem elsewhere (h : Leaving error s told) :
    s.control ≠ .waiting ∧ s.control ≠ .dialling := by
  cases h with
  | draining _ control => simp [control]
  | gone ended => rcases ended with control | control <;> simp [control]

theorem unseen (h : Leaving error s told) (e : Event) : seen? s e = none := by
  have waiting := h.elsewhere.1
  cases e with
  | receive => exact if_neg fun there => waiting there.1
  | handlerEnded =>
    cases control : s.control with
    | waiting => exact absurd control waiting
    | _ => simp only [seen?, control]
  | _ => rfl

theorem after (h : Leaving error s told) {earlier : List Effect}
    (untold : shutdowns earlier = []) : Leaving error s (earlier ++ told) := by
  have same : shutdowns (earlier ++ told) = shutdowns told := by
    rw [shutdowns_append, untold, List.nil_append]
  cases h with
  | draining rest control shut quiet => exact .draining rest control shut (same.trans quiet)
  | gone ended shut report => exact .gone ended shut (same.trans report)

/-- Only the ends of callbacks take it further. -/
theorem next (h : Leaving error s told) (e : Event) :
    Leaving error (next s e).1 (told ++ (Connection.next s e).2) ∧
      (isTurn s e).toNat + work (Connection.next s e).1 ≤ work s := by
  by_cases returned : e = .returned
  · subst returned
    cases h with
    | draining rest control shut untold =>
      obtain ⟨leaving, left⟩ := drain_leaving shut error rest untold
      simp only [Connection.next, onReturned, control]
      refine ⟨leaving, ?_⟩
      rw [left]
      simp [isTurn, work, control, Nat.add_comm]
    | gone ended shut report =>
      rcases ended with control | control
      · simp only [Connection.next, onReturned, control, List.append_nil]
        exact ⟨.gone (.inr rfl) shut report, by simp [isTurn, work, control]⟩
      · simp only [Connection.next, onReturned, control, List.append_nil]
        exact ⟨.gone (.inr control) shut report, by simp [isTurn, work, control]⟩
  · obtain ⟨waiting, dialling⟩ := h.elsewhere
    obtain ⟨more, stays, -, -, quiet⟩ := next_closed h.shut waiting dialling returned
    have idle : isTurn s e = false := by
      cases e with
      | receive => exact decide_eq_false waiting
      | returned => exact absurd rfl returned
      | _ => rfl
    rw [stays, idle]
    refine ⟨?_, Nat.le_of_eq (Nat.zero_add _)⟩
    have silent : shutdowns (told ++ more) = shutdowns told := by
      rw [shutdowns_append, shutdowns_of_any quiet, List.append_nil]
    cases h with
    | draining rest control shut untold => exact .draining rest control shut (silent.trans untold)
    | gone ended shut report => exact .gone ended shut (silent.trans report)

end Leaving

theorem leave_leaving (shut : s.isOpen = false) (free : inFlight s = []) (error : Option Error) :
    Leaving error (leave s error).1 (leave s error).2 ∧
      work (leave s error).1 = s.queue.length := by
  rw [leave, free]
  exact @drain_leaving { s with job := none, queue := [] } [] shut error s.queue rfl

structure Stays (s : State) (e : Event) : Prop where
  unseen : seen? s e = none
  closing : Closing (next s e).1
  quiet : shutdowns (next s e).2 = []
  bound : (isTurn s e).toNat + work (next s e).1 ≤ work s

structure Leaves (s : State) (e : Event) (cause : Seen) : Prop where
  seen : seen? s e = some cause
  leaving : Leaving cause.error (next s e).1 (next s e).2
  bound : (isTurn s e).toNat + work (next s e).1 ≤ work s

namespace Closing

/-- An event that changes nothing, as all that the user asks for now. -/
theorem unchanged (h : Closing s) {e : Event} {more : List Effect} (same : next s e = (s, more))
    (unseen : seen? s e = none) (idle : isTurn s e = false) (quiet : shutdowns more = []) :
    Stays s e := by
  refine ⟨unseen, ?_, ?_, ?_⟩
  · rwa [same]
  · rwa [same]
  · rw [same, idle]
    exact Nat.le_of_eq (Nat.zero_add _)

/-- The close is what the task receives last. -/
theorem receive_close (h : Closing s) (control : s.control = .waiting)
    (unlent : ∀ stream stage, s.job ≠ some (.exchanging stream stage))
    (last : s.commands = [.close none]) : Leaves s .receive .close := by
  have flight : inFlight { s with commands := [] } = [] := by
    unfold inFlight
    split
    · rename_i stream stage held
      exact absurd held (unlent stream stage)
    · rfl
  obtain ⟨leaving, left⟩ := @leave_leaving { s with commands := [] } h.shut flight none
  have goes : Connection.next s .receive = leave { s with commands := [] } none := by
    simp only [Connection.next, if_pos control, onReceive, last]
  have turn : isTurn s .receive = true := decide_eq_true control
  refine ⟨?_, ?_, ?_⟩
  · exact if_pos ⟨control, by rw [last]; rfl⟩
  · rw [goes]
    exact leaving
  · rw [goes, left, turn, work, control]
    simp only [last, List.length_singleton, Bool.toNat_true]
    omega

/-- A request that is received before the close waits for its completion. -/
theorem receive_request (h : Closing s) (control : s.control = .waiting)
    (upgraded : s.upgraded = true)
    (unlent : ∀ stream stage, s.job ≠ some (.exchanging stream stage))
    {stream : StreamId} {streams : List StreamId}
    (channel : s.commands = (stream :: streams).map .request ++ [.close none]) :
    Stays s .receive := by
  have goes : Connection.next s .receive =
      ({ s with
          commands := streams.map .request ++ [.close none]
          queue := s.queue ++ [stream]
          control := .waiting }, []) := by
    simp only [Connection.next, if_pos control, onReceive, channel, List.map_cons,
      List.cons_append]
    exact proceed_upgraded upgraded
  have turn : isTurn s .receive = true := decide_eq_true control
  refine ⟨?_, ?_, ?_, ?_⟩
  · exact if_neg fun first => by simp [channel] at first
  · rw [goes]
    exact ⟨h.shut, ⟨streams, rfl⟩, .loop rfl upgraded unlent⟩
  · rw [goes]
    rfl
  · rw [goes, turn]
    simp only [work, control, channel, List.length_append, List.length_map, List.length_cons,
      List.length_nil, Bool.toNat_true]
    omega

theorem receive (h : Closing s) : Stays s .receive ∨ ∃ cause, Leaves s .receive cause := by
  cases h.place with
  | telling stream steps control =>
    have elsewhere : s.control ≠ .waiting := by simp [control]
    exact .inl (h.unchanged (if_neg elsewhere) (if_neg fun there => elsewhere there.1)
      (decide_eq_false elsewhere) rfl)
  | loop control upgraded unlent =>
    obtain ⟨streams, channel⟩ := h.channel
    cases streams with
    | nil => exact .inr ⟨.close, h.receive_close control unlent channel⟩
    | cons stream streams => exact .inl (h.receive_request control upgraded unlent channel)

theorem returned (h : Closing s) : Stays s .returned := by
  cases h.place with
  | loop control upgraded unlent =>
    have same : Connection.next s .returned = (s, []) := by
      simp only [Connection.next, onReturned, control]
    exact h.unchanged same rfl (by simp only [isTurn, control]) rfl
  | telling stream steps control =>
    obtain ⟨told, bound⟩ := deliver_told s stream steps
    obtain ⟨streams, channel⟩ := h.channel
    have goes : Connection.next s .returned = deliver s stream (.exchanged true) steps := by
      simp only [Connection.next, onReturned, control]
    have start : work s = steps.length + 1 + (2 * s.commands.length + s.queue.length) := by
      simp only [work, control]
    have turn : isTurn s .returned = true := by simp only [isTurn, control]
    refine ⟨rfl, ?_, ?_, ?_⟩
    · rw [goes]
      exact ⟨told.isOpen.trans h.shut, ⟨streams, told.commands.trans channel⟩, told.place⟩
    · rw [goes]
      exact told.quiet
    · rw [goes, turn, start, Bool.toNat_true]
      omega

theorem driverEnded (h : Closing s) (error : Option Error) : Stays s (.driverEnded error) := by
  by_cases fresh : s.control = .waiting ∧ s.driverEnd = none
  · cases h.place with
    | telling stream steps control => simp [control] at fresh
    | loop control upgraded unlent =>
      have goes : Connection.next s (.driverEnded error) =
          ({ s with driverEnd := some error, control := .waiting }, []) := by
        simp only [Connection.next, if_pos fresh]
        exact proceed_upgraded upgraded
      refine ⟨rfl, ?_, ?_, ?_⟩
      · rw [goes]
        exact ⟨h.shut, h.channel, .loop rfl upgraded unlent⟩
      · rw [goes]
        rfl
      · rw [goes]
        simp [isTurn, work, control]
  · exact h.unchanged (if_neg fresh) rfl rfl rfl

/-- No exchange is under way, so only a handler reports. -/
theorem reported (h : Closing s) {e : Event}
    (reports : Connection.next s e =
      match s.control, s.job with
      | .waiting, some job => onJob s job e
      | _, _ => (s, []))
    (handling : ∀ handler, onJob s (.handling handler) e = (s, [])) :
    Connection.next s e = (s, []) := by
  rw [reports]
  split
  · rename_i job control held
    cases job with
    | handling handler => exact handling handler
    | exchanging stream stage =>
      cases h.place with
      | loop _ _ unlent => exact absurd held (unlent stream stage)
      | telling _ _ control' => simp [control] at control'
  · rfl

theorem handlerEnded (h : Closing s) (error : Option Error) :
    Stays s (.handlerEnded error) ∨ ∃ cause, Leaves s (.handlerEnded error) cause := by
  by_cases ends : s.control = .waiting ∧ ∃ handler, s.job = some (.handling handler)
  · obtain ⟨control, handler, held⟩ := ends
    have goes : Connection.next s (.handlerEnded error) = leave { s with job := none } error := by
      simp only [Connection.next, control, held, onJob]
    obtain ⟨leaving, left⟩ := @leave_leaving { s with job := none } h.shut rfl error
    refine .inr ⟨.outcome handler error, ?_, ?_, ?_⟩
    · simp only [seen?, control, held]
    · rw [goes]
      exact leaving
    · rw [goes, left]
      simp only [isTurn, work, control, Bool.toNat_false]
      omega
  · have unseen : seen? s (.handlerEnded error) = none := by
      simp only [seen?]
      split
      · rename_i handler control held
        exact absurd ⟨control, handler, held⟩ ends
      · rfl
    have same : Connection.next s (.handlerEnded error) = (s, []) := by
      simp only [Connection.next]
      split
      · rename_i job control held
        cases job with
        | handling handler => exact absurd ⟨control, handler, held⟩ ends
        | exchanging stream stage => rfl
      · rfl
    exact .inl (h.unchanged same unseen rfl rfl)

theorem next (h : Closing s) (e : Event) : Stays s e ∨ ∃ cause, Leaves s e cause := by
  have dialling : s.control ≠ .dialling := by
    cases h.place with
    | loop control => simp [control]
    | telling _ _ control => simp [control]
  cases e with
  | receive => exact h.receive
  | handlerEnded error => exact h.handlerEnded error
  | returned => exact .inl h.returned
  | driverEnded error => exact .inl (h.driverEnded error)
  | request => exact .inl (h.unchanged (if_pos h.shut) rfl rfl rfl)
  | install => exact .inl (h.unchanged (if_pos h.shut) rfl rfl rfl)
  | close => exact .inl (h.unchanged (if_neg (by simp [h.shut])) rfl rfl rfl)
  | dialFailed => exact .inl (h.unchanged (if_neg dialling) rfl rfl rfl)
  | dialled => exact .inl (h.unchanged (if_neg dialling) rfl rfl rfl)
  | _ => exact .inl (h.unchanged (h.reported rfl fun _ => rfl) rfl rfl rfl)

end Closing

/-- What has come of a close since it was asked for. -/
inductive Course (s : State) (told : List Effect) : Option Seen → Prop
  | closing (closing : Closing s) (untold : shutdowns told = []) : Course s told none
  | leaving {cause : Seen} (leaving : Leaving cause.error s told) : Course s told (some cause)

theorem Course.step {seen : Option Seen} (h : Course s told seen) (e : Event) :
    Course (next s e).1 (told ++ (next s e).2) (seen.or (seen? s e)) ∧
      (isTurn s e).toNat + work (next s e).1 ≤ work s := by
  cases h with
  | leaving leaving =>
    obtain ⟨later, bound⟩ := leaving.next e
    exact ⟨.leaving later, bound⟩
  | closing closing untold =>
    rcases closing.next e with stays | ⟨cause, leaves⟩
    · rw [Option.none_or, stays.unseen]
      refine ⟨.closing stays.closing ?_, stays.bound⟩
      rw [shutdowns_append, untold, stays.quiet]
      rfl
    · rw [Option.none_or, leaves.seen]
      exact ⟨.leaving (leaves.leaving.after untold), leaves.bound⟩

theorem Course.run {seen : Option Seen} (h : Course s told seen) (events : List Event) :
    Course (run s events) (told ++ effects s events) (seen.or (firstSeen s events)) ∧
      turns s events + work (run s events) ≤ work s := by
  induction events generalizing s told seen with
  | nil =>
    rw [effects, firstSeen, List.append_nil, Option.or_none]
    exact ⟨h, Nat.le_of_eq (Nat.zero_add _)⟩
  | cons e events ih =>
    obtain ⟨course, bound⟩ := h.step e
    obtain ⟨later, bounds⟩ := ih course
    rw [effects, firstSeen, ← List.append_assoc, ← Option.or_assoc]
    refine ⟨later, ?_⟩
    change (isTurn s e).toNat + turns (next s e).1 events + work (run (next s e).1 events) ≤ _
    omega

/-- The shutdown is told with what was seen first. -/
theorem Course.error {seen : Option Seen} (h : Course s told seen) {error : Option Error}
    (shutdown : .shutdown error ∈ told) : ∃ cause, seen = some cause ∧ error = cause.error := by
  rw [← mem_shutdowns] at shutdown
  cases h with
  | closing _ untold => simp [untold] at shutdown
  | @leaving cause leaving =>
    refine ⟨cause, rfl, ?_⟩
    cases leaving with
    | draining _ _ _ untold => simp [untold] at shutdown
    | gone _ _ report => simpa [report] using shutdown

/-- The shutdown has been told just when there is nothing left to do. -/
theorem Course.over_iff {seen : Option Seen} (h : Course s told seen) :
    (∃ error, .shutdown error ∈ told) ↔ work s = 0 := by
  simp only [← mem_shutdowns]
  cases h with
  | closing closing untold =>
    obtain ⟨streams, channel⟩ := closing.channel
    cases closing.place with
    | loop control => simp [untold, work, control, channel]
    | telling _ _ control => simp [untold, work, control]
  | leaving leaving =>
    cases leaving with
    | draining _ control _ untold => simp [untold, work, control]
    | gone ended _ report => rcases ended with control | control <;> simp [report, work, control]

/-- What is left to do can be done. -/
theorem Course.turn {seen : Option Seen} (h : Course s told seen) (left : work s ≠ 0) :
    isTurn s .receive = true ∨ isTurn s .returned = true := by
  cases h with
  | closing closing =>
    cases closing.place with
    | loop control => exact .inl (decide_eq_true control)
    | telling _ _ control => exact .inr (by simp only [isTurn, control])
  | leaving leaving =>
    cases leaving with
    | draining _ control => exact .inr (by simp only [isTurn, control])
    | gone ended => rcases ended with control | control <;> simp [work, control] at left

end Closing

section Start

variable {s t : State}

theorem Move.open_receiving {requests : List StreamId} {told : List Effect}
    (move : Move s requests told t) (h : s.isOpen = true → s.receiving = true) :
    t.isOpen = true → t.receiving = true := by
  have drains {s : State} (error : Option Error) (streams : List StreamId)
      (h : s.isOpen = true → s.receiving = true) :
      (drain s error streams).1.isOpen = true → (drain s error streams).1.receiving = true := by
    cases streams with
    | nil => exact fun never => Bool.noConfusion never
    | cons => exact h
  cases move with
  | closes => exact fun never => Bool.noConfusion never
  | opens => exact fun _ => rfl
  | leaves | drains => exact drains _ _ h
  | _ => exact h

/-- While the connection is open, its commands are received. -/
theorem open_receiving_run (events : List Event) :
    (run initial events).isOpen = true → (run initial events).receiving = true :=
  run_keeps (fun s _ _ => s.isOpen = true → s.receiving = true) (fun never => Bool.noConfusion never)
    (fun move _ _ h => move.open_receiving h) events

theorem requests_of_unclosed {commands : List Command}
    (unclosed : ∀ error, .close error ∉ commands) :
    ∃ streams : List StreamId, commands = streams.map .request := by
  induction commands with
  | nil => exact ⟨[], rfl⟩
  | cons command commands ih =>
    obtain ⟨streams, rfl⟩ := ih fun error mem => unclosed error (List.mem_cons_of_mem _ mem)
    cases command with
    | request stream => exact ⟨stream :: streams, rfl⟩
    | close error => exact absurd List.mem_cons_self (unclosed error)

/-- A channel comes with the upgrade. -/
theorem upgraded_run {events : List Event} (channel : (run initial events).hasChannel = true)
    (inside : (run initial events).control.isOver = false) : Upgraded (run initial events) := by
  cases barred_run channel with
  | switched stream steps control => exact .telling stream steps control
  | gone control => simp [control] at inside
  | upgraded done =>
    cases sender_run events with
    | back _ _ fresh => simp [fresh] at done
    | lent _ _ _ _ fresh => simp [fresh] at done
    | spent _ unlent control => exact .loop control done unlent
    | left _ control => simp [control] at inside

theorem Established.closing {events : List Event} (h : Established (run initial events)) :
    Closing (next (run initial events) (.close none)).1 := by
  have last := closesLast_run events
  have place := upgraded_run h.channel h.inside
  have receiving := open_receiving_run events h.isOpen
  have unclosed (error : Option Error) : .close error ∉ (run initial events).commands := by
    intro mem
    obtain ⟨first, rest, split⟩ := List.append_of_mem mem
    have shut := (last first error rest split).2
    simp [h.isOpen] at shut
  obtain ⟨streams, requests⟩ := requests_of_unclosed unclosed
  simp only [next, onUser, h.isOpen, if_true, receiving]
  refine ⟨rfl, ⟨streams, by rw [requests]⟩, ?_⟩
  cases place with
  | loop control upgraded unlent => exact .loop control upgraded unlent
  | telling stream steps control => exact .telling stream steps control

end Start

end WebSocketClient.Connection

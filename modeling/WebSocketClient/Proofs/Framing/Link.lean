import WebSocketClient.Proofs.Framing.Window

/-! # Links

A link is a handler at work together with its transport: the chunks that are still to come, and how
the octets end after them. A schedule says what happens next, in any order. It is fair to the link
if whatever the link waits for happens sooner or later. -/
namespace WebSocketClient.Framing

inductive Ending
  | closed
  | lost (kind : IoKind)
deriving DecidableEq

namespace Ending

def input : Ending → Input
  | closed => .read []
  | lost kind => .readFailed kind

def error : Ending → Error
  | closed => .connectionClosed
  | lost kind => .io kind

end Ending

inductive Act
  | turn
  | arrive
  | grant (size : Nat)
  | answer
deriving DecidableEq

structure Link where
  worker : Worker
  coming : List Bytes
  ending : Ending
deriving DecidableEq

namespace Link

def initial (window : Nat) (manual callbacks : Bool) (chunks : List Bytes) (ending : Ending) :
    Link := ⟨Worker.initial window manual callbacks, chunks, ending⟩

def handler (l : Link) : Handler := l.worker.handler

def input (l : Link) : Act → Input
  | .turn => .turn
  | .arrive =>
    match l.coming with
    | [] => l.ending.input
    | chunk :: _ => .read chunk
  | .grant size => .grant size
  | .answer => .answer true

def IsReading (l : Link) : Prop := l.worker.seen = none ∧ l.handler.phase = .reading

instance (l : Link) : Decidable l.IsReading := inferInstanceAs (Decidable (_ ∧ _))

def next (l : Link) (a : Act) : Link × List Call :=
  ({ l with
      worker := (l.worker.next (l.input a)).1
      coming := if a = .arrive ∧ l.IsReading then l.coming.tail else l.coming },
    (l.worker.next (l.input a)).2)

def run (l : Link) (acts : List Act) : Link := acts.foldl (fun l a => (next l a).1) l

def calls (l : Link) : List Act → List Call
  | [] => []
  | a :: rest => (next l a).2 ++ calls (next l a).1 rest

theorem run_concat (l : Link) (acts : List Act) (a : Act) :
    l.run (acts ++ [a]) = ((l.run acts).next a).1 := List.foldl_append

theorem calls_concat (l : Link) (acts : List Act) (a : Act) :
    l.calls (acts ++ [a]) = l.calls acts ++ ((l.run acts).next a).2 := by
  induction acts generalizing l with
  | nil => simp [calls, run]
  | cons first rest ih =>
    rw [List.cons_append, calls, ih, calls, List.append_assoc]
    rfl

/-- The act is one that the link waits for. A handler that has ended waits for nothing. -/
def Serves (l : Link) (a : Act) : Prop :=
  if l.worker.seen.isSome then a = .turn
  else
    match l.handler.phase with
    | .ready => a = .turn
    | .reading => a = .arrive
    | .blocked => if l.handler.window = 0 then ∃ size, 0 < size ∧ a = .grant size else a = .turn
    | .calling _ | .interrupting _ => a = .answer
    | .finished _ => True

def upTo (schedule : Nat → Act) (n : Nat) : List Act := (List.range n).map schedule

theorem upTo_succ (schedule : Nat → Act) (n : Nat) :
    upTo schedule (n + 1) = upTo schedule n ++ [schedule n] := by
  simp [upTo, List.range_succ]

/-- What the link waits for happens sooner or later. In particular a spent window that keeps the
handler from going on is opened. -/
def Fair (l : Link) (schedule : Nat → Act) : Prop :=
  ∀ n, ∃ m, n ≤ m ∧ (l.run (upTo schedule m)).Serves (schedule m)

end Link

inductive Goes (l : Link) : Act → Link → List Call → Prop
  | turn {after calls event} (works : Works l.worker .turn after calls event) :
      Goes l .turn { l with worker := after } calls
  | widen {size} :
      Goes l (.grant size) { l with worker := ⟨l.handler.grant size, l.worker.seen⟩ } []
  | answer {after calls event} (works : Works l.worker (.answer true) after calls event) :
      Goes l .answer { l with worker := after } calls
  | wait (busy : ¬ l.IsReading) : Goes l .arrive l []
  | fill {chunk rest} (reading : l.IsReading) (coming : l.coming = chunk :: rest)
      (nonempty : chunk ≠ []) :
      Goes l .arrive
        { l with
          worker :=
            ⟨{ l.handler with buffer := l.handler.buffer ++ chunk, phase := .ready }, none⟩
          coming := rest } []
  | stop (reading : l.IsReading) (coming : l.coming = []) :
      Goes l .arrive { l with worker := ⟨(l.handler.fail l.ending.error).1, none⟩ }
        (l.handler.fail l.ending.error).2

namespace Link

theorem awaits_arrive {l : Link} : l.worker.Awaits (l.input .arrive) ↔ l.IsReading := by
  unfold input
  dsimp only
  split
  · cases l.ending <;> exact Iff.rfl
  · exact Iff.rfl

theorem next_of_unawaited {l : Link} {a : Act} (unawaited : ¬ l.worker.Awaits (l.input a)) :
    l.next a = (l, []) := by
  have busy : ¬ (a = .arrive ∧ l.IsReading) := by
    rintro ⟨rfl, reading⟩
    exact unawaited (awaits_arrive.mpr reading)
  rw [next, Worker.next_of_unawaited unawaited, if_neg busy]

theorem next_grant (l : Link) (size : Nat) :
    l.next (.grant size) = ({ l with worker := ⟨l.handler.grant size, l.worker.seen⟩ }, []) := by
  simp only [next, input, Worker.next_grant, reduceCtorEq, false_and, if_false]
  rfl

theorem next_arrive_cons {l : Link} {chunk : Bytes} {rest : List Bytes} (reading : l.IsReading)
    (coming : l.coming = chunk :: rest) (nonempty : chunk ≠ []) :
    l.next .arrive =
      ({ l with
          worker :=
            ⟨{ l.handler with buffer := l.handler.buffer ++ chunk, phase := .ready }, none⟩
          coming := rest }, []) := by
  have phase : l.worker.handler.phase = .reading := reading.2
  simp [next, input, handler, Worker.next, Handler.next, reading, reading.1, coming, nonempty,
    phase]

theorem next_arrive_nil {l : Link} (reading : l.IsReading) (coming : l.coming = []) :
    l.next .arrive = ({ l with worker := ⟨(l.handler.fail l.ending.error).1, none⟩ },
      (l.handler.fail l.ending.error).2) := by
  have phase : l.worker.handler.phase = .reading := reading.2
  cases ending : l.ending <;>
    simp [next, input, handler, Worker.next, Handler.next, reading.1, coming, phase, ending,
      Ending.input, Ending.error]

structure Valid (l : Link) : Prop where
  settled : l.worker.Settled
  chunked : ∀ chunk ∈ l.coming, chunk ≠ []

theorem Valid.goes {l : Link} (valid : l.Valid) (a : Act) :
    Goes l a (l.next a).1 (l.next a).2 := by
  cases a with
  | turn => exact .turn (l.worker.works .turn)
  | arrive =>
    by_cases reading : l.IsReading
    · cases coming : l.coming with
      | nil =>
        rw [next_arrive_nil reading coming]
        exact .stop reading coming
      | cons chunk rest =>
        have nonempty : chunk ≠ [] := by
          apply valid.chunked
          rw [coming]
          exact List.mem_cons_self ..
        rw [next_arrive_cons reading coming nonempty]
        exact .fill reading coming nonempty
    · rw [next_of_unawaited (mt awaits_arrive.mp reading)]
      exact .wait reading
  | grant size =>
    rw [next_grant]
    exact .widen
  | answer => exact .answer (l.worker.works (.answer true))

theorem initial_valid (window : Nat) (manual callbacks : Bool) {chunks : List Bytes}
    (nonempty : ∀ chunk ∈ chunks, chunk ≠ []) (ending : Ending) :
    (initial window manual callbacks chunks ending).Valid := by
  constructor
  · intro seen
    cases seen
  · exact nonempty

theorem Valid.next {l : Link} (h : l.Valid) (a : Act) : (l.next a).1.Valid := by
  constructor
  · exact h.settled.next (l.input a)
  · intro chunk mem
    dsimp only [Link.next] at mem
    split at mem
    · exact h.chunked chunk (List.mem_of_mem_tail mem)
    · exact h.chunked chunk mem

theorem Valid.run {l : Link} (h : l.Valid) (acts : List Act) : (l.run acts).Valid := by
  induction acts using List.reverseRecOn with
  | nil => exact h
  | append_singleton acts a ih =>
    rw [run_concat]
    exact ih.next a

/-- No turn is under way in a handler that waits for something. -/
theorem Valid.between {l : Link} (valid : l.Valid) (waits : l.handler.phase ≠ .ready) :
    l.worker.seen = none := by
  by_contra within
  exact waits (valid.settled (Option.isSome_iff_ne_none.mpr within))

/-- A link that has ended takes grants, and nothing else. -/
theorem next_of_finished {l : Link} (valid : l.Valid) {error : Option Error}
    (ended : l.handler.phase = .finished error) (a : Act) :
    (l.next a).1.handler.phase = .finished error ∧ (l.next a).2 = [] := by
  by_cases grant : ∃ size, a = .grant size
  · obtain ⟨size, rfl⟩ := grant
    rw [next_grant]
    exact ⟨ended, rfl⟩
  · have between : l.worker.seen = none := valid.between (by simp [ended])
    have unawaited : ¬ l.worker.Awaits (l.input a) := by
      have phase : l.worker.handler.phase = .finished error := ended
      cases a with
      | turn => simp [input, Worker.Awaits, between, phase]
      | arrive =>
        rw [awaits_arrive]
        simp [IsReading, handler, phase]
      | grant size => exact absurd ⟨size, rfl⟩ grant
      | answer => simp [input, Worker.Awaits, phase]
    rw [next_of_unawaited unawaited]
    exact ⟨ended, rfl⟩

theorem finished_stays {l : Link} (valid : l.Valid) {schedule : Nat → Act} {n : Nat}
    {error : Option Error} (ended : (l.run (upTo schedule n)).handler.phase = .finished error)
    {m : Nat} (later : n ≤ m) : (l.run (upTo schedule m)).handler.phase = .finished error := by
  induction later with
  | refl => exact ended
  | step _ ih =>
    rw [upTo_succ, run_concat]
    exact (next_of_finished (valid.run _) ih _).1

end Link

end WebSocketClient.Framing

import WebSocketClient.Proofs.Framing.Link

/-! # Progress

What is still to do in a link is bounded by the octets that its handler has not taken yet. Every act
that the link waits for leaves less to do, and no act leaves more. So the handler ends under every
schedule that keeps on serving it. -/
namespace WebSocketClient.Framing

/-- How much may happen before a worker takes octets, or ends. A turn that sees a spent window comes
before the wait for window, and one that sees some comes after it and before the wait for octets. -/
def Worker.rank (w : Worker) : Nat :=
  match w.seen, w.handler.phase with
  | some limit, _ => if limit = 0 then 7 else 3
  | none, .finished _ => 0
  | none, .interrupting _ => 1
  | none, .reading => 2
  | none, .ready => if w.handler.limit = 0 then 8 else 4
  | none, .blocked => if w.handler.window = 0 then 6 else 5
  | none, .calling _ => 9

namespace Handler

theorem grant_window {h : Handler} {size : Nat} (positive : 0 < h.window + size) :
    (h.grant size).window ≠ 0 := by
  have room : 0 < maxSize := by decide
  unfold grant saturatingAdd
  dsimp only
  omega

theorem limit_pos {h : Handler} (opened : h.window ≠ 0) : h.limit ≠ 0 := by
  have room : 0 < maxSize := by decide
  unfold limit
  split <;> omega

theorem grant_limit {h : Handler} (positive : h.limit ≠ 0) (size : Nat) :
    (h.grant size).limit ≠ 0 := by
  cases manual : h.manual with
  | true =>
    apply limit_pos
    apply grant_window
    simp only [limit, manual, if_true] at positive
    omega
  | false => simpa [limit, grant, manual] using positive

def effort (h : Handler) : Nat := h.decoder.effort h.buffer

end Handler

namespace Worker

theorem rank_le (w : Worker) : w.rank ≤ 9 := by
  unfold rank
  split
  · split <;> omega
  · omega
  · omega
  · omega
  · split <;> omega
  · split <;> omega
  · omega

theorem rank_of_seen {w : Worker} {limit : Nat} (within : w.seen = some limit) :
    w.rank = if limit = 0 then 7 else 3 := by
  simp only [rank, within]

theorem rank_of_calling {w : Worker} {event : Frame.Event} (between : w.seen = none)
    (calling : w.handler.phase = .calling event) : w.rank = 9 := by
  simp only [rank, between, calling]

theorem rank_of_reading {w : Worker} (between : w.seen = none)
    (reading : w.handler.phase = .reading) : w.rank = 2 := by
  simp only [rank, between, reading]

theorem rank_fail (h : Handler) (error : Error) :
    (⟨(h.fail error).1, none⟩ : Worker).rank ≤ 1 := by
  unfold Handler.fail
  split
  · split <;> simp [rank]
  · simp [rank]

theorem rank_proceed (h : Handler) (event : Frame.Event) :
    (⟨h.proceed event, none⟩ : Worker).rank < 9 := by
  unfold Handler.proceed
  split
  · simp [rank]
  · simp only [rank]
    split <;> omega

theorem rank_grant (w : Worker) (size : Nat) :
    (⟨w.handler.grant size, w.seen⟩ : Worker).rank ≤ w.rank := by
  have limit (positive : w.handler.limit ≠ 0) := Handler.grant_limit positive size
  have window (opened : w.handler.window ≠ 0) : (w.handler.grant size).window ≠ 0 :=
    Handler.grant_window (by omega)
  have phase : (w.handler.grant size).phase = w.handler.phase := rfl
  unfold rank
  cases w.seen with
  | some => exact Nat.le_refl _
  | none =>
    rw [phase]
    dsimp only
    cases w.handler.phase with
    | ready | blocked => grind
    | _ => exact Nat.le_refl _

/-- A bound on what a worker can still do with the octets that it has. Taking an octet outweighs
every rank. -/
def work (w : Worker) : Nat := 10 * w.handler.effort + w.rank

theorem work_lt_of_effort {w after : Worker} (taken : after.handler.effort < w.handler.effort) :
    after.work < w.work := by
  have bound := after.rank_le
  unfold work
  omega

theorem work_lt_of_rank {w after : Worker} (same : after.handler.effort ≤ w.handler.effort)
    (less : after.rank < w.rank) : after.work < w.work := by
  unfold work
  omega

end Worker

theorem Works.work_lt {w after : Worker} {i : Input} {calls : List Call}
    {event : Option Frame.Event} (works : Works w i after calls event) (awaited : w.Awaits i)
    (own : i = .turn ∨ ∃ keep, i = .answer keep) : after.work < w.work := by
  cases works with
  | ignore unawaited => exact absurd awaited unawaited
  | look ready between =>
    apply Worker.work_lt_of_rank
    · exact Nat.le_refl _
    · simp only [Worker.rank, between, ready]
      split <;> omega
  | @pass limit event after rest within step =>
    have taken := Frame.Decoder.effort_decreases step
    apply Worker.work_lt_of_effort
    simpa [Handler.effort] using taken
  | @refuse limit cause after rest within step =>
    have kept := Frame.Decoder.effort_le step
    have less := Worker.rank_fail { w.handler with decoder := after, buffer := rest }
      (.violation cause)
    apply Worker.work_lt_of_rank
    · simpa [Handler.effort] using kept
    · rw [Worker.rank_of_seen within]
      split <;> omega
  | @starve limit after rest within step =>
    have kept := Frame.Decoder.effort_le step
    apply Worker.work_lt_of_rank
    · exact kept
    · rw [Worker.rank_of_seen within]
      by_cases shut : limit = 0
      · simp only [Worker.rank]
        grind
      · simp [Worker.rank, shut]
  | unblock between blocked opened =>
    have positive : ({ w.handler with phase := .ready } : Handler).limit ≠ 0 :=
      Handler.limit_pos opened
    apply Worker.work_lt_of_rank
    · exact Nat.le_refl _
    · simp only [Worker.rank, between, blocked, opened, positive, if_false]
      omega
  | @proceed event between calling =>
    have less := Worker.rank_proceed w.handler event
    apply Worker.work_lt_of_rank
    · exact Nat.le_refl _
    · rw [Worker.rank_of_calling between calling]
      exact less
  | abort between calling =>
    have less := Worker.rank_fail w.handler .frameCallbackAborted
    apply Worker.work_lt_of_rank
    · simp [Handler.effort]
    · rw [Worker.rank_of_calling between calling]
      omega
  | finish between interrupting =>
    apply Worker.work_lt_of_rank
    · exact Nat.le_refl _
    · simp only [Worker.rank, between, interrupting]
      omega
  | _ => simp at own

namespace Link

/-- A bound on what a link can still do. Grants of window do not raise it. -/
def work (l : Link) : Nat :=
  l.worker.work + 10 * (2 * l.coming.flatten.length + l.coming.length)

theorem Serves.awaits {l : Link} {a : Act} (serves : l.Serves a)
    (unfinished : ∀ error, l.handler.phase ≠ .finished error) :
    l.worker.Awaits (l.input a) := by
  unfold Serves at serves
  split at serves
  · rename_i within
    subst serves
    exact .inl within
  · rename_i between
    have between : l.worker.seen = none := by simpa using between
    split at serves
    · rename_i ready
      subst serves
      exact .inr (.inl ready)
    · rename_i reading
      subst serves
      exact awaits_arrive.mpr ⟨between, reading⟩
    · rename_i blocked
      split at serves
      · obtain ⟨size, -, rfl⟩ := serves
        trivial
      · rename_i opened
        subst serves
        exact .inr (.inr ⟨blocked, opened⟩)
    · rename_i event calling
      subst serves
      exact ⟨between, .inl ⟨event, calling⟩⟩
    · rename_i error interrupting
      subst serves
      exact ⟨between, .inr ⟨error, interrupting⟩⟩
    · rename_i error ended
      exact absurd ended (unfinished error)

/-- A grant that is waited for opens the window. -/
theorem Serves.opens {l : Link} {size : Nat} (serves : l.Serves (.grant size))
    (unfinished : ∀ error, l.handler.phase ≠ .finished error) :
    l.worker.seen = none ∧ l.handler.phase = .blocked ∧ l.handler.window = 0 ∧ 0 < size := by
  unfold Serves at serves
  split at serves
  · cases serves
  · rename_i between
    have between : l.worker.seen = none := by simpa using between
    split at serves
    · cases serves
    · cases serves
    · rename_i blocked
      split at serves
      · rename_i shut
        obtain ⟨more, positive, same⟩ := serves
        cases same
        exact ⟨between, blocked, shut, positive⟩
      · cases serves
    · cases serves
    · cases serves
    · rename_i error ended
      exact absurd ended (unfinished error)

end Link

/-- Whatever a link waits for, grants apart, leaves less to do. -/
theorem Goes.work_lt {l after : Link} {a : Act} {calls : List Call} (goes : Goes l a after calls)
    (awaited : l.worker.Awaits (l.input a)) (other : ∀ size, a ≠ .grant size) :
    after.work < l.work := by
  cases goes with
  | turn works =>
    have less := works.work_lt awaited (.inl rfl)
    simpa [Link.work] using less
  | widen => exact absurd rfl (other _)
  | answer works =>
    have less := works.work_lt awaited (.inr ⟨true, rfl⟩)
    simpa [Link.work] using less
  | wait busy => exact absurd (Link.awaits_arrive.mp awaited) busy
  | @fill chunk rest reading coming =>
    have before := Worker.rank_of_reading reading.1 reading.2
    have bound := Worker.rank_le
      ⟨{ l.handler with buffer := l.handler.buffer ++ chunk, phase := .ready }, none⟩
    simp only [Link.work, Link.handler, Worker.work, Handler.effort, Frame.Decoder.effort_append,
      coming, List.flatten_cons, List.length_append, List.length_cons] at bound ⊢
    omega
  | stop reading coming =>
    have before := Worker.rank_of_reading reading.1 reading.2
    have bound := Worker.rank_fail l.handler l.ending.error
    have less : Worker.work ⟨(l.handler.fail l.ending.error).1, none⟩ < l.worker.work := by
      apply Worker.work_lt_of_rank
      · simp [Handler.effort, Link.handler]
      · omega
    simpa [Link.work] using less

namespace Link

theorem work_grant_le (l : Link) (size : Nat) : (l.next (.grant size)).1.work ≤ l.work := by
  have rank := l.worker.rank_grant size
  have effort : (l.worker.handler.grant size).effort = l.worker.handler.effort := rfl
  simp only [next_grant, work, Worker.work, handler, effort]
  omega

theorem work_grant_lt {l : Link} {size : Nat} (between : l.worker.seen = none)
    (blocked : l.handler.phase = .blocked) (shut : l.handler.window = 0) (positive : 0 < size) :
    (l.next (.grant size)).1.work < l.work := by
  have less : Worker.work ⟨l.handler.grant size, l.worker.seen⟩ < l.worker.work := by
    have opened : (l.handler.grant size).window ≠ 0 := Handler.grant_window (by omega)
    have still : (l.handler.grant size).phase = .blocked := blocked
    apply Worker.work_lt_of_rank
    · exact Nat.le_refl _
    · simp only [Worker.rank, between, still, opened, if_false]
      simp only [handler] at blocked shut
      simp only [blocked, shut, if_true]
      omega
  rw [next_grant]
  simpa [work] using less

theorem work_next_le {l : Link} (valid : l.Valid) (a : Act) :
    (l.next a).1.work ≤ l.work := by
  by_cases awaited : l.worker.Awaits (l.input a)
  · by_cases grant : ∃ size, a = .grant size
    · obtain ⟨size, rfl⟩ := grant
      exact l.work_grant_le size
    · exact Nat.le_of_lt ((valid.goes a).work_lt awaited (not_exists.mp grant))
  · apply Nat.le_of_eq
    rw [next_of_unawaited awaited]

theorem work_next_lt {l : Link} (valid : l.Valid) {a : Act} (serves : l.Serves a)
    (unfinished : ∀ error, l.handler.phase ≠ .finished error) :
    (l.next a).1.work < l.work := by
  by_cases grant : ∃ size, a = .grant size
  · obtain ⟨size, rfl⟩ := grant
    obtain ⟨between, blocked, shut, positive⟩ := serves.opens unfinished
    exact work_grant_lt between blocked shut positive
  · exact (valid.goes a).work_lt (serves.awaits unfinished) (not_exists.mp grant)

theorem work_mono {l : Link} (valid : l.Valid) (schedule : Nat → Act) {n m : Nat} (le : n ≤ m) :
    (l.run (upTo schedule m)).work ≤ (l.run (upTo schedule n)).work := by
  induction le with
  | refl => exact Nat.le_refl _
  | step _ ih =>
    rw [upTo_succ, run_concat]
    exact Nat.le_trans (work_next_le (valid.run _) _) ih

/-- If whatever a link waits for happens in the end, the handler ends. -/
theorem Fair.finishes {l : Link} (valid : l.Valid) {schedule : Nat → Act}
    (fair : l.Fair schedule) :
    ∃ n error, (l.run (upTo schedule n)).handler.phase = .finished error := by
  -- The bound sinks with every act that is served, so the induction is on what is left of it.
  have descend : ∀ bound n, (l.run (upTo schedule n)).work < bound →
      ∃ m error, (l.run (upTo schedule m)).handler.phase = .finished error := by
    intro bound
    induction bound with
    | zero =>
      intro n less
      omega
    | succ bound ih =>
      intro n less
      obtain ⟨m, later, serves⟩ := fair n
      by_cases ended : ∃ error, (l.run (upTo schedule m)).handler.phase = .finished error
      · exact ⟨m, ended⟩
      · have before := work_mono valid schedule later
        have sinks := work_next_lt (valid.run _) serves (not_exists.mp ended)
        apply ih (m + 1)
        rw [upTo_succ, run_concat]
        omega
  exact descend _ 0 (Nat.lt_succ_self _)

end Link

end WebSocketClient.Framing

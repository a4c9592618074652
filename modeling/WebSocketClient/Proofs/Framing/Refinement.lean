import WebSocketClient.Proofs.Framing.Progress
import WebSocketClient.Proofs.Framing.Silence

/-! # Refinement of the plain reading

However the octets are cut into chunks and whenever window is granted, a handler that is served in
the end comes to the plain reading of its octets. -/
namespace WebSocketClient.Framing

namespace Act

def isGrant : Act → Bool
  | grant _ => true
  | _ => false

end Act

namespace Link

/-- A schedule under which the handler ends serves it. -/
theorem fair_of_finished {l : Link} (valid : l.Valid) {schedule : Nat → Act} {n : Nat}
    {error : Option Error} (ended : (l.run (upTo schedule n)).handler.phase = .finished error) :
    l.Fair schedule := by
  intro k
  refine ⟨max k n, Nat.le_max_left .., ?_⟩
  have stays := finished_stays valid ended (Nat.le_max_right k n)
  have between := (valid.run (upTo schedule (max k n))).between (by simp [stays])
  simp only [Serves, between, stays, Option.isSome_none, Bool.false_eq_true, if_false]

theorem unattended_grants (l : Link) (acts : List Act) :
    (l.unattended acts).filter Act.isGrant = acts.filter Act.isGrant := by
  induction acts generalizing l with
  | nil => rfl
  | cons a rest ih =>
    have later := ih (l.next a).1
    rw [unattended]
    cases a with
    | grant size => simp only [hears, if_true, List.filter_cons, Act.isGrant, later]
    | _ =>
      split
      · simp only [List.filter_cons, Act.isGrant, later, Bool.false_eq_true, if_false]
      · simp only [List.filter_cons, Act.isGrant, later, Bool.false_eq_true, if_false]

theorem attended_grants (acts : List Act) :
    (attended acts).filter Act.isGrant = acts.filter Act.isGrant := by
  induction acts with
  | nil => rfl
  | cons a rest ih =>
    rw [show attended (a :: rest) = a :: .answer :: attended rest from rfl]
    cases a <;> simp only [List.filter_cons, Act.isGrant, ih, Bool.false_eq_true, if_false]

theorem silenced_result {l : Link} {result : Option Error}
    (ended : l.handler.result? = some result) : l.silenced.handler.result? = some result := by
  rw [Handler.result?_eq_some] at ended ⊢
  change l.handler.phase.answered = _
  rw [ended]
  rfl

theorem silenced_result_of_idle {l : Link} (idle : l.handler.phase.isCalling = false) :
    l.silenced.handler.result? = l.handler.result? := by
  have same : l.silenced.handler.phase = l.handler.phase := Phase.answered_of_idle idle
  simp only [Handler.result?, same]

/-- However the octets come in chunks, and whenever window is granted: if the handler is served in
the end, its calls come to the plain reading of the octets, and it ends with the result of that. A
handler without callbacks ends with the same result and with the same window, whether its callbacks
are to take their time or to answer at once. -/
theorem refines_plain_reading (window : Nat) (manual : Bool) {chunks : List Bytes}
    (nonempty : ∀ chunk ∈ chunks, chunk ≠ []) (ending : Ending) :
    (∀ callbacks schedule, (initial window manual callbacks chunks ending).Fair schedule →
      ∃ n, ∀ m, n ≤ m →
        let start := initial window manual callbacks chunks ending
        let plain := plainReading chunks.flatten ending
        (start.run (upTo schedule m)).handler.result? = some plain.result ∧
        joinedCalls (start.calls (upTo schedule m)) = if callbacks then plain.calls else []) ∧
    ∀ acts,
      let heard := initial window manual true chunks ending
      let silent := initial window manual false chunks ending
      ((heard.unattended acts).filter Act.isGrant = acts.filter Act.isGrant ∧
        (silent.run (heard.unattended acts)).handler.window = (heard.run acts).handler.window ∧
        ∀ result, (heard.run acts).handler.result? = some result →
          (silent.run (heard.unattended acts)).handler.result? = some result) ∧
      ((attended acts).filter Act.isGrant = acts.filter Act.isGrant ∧
        (silent.run acts).handler.window = (heard.run (attended acts)).handler.window ∧
        (silent.run acts).handler.result? = (heard.run (attended acts)).handler.result?) := by
  have valid (callbacks : Bool) := initial_valid window manual callbacks nonempty ending
  constructor
  · intro callbacks schedule fair
    have sound := initial_sound window manual callbacks nonempty ending
    obtain ⟨n, error, ended⟩ := fair.finishes (valid callbacks)
    refine ⟨n, ?_⟩
    intro m later
    have stays := finished_stays (valid callbacks) ended later
    obtain ⟨result, calls⟩ := sound.reading_of_finished stays
    rw [initial_outlook] at result calls
    constructor
    · rw [Handler.result?_eq_some, stays, result]
    · exact calls
  · intro acts heard silent
    have silenced : heard.silenced = silent := rfl
    constructor
    · have same := silenced_run (valid true) acts
      rw [silenced] at same
      refine ⟨heard.unattended_grants acts, ?_, ?_⟩
      · rw [← same]
        rfl
      · intro result ended
        rw [← same]
        exact silenced_result ended
    · obtain ⟨same, idle⟩ := silenced_attended (valid true) rfl acts
      rw [silenced] at same
      refine ⟨attended_grants acts, ?_, ?_⟩
      · rw [← same]
        rfl
      · rw [← same]
        exact silenced_result_of_idle idle

def greeting : List Bytes := [[0x81, 0x02, 0x68], [0x69, 0x88, 0x00, 0x89]]

/-- The window of one octet is spent on the first of the text. A grant comes while the handler waits
for more. -/
def greetingActs : List Act :=
  [.turn, .turn, .arrive, .turn, .turn, .answer, .turn, .turn, .answer, .turn, .turn, .grant 3,
    .turn, .turn, .turn, .arrive, .turn, .turn, .answer, .turn, .turn, .answer, .turn, .turn,
    .answer, .turn, .turn, .answer]

def greetingReading : Reading :=
  ⟨[.event (.begin ⟨.text, true, 2⟩), .event (.payload ⟨.text, true, 2⟩ [0x68, 0x69]),
    .event (.complete ⟨.text, true, 2⟩), .event (.begin ⟨.close, true, 0⟩),
    .event (.complete ⟨.close, true, 0⟩)], none⟩

theorem greeting_read :
    let start := initial 1 true true greeting .closed
    let schedule (n : Nat) := greetingActs.getD n .turn
    (∀ chunk ∈ greeting, chunk ≠ []) ∧ start.Fair schedule ∧
      ∃ n, ∀ m, n ≤ m →
        (start.run (upTo schedule m)).handler.result? = some greetingReading.result ∧
        joinedCalls (start.calls (upTo schedule m)) = greetingReading.calls := by
  intro start schedule
  have nonempty : ∀ chunk ∈ greeting, chunk ≠ [] := by decide
  have ended : (start.run (upTo schedule 28)).handler.phase = .finished none := by decide
  have fair : start.Fair schedule :=
    fair_of_finished (initial_valid 1 true true nonempty .closed) ended
  have plain : plainReading greeting.flatten .closed = greetingReading := by decide
  obtain ⟨n, comes⟩ := (refines_plain_reading 1 true nonempty .closed).1 true schedule fair
  refine ⟨nonempty, fair, n, ?_⟩
  intro m later
  obtain ⟨result, calls⟩ := comes m later
  rw [plain] at result calls
  exact ⟨result, calls⟩

end Link

end WebSocketClient.Framing

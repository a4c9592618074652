import WebSocketClient.Connection.HeaderMap
import WebSocketClient.Http
import WebSocketClient.Proofs.Connection.Exchanges
import WebSocketClient.Proofs.Connection.Requests

/-! # Response headers are grouped by name

A response is told to its stream in one batch, in which the headers of one name stand together.
Nothing is lost or added, no two values of a name change places, and a lookup finds what it would
have found on the wire. -/
namespace WebSocketClient.Connection

section Names

theorem lowerOctet_idem (b : UInt8) :
    Bytes.lowerOctet (Bytes.lowerOctet b) = Bytes.lowerOctet b := by
  unfold Bytes.lowerOctet
  split
  · rename_i capital
    rw [if_neg]
    simp only [UInt8.le_iff_toNat_le, UInt8.toNat_add, UInt8.reduceToNat] at capital ⊢
    omega
  · rfl

theorem lower_idem (name : Bytes) : Bytes.lower (Bytes.lower name) = Bytes.lower name := by
  simp [Bytes.lower, lowerOctet_idem]

theorem hasName_eq (h : Header) (name : Bytes) :
    h.hasName name = ((lowerName h).name == Bytes.lower name) := rfl

theorem hasName_lowerName (h : Header) (name : Bytes) :
    (lowerName h).hasName name = h.hasName name := by
  rw [hasName_eq, hasName_eq, lowerName, lowerName, lower_idem]

theorem named_lowered (name : Bytes) (arrived : List Header) :
    (arrived.map lowerName).filter (·.hasName name) =
      (arrived.filter (·.hasName name)).map lowerName := by
  simp [List.filter_map, Function.comp_def, hasName_lowerName]

end Names

/-- The names of headers, each where it first appears. -/
def firstNames (headers : List Header) : List Bytes := (headers.map (·.name)).eraseDups

section Groups

variable {headers : List Header} {h : Header} {name : Bytes}

theorem mem_named (mem : h ∈ named name headers) : h.name = name := by
  simpa using (List.mem_filter.mp mem).2

theorem mem_notNamed (mem : h ∈ notNamed name headers) : h.name ≠ name := by
  simpa using (List.mem_filter.mp mem).2

theorem named_append_notNamed (name : Bytes) (headers : List Header) :
    (named name headers ++ notNamed name headers).Perm headers := by
  simpa [named, notNamed, bne] using
    List.filter_append_perm (fun h : Header => h.name == name) headers

theorem named_cons_self (h : Header) (headers : List Header) :
    named h.name (h :: headers) = h :: named h.name headers :=
  List.filter_cons_of_pos (beq_self_eq_true h.name)

theorem named_cons_other (other : h.name ≠ name) (headers : List Header) :
    named name (h :: headers) = named name headers :=
  List.filter_cons_of_neg (by simpa using other)

theorem named_eq_nil (none : ∀ h ∈ headers, h.name ≠ name) : named name headers = [] :=
  List.filter_eq_nil_iff.mpr fun h mem => by simpa using none h mem

theorem named_eq_self (all : ∀ h ∈ headers, h.name = name) : named name headers = headers :=
  List.filter_eq_self.mpr fun h mem => by simpa using all h mem

theorem named_notNamed {other : Bytes} (different : name ≠ other) (headers : List Header) :
    named name (notNamed other headers) = named name headers := by
  rw [named, notNamed, List.filter_filter]
  refine List.filter_congr fun h _ => ?_
  by_cases same : h.name = name
  · simp [same, different]
  · simp [same]

theorem group_perm (headers : List Header) : (group headers).Perm headers := by
  induction headers using group.induct with
  | case1 => rw [group]
  | case2 h rest ih =>
    rw [group, List.cons_append]
    exact .cons h ((ih.append_left _).trans (named_append_notNamed h.name rest))

/-- The first group is of one name, and what follows it of others. -/
theorem group_cons_names (h : Header) (rest : List Header) :
    (∀ a ∈ h :: named h.name rest, a.name = h.name) ∧
      ∀ a ∈ group (notNamed h.name rest), a.name ≠ h.name := by
  constructor
  · intro a mem
    rcases List.mem_cons.mp mem with rfl | mem
    · rfl
    · exact mem_named mem
  · intro a mem
    exact mem_notNamed ((group_perm _).mem_iff.mp mem)

/-- The headers of a name keep their order. -/
theorem named_group (name : Bytes) (headers : List Header) :
    named name (group headers) = named name headers := by
  induction headers using group.induct with
  | case1 => rw [group]
  | case2 h rest ih =>
    obtain ⟨first, later⟩ := group_cons_names h rest
    have split : named name (group (h :: rest)) =
        named name (h :: named h.name rest) ++ named name (group (notNamed h.name rest)) := by
      rw [group, named, List.filter_append]
      rfl
    rw [split]
    by_cases same : h.name = name
    · subst same
      rw [named_eq_self first, named_eq_nil later, List.append_nil, named_cons_self]
    · have none : ∀ a ∈ h :: named h.name rest, a.name ≠ name :=
        fun a mem other => same ((first a mem).symm.trans other)
      rw [named_eq_nil none, ih, List.nil_append, named_notNamed (Ne.symm same),
        named_cons_other same]

/-- Between two headers of one name there are only headers of that name. -/
theorem group_contiguous {a b c : Header} (within : [a, b, c].Sublist (group headers))
    (same : a.name = c.name) : b.name = a.name := by
  induction headers using group.induct with
  | case1 =>
    rw [group] at within
    cases within
  | case2 h rest ih =>
    obtain ⟨first, later⟩ := group_cons_names h rest
    rw [group] at within
    obtain ⟨front, back, split, block, others⟩ := List.sublist_append_iff.mp within
    have inside {d : Header} (mem : d ∈ front) : d.name = h.name := first d (block.subset mem)
    have outside {d : Header} (mem : d ∈ back) : d.name ≠ h.name := later d (others.subset mem)
    -- The outer two share a name, so the end of the first group is not between them.
    match front, back, split with
    | [], _, rfl => exact ih others
    | [_], _, rfl => exact absurd (same ▸ inside (by simp)) (outside (by simp))
    | [_, _], _, rfl => exact absurd (same ▸ inside (by simp)) (outside (by simp))
    | [_, _, _], _, rfl => exact (inside (by simp)).trans (inside (by simp)).symm

theorem firstNames_cons (h : Header) (rest : List Header) :
    firstNames (h :: rest) = h.name :: firstNames (notNamed h.name rest) := by
  rw [firstNames, List.map_cons, List.eraseDups_cons, List.filter_map]
  rfl

theorem firstNames_group (headers : List Header) :
    firstNames (group headers) = firstNames headers := by
  induction headers using group.induct with
  | case1 => rw [group]
  | case2 h rest ih =>
    obtain ⟨first, later⟩ := group_cons_names h rest
    have others : notNamed h.name (named h.name rest ++ group (notNamed h.name rest)) =
        group (notNamed h.name rest) := by
      rw [notNamed, List.filter_append, List.filter_eq_nil_iff.mpr, List.filter_eq_self.mpr,
        List.nil_append]
      · exact fun a mem => by simpa using later a mem
      · exact fun a mem => by simp [mem_named mem]
    rw [group, List.cons_append, firstNames_cons, others, ih, firstNames_cons]

/-- Grouping goes from name to name. -/
theorem group_eq (headers : List Header) :
    group headers = (firstNames headers).flatMap (named · headers) := by
  induction headers using group.induct with
  | case1 => rw [group]; rfl
  | case2 h rest ih =>
    have others : ∀ name ∈ firstNames (notNamed h.name rest),
        named name (notNamed h.name rest) = named name (h :: rest) := by
      intro name mem
      obtain ⟨a, listed, rfl⟩ := List.mem_map.mp (List.mem_eraseDups.mp mem)
      have different := mem_notNamed listed
      rw [named_notNamed different, named_cons_other different.symm]
    rw [group, ih, firstNames_cons, List.flatMap_cons, named_cons_self, List.cons_append,
      List.flatMap_def, List.map_congr_left others, ← List.flatMap_def]
    rfl

end Groups

namespace HeaderMap

section Laws

variable {M : Type} {map : HeaderMap M}

theorem collect_concat (map : HeaderMap M) (arrived : List Header) (h : Header) :
    map.collect (arrived ++ [h]) = map.append (map.collect arrived) h := by
  simp [collect]

theorem firstNames_concat (headers : List Header) (h : Header) :
    firstNames (headers ++ [h]) =
      if h.name ∈ firstNames headers then firstNames headers
      else firstNames headers ++ [h.name] := by
  have listed : h.name ∈ firstNames headers ↔ h.name ∈ headers.map (·.name) := List.mem_eraseDups
  rw [firstNames, List.map_append, List.eraseDups_append, List.map_singleton, List.removeAll,
    ← firstNames]
  split
  · rename_i known
    rw [List.filter_cons_of_neg (by simpa using listed.mp known)]
    exact List.append_nil _
  · rename_i fresh
    rw [List.filter_cons_of_pos (by simpa using mt listed.mpr fresh)]
    rfl

theorem Lawful.names_collect (lawful : map.Lawful) (arrived : List Header) :
    map.names (map.collect arrived) = firstNames (arrived.map lowerName) := by
  induction arrived using List.reverseRecOn with
  | nil => exact lawful.names_empty
  | append_singleton arrived h ih =>
    rw [collect_concat, lawful.names_append, ih, List.map_append, List.map_singleton,
      firstNames_concat]
    rfl

theorem Lawful.values_collect (lawful : map.Lawful) (name : Bytes) (arrived : List Header) :
    map.values (map.collect arrived) name = (named name (arrived.map lowerName)).map (·.value) := by
  induction arrived using List.reverseRecOn with
  | nil => exact lawful.values_empty name
  | append_singleton arrived h ih =>
    rw [collect_concat, lawful.values_append, ih, List.map_append, List.map_singleton, named, named,
      List.filter_append, List.map_append]
    by_cases same : name = Bytes.lower h.name
    · simp [same, lowerName]
    · simp [same, lowerName, Ne.symm same]

/-- Whatever the map is, headers are delivered as they are grouped. -/
theorem Lawful.batch_eq (lawful : map.Lawful) (arrived : List Header) :
    map.batch arrived = delivered arrived := by
  rw [batch, headers, lawful.names_collect, delivered, group_eq]
  congr 1
  funext name
  rw [lawful.values_collect, List.map_map]
  refine (List.map_congr_left fun h mem => ?_).trans (List.map_id _)
  obtain rfl := mem_named mem
  rfl

theorem entries_lawful : entries.Lawful := by
  refine ⟨rfl, fun _ => rfl, fun m h => ?_, fun m h name => ?_⟩
  · induction m with
    | nil => rfl
    | cons entry rest ih =>
      by_cases same : entry.1 = Bytes.lower h.name
      · simp [entries, Entries.append, same]
      · have ih : (Entries.append rest h).map Prod.fst =
            if Bytes.lower h.name ∈ rest.map Prod.fst then rest.map Prod.fst
            else rest.map Prod.fst ++ [Bytes.lower h.name] := ih
        simp only [entries, Entries.append, if_neg same, List.map_cons, ih, List.mem_cons,
          Ne.symm same, false_or]
        split <;> rfl
  · induction m with
    | nil =>
      by_cases same : name = Bytes.lower h.name
      · simp [entries, Entries.append, Entries.values, same]
      · simp [entries, Entries.append, Entries.values, same, Ne.symm same]
    | cons entry rest ih =>
      have ih : Entries.values (Entries.append rest h) name =
          if name = Bytes.lower h.name then Entries.values rest name ++ [h.value]
          else Entries.values rest name := ih
      by_cases same : entry.1 = Bytes.lower h.name
      · by_cases here : entry.1 = name
        · simp [entries, Entries.append, Entries.values, same, here.symm]
        · have other : name ≠ Bytes.lower h.name := fun own => here (same.trans own.symm)
          simp [entries, Entries.append, Entries.values, same, other, other.symm]
      · by_cases here : entry.1 = name
        · simp [entries, Entries.append, Entries.values, same, here.symm]
        · simp [entries, Entries.append, Entries.values, same, here, ih]

end Laws

end HeaderMap

/-- How a batch of headers comes from the headers on the wire. -/
structure GroupedFrom (arrived batch : List Header) : Prop where
  perm : batch.Perm (arrived.map lowerName)
  contiguous : ∀ a b c, [a, b, c].Sublist batch → a.hasName c.name = true → b.hasName a.name = true
  ordered : ∀ name, batch.filter (·.hasName name) =
    (arrived.filter (·.hasName name)).map lowerName
  groups : firstNames batch = firstNames (arrived.map lowerName)

section Delivery

variable {arrived batch : List Header}

theorem named_lower {headers : List Header}
    (small : ∀ h ∈ headers, Bytes.lower h.name = h.name) (name : Bytes) :
    headers.filter (·.hasName name) = named (Bytes.lower name) headers := by
  refine List.filter_congr fun h mem => ?_
  rw [Header.hasName, Bytes.sameIgnoringCase, small h mem]

theorem small_lowered : ∀ h ∈ arrived.map lowerName, Bytes.lower h.name = h.name := by
  intro h mem
  obtain ⟨wire, -, rfl⟩ := List.mem_map.mp mem
  exact lower_idem wire.name

theorem delivered_grouped (arrived : List Header) : GroupedFrom arrived (delivered arrived) := by
  have perm := group_perm (arrived.map lowerName)
  have small : ∀ h ∈ delivered arrived, Bytes.lower h.name = h.name :=
    fun h mem => small_lowered h (perm.mem_iff.mp mem)
  refine ⟨perm, ?_, ?_, firstNames_group _⟩
  · intro a b c within same
    have smallA := small a (within.subset (by simp))
    have smallB := small b (within.subset (by simp))
    have smallC := small c (within.subset (by simp))
    simp only [Header.hasName, Bytes.sameIgnoringCase, beq_iff_eq, smallA, smallB, smallC]
      at same ⊢
    exact group_contiguous within same
  · intro name
    rw [named_lower small, delivered, named_group, ← named_lower small_lowered, named_lowered]

/-- The first header of a name is the first one on the wire. -/
theorem GroupedFrom.lookup (h : GroupedFrom arrived batch) (name : Bytes) :
    Header.lookup batch name = (arrived.find? (·.hasName name)).map (·.value) := by
  rw [Header.lookup, ← List.head?_filter, h.ordered, List.head?_map, List.head?_filter,
    Option.map_map]
  rfl

end Delivery

def batchOf? (stream : StreamId) : Stream.Callback → Option (StreamId × List Header)
  | .headers batch => some (stream, batch)
  | _ => none

def Effect.batch? : Effect → Option (StreamId × List Header)
  | callback stream c => batchOf? stream c
  | _ => none

def Delivery.batch? (stream : StreamId) : Delivery → Option (StreamId × List Header)
  | status _ => none
  | callback c => batchOf? stream c

def batches (told : List Effect) : List (StreamId × List Header) := told.filterMap Effect.batch?

/-- The batch that a stream is still to be told of, if there is one. -/
def untold (s : State) : List (StreamId × List Header) :=
  match s.control with
  | .delivering stream steps _ => steps.filterMap (Delivery.batch? stream)
  | _ => []

def answered (s : State) (e : Event) : List (StreamId × List Header) :=
  match e, s.control, s.job with
  | .responded _ headers _, .waiting, some (.exchanging stream .requested) => [(stream, headers)]
  | _, _, _ => []

def answers (s : State) : List Event → List (StreamId × List Header)
  | [] => []
  | e :: rest => answered s e ++ answers (next s e).1 rest

section Batches

variable {s : State}

theorem batches_append (told more : List Effect) :
    batches (told ++ more) = batches told ++ batches more := List.filterMap_append ..

theorem untold_waiting (control : s.control = .waiting) : untold s = [] := by
  simp only [untold, control]

theorem drain_batches (s : State) (error : Option Error) (streams : List StreamId) :
    batches (drain s error streams).2 = [] ∧ untold (drain s error streams).1 = [] := by
  cases streams <;> exact ⟨rfl, rfl⟩

theorem leave_batches (s : State) (error : Option Error) :
    batches (leave s error).2 = [] ∧ untold (leave s error).1 = [] := drain_batches ..

theorem proceed_batches (s : State) : batches (proceed s).2 = [] ∧ untold (proceed s).1 = [] := by
  rcases proceed_cases s with ⟨error, leaves⟩ | ⟨stream, rest, -, -, starts⟩ | waits
  · rw [leaves]
    exact drain_batches _ error _
  · rw [starts]
    exact ⟨rfl, rfl⟩
  · rw [waits]
    exact ⟨rfl, rfl⟩

theorem resume_batches (s : State) (stream : StreamId) (following : Resume) :
    batches (resume s stream following).2 = [] ∧ untold (resume s stream following).1 = [] := by
  cases following with
  | stage stage => exact ⟨rfl, rfl⟩
  | exchanged upgraded =>
    cases upgraded with
    | false => exact proceed_batches _
    | true =>
      simp only [resume]
      split
      · exact proceed_batches { s with job := some (.handling _), upgraded := true, slot := none }
      · exact proceed_batches _

/-- What a stream is to be told is told or kept for later. -/
theorem deliver_batches (s : State) (stream : StreamId) (following : Resume)
    (steps : List Delivery) :
    batches (deliver s stream following steps).2 ++ untold (deliver s stream following steps).1 =
      steps.filterMap (Delivery.batch? stream) := by
  induction steps with
  | nil =>
    obtain ⟨quiet, none⟩ := resume_batches s stream following
    rw [deliver, quiet, none]
    rfl
  | cons step rest ih =>
    cases step with
    | status status => exact ih
    | callback c => cases c <;> rfl

theorem job_batches {job : Job} (control : s.control = .waiting) (held : s.job = some job)
    (e : Event) :
    batches (onJob s job e).2 ++ untold (onJob s job e).1 = untold s ++ answered s e := by
  have waits : untold s = [] := untold_waiting control
  cases job with
  | handling handler =>
    cases e with
    | handlerEnded error =>
      obtain ⟨quiet, none⟩ := leave_batches { s with job := none } error
      simp only [onJob, answered, waits, quiet, none, List.append_nil]
    | _ => simp [onJob, waits, answered, control, held, batches]
  | exchanging stream stage =>
    cases e with
    | responded status headers hasBody =>
      cases stage with
      | requested =>
        simp only [answered, control, held, waits]
        exact deliver_batches s stream _ _
      | _ => simp [onJob, waits, answered, control, held, batches]
    | bodyArrived data =>
      cases stage with
      | readingBody =>
        simp only [answered, waits]
        exact deliver_batches s stream _ _
      | _ => simp [onJob, waits, answered, batches]
    | exchangeFailed error =>
      simp only [answered, waits]
      exact deliver_batches s stream _ _
    | exchangeEnded =>
      cases stage with
      | requested => simp [onJob, waits, answered, batches]
      | readingBody =>
        simp only [answered, waits]
        exact deliver_batches s stream _ _
      | upgrading =>
        simp only [answered, waits]
        exact deliver_batches { s with hasChannel := true } stream _ _
    | _ => simp [onJob, waits, answered, batches]

/-- Users are told of no headers. -/
theorem user_batches (s : State) (e : Event) :
    batches (onUser s e).2 = [] ∧ (onUser s e).1.control = s.control := by
  cases e with
  | request stream fault =>
    simp only [onUser]
    split
    · exact ⟨rfl, rfl⟩
    · split
      · exact ⟨rfl, rfl⟩
      · split <;> exact ⟨rfl, rfl⟩
  | close error =>
    simp only [onUser]
    split <;> exact ⟨rfl, rfl⟩
  | install handler =>
    simp only [onUser]
    split
    · exact ⟨rfl, rfl⟩
    · split <;> exact ⟨rfl, rfl⟩
  | _ => exact ⟨rfl, rfl⟩

theorem returned_batches (s : State) :
    batches (onReturned s).2 ++ untold (onReturned s).1 = untold s := by
  unfold onReturned
  cases control : s.control with
  | settingUp =>
    obtain ⟨quiet, nothing⟩ := proceed_batches s
    rw [quiet, nothing, untold, control]
    rfl
  | delivering stream steps following =>
    have kept : untold s = steps.filterMap (Delivery.batch? stream) := by
      simp only [untold, control]
    rw [kept]
    exact deliver_batches s stream following steps
  | draining error streams =>
    obtain ⟨quiet, nothing⟩ := drain_batches s error streams
    rw [quiet, nothing, untold, control]
    rfl
  | shuttingDown => simp only [untold, control, batches, List.filterMap_nil, List.append_nil]
  | _ => rfl

theorem receive_batches (control : s.control = .waiting) :
    batches (onReceive s).2 = [] ∧ untold (onReceive s).1 = [] := by
  unfold onReceive
  split
  · exact proceed_batches _
  · exact leave_batches _ _
  · exact ⟨rfl, untold_waiting control⟩

/-- A batch is told or kept for later, and only a response brings one. -/
theorem next_batches (s : State) (e : Event) :
    batches (next s e).2 ++ untold (next s e).1 = untold s ++ answered s e := by
  have unheard {t : State} {told : List Effect} (quiet : batches told = [])
      (same : untold t = untold s) : batches told ++ untold t = untold s ++ [] := by
    rw [quiet, same, List.append_nil, List.nil_append]
  cases e with
  | request | close | install =>
    obtain ⟨quiet, control⟩ := user_batches s _
    exact unheard quiet (by simp only [untold, next, control])
  | returned => exact (returned_batches s).trans (List.append_nil _).symm
  | dialFailed error | dialled =>
    simp only [next]
    split
    · rename_i dialling
      exact unheard rfl (by simp only [untold, dialling])
    · exact unheard rfl rfl
  | receive =>
    simp only [next]
    split
    · rename_i control
      obtain ⟨quiet, nothing⟩ := receive_batches control
      exact unheard quiet (nothing.trans (untold_waiting control).symm)
    · exact unheard rfl rfl
  | driverEnded error =>
    simp only [next]
    split
    · rename_i fresh
      obtain ⟨quiet, nothing⟩ := proceed_batches { s with driverEnd := some error }
      exact unheard quiet (nothing.trans (untold_waiting fresh.1).symm)
    · exact unheard rfl rfl
  | responded status headers hasBody =>
    simp only [next]
    split
    · rename_i job control held
      exact job_batches control held _
    · rename_i elsewhere
      refine (unheard rfl rfl).trans (congrArg _ ?_)
      simp only [answered]
      split
      · rename_i stream control held
        exact absurd held (elsewhere _ control)
      · rfl
  | _ =>
    simp only [next]
    split
    · rename_i job control held
      exact job_batches control held _
    · exact unheard rfl rfl

/-- A stream is told of the headers that arrived for it, once and in one batch. -/
theorem run_batches (s : State) (events : List Event) :
    batches (effects s events) ++ untold (run s events) = untold s ++ answers s events := by
  induction events generalizing s with
  | nil => exact (List.append_nil _).symm
  | cons e rest ih =>
    calc batches ((next s e).2 ++ effects (next s e).1 rest) ++ untold (run (next s e).1 rest)
      _ = batches (next s e).2 ++ (untold (next s e).1 ++ answers (next s e).1 rest) := by
          rw [batches_append, List.append_assoc, ih]
      _ = untold s ++ (answered s e ++ answers (next s e).1 rest) := by
          rw [← List.append_assoc, next_batches, List.append_assoc]

/-- A response brings its headers in one batch, and what comes later brings others. -/
theorem response_batches (status : Status) (headers : List Header) (hasBody : Bool)
    {stream : StreamId} (control : s.control = .waiting)
    (held : s.job = some (.exchanging stream .requested)) (later : List Event) :
    batches (effects s (.responded status headers hasBody :: later)) ++
        untold (run s (.responded status headers hasBody :: later)) =
      (stream, headers) :: answers (next s (.responded status headers hasBody)).1 later := by
  rw [run_batches, untold_waiting control]
  simp only [answers, answered, control, held, List.nil_append, List.cons_append]

end Batches

section Parts

theorem batches_eq (told : List Effect) :
    batches told = (callbacks told).filterMap fun call => batchOf? call.1 call.2 := by
  rw [batches, callbacks, List.filterMap_filterMap]
  congr
  funext effect
  cases effect <;> rfl

/-- A stream is told of headers once at most. -/
theorem Orderly.batches {told : List Stream.Callback} (h : Orderly told) (stream : StreamId) :
    ((told.filterMap (batchOf? stream)).map Prod.fst).Sublist [stream] := by
  have whole (headers : List Header) (hasBody : Bool) (chunks : List Bytes) :
      (course headers hasBody chunks).filterMap (batchOf? stream) = [(stream, headers)] := by
    simp [course, List.filterMap_cons, batchOf?, List.filterMap_map, Function.comp_def]
  have begun {first : List Stream.Callback} (h : Begun first) :
      ((first.filterMap (batchOf? stream)).map Prod.fst).Sublist [stream] := by
    obtain ⟨headers, hasBody, chunks, part⟩ := h
    have part := part.filterMap (batchOf? stream)
    rw [whole] at part
    exact part.sublist.map Prod.fst
  rcases h with h | h
  · exact begun h
  · cases h with
    | whole headers hasBody chunks =>
      rw [List.filterMap_append, whole]
      exact .refl _
    | cut h error =>
      have nothing : [Stream.Callback.complete (some error)].filterMap (batchOf? stream) = [] := rfl
      rw [List.filterMap_append, nothing, List.append_nil]
      exact begun h

theorem batches_spoken {parts : List Part} (orderly : ∀ p ∈ parts, Orderly p.callbacks) :
    (((spoken parts).filterMap fun call => batchOf? call.1 call.2).map Prod.fst).Sublist
      (parts.map (·.stream)) := by
  induction parts with
  | nil => exact .refl _
  | cons p parts ih =>
    have first := (orderly p List.mem_cons_self).batches p.stream
    have rest := ih fun q mem => orderly q (List.mem_cons_of_mem p mem)
    have split : spoken (p :: parts) = p.callbacks.map (p.stream, ·) ++ spoken parts := rfl
    rw [split, List.filterMap_append, List.map_append, List.filterMap_map]
    exact first.append rest

/-- The streams that are told of headers asked for them, and none is told twice. -/
theorem batches_accepted (events : List Event) :
    ((batches (effects initial events)).map Prod.fst).Sublist
      (accepted (effects initial events)) := by
  obtain ⟨parts, heard, order, orderly, -⟩ := (tale_run events).1.parts
  rw [batches_eq, heard]
  exact (batches_spoken orderly).trans (order.sublist.trans
    ((List.sublist_append_left ..).trans (received_accepted events)))

end Parts

/-- A response is told to its stream in one batch, which is the headers on the wire grouped by name.
A lookup of a name finds in it the first header on the wire that has the name. No stream is told of
headers twice. -/
theorem headers_arrive_grouped {M : Type} {map : HeaderMap M} (lawful : map.Lawful)
    (arrived : List Header) :
    map.batch arrived = delivered arrived ∧ GroupedFrom arrived (map.batch arrived) ∧
    (∀ status name, Response.header ⟨status, map.batch arrived⟩ name =
      (arrived.find? (·.hasName name)).map (·.value)) ∧
    (∀ status name, Response.header ⟨status, map.batch arrived⟩ name = none ↔
      ∀ h ∈ arrived, h.hasName name = false) ∧
    (∀ s stream, s.control = .waiting → s.job = some (.exchanging stream .requested) →
      ∀ status hasBody later,
        let response := Event.responded status (map.batch arrived) hasBody
        batches (effects s (response :: later)) ++ untold (run s (response :: later)) =
          (stream, map.batch arrived) :: answers (next s response).1 later) ∧
    ∀ events, ((batches (effects initial events)).map Prod.fst).Sublist
      (accepted (effects initial events)) := by
  have same := lawful.batch_eq arrived
  have grouped : GroupedFrom arrived (map.batch arrived) := same ▸ delivered_grouped arrived
  refine ⟨same, grouped, fun _ => grouped.lookup, fun status name => ?_, ?_, batches_accepted⟩
  · rw [Response.header, grouped.lookup, Option.map_eq_none_iff, List.find?_eq_none]
    simp only [Bool.not_eq_true]
  · intro s stream control held status hasBody later
    exact response_batches status (map.batch arrived) hasBody control held later

/-- Two cookies are sent around another header. -/
theorem cookies_arrive_together :
    let arrived : List Header := [.ofStrings "Set-Cookie" "a", .ofStrings "Date" "b",
      .ofStrings "set-cookie" "c"]
    let batch := HeaderMap.entries.batch arrived
    let before : List Event := [.dialled, .returned, .request 0 none, .receive]
    let response : Event := .responded ⟨200, by decide⟩ batch true
    HeaderMap.entries.Lawful ∧
      batch = [.ofStrings "set-cookie" "a", .ofStrings "set-cookie" "c", .ofStrings "date" "b"] ∧
      Response.header ⟨some ⟨200, by decide⟩, batch⟩ (.ofString "SET-COOKIE") =
        some (.ofString "a") ∧
      batches (effects (run initial before) [response, .returned]) = [(0, batch)] := by
  intro arrived batch before response
  obtain ⟨-, -, lookup, -, one, -⟩ := headers_arrive_grouped HeaderMap.entries_lawful arrived
  refine ⟨HeaderMap.entries_lawful, by decide, ?_, ?_⟩
  · rw [lookup]
    decide
  · have nothing : untold (run (run initial before) [response, .returned]) = [] := by decide
    rw [← List.append_nil (batches _), ← nothing]
    exact one (run initial before) 0 (by decide) (by decide) ⟨200, by decide⟩ true [.returned]

end WebSocketClient.Connection

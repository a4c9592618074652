import WebSocketClient.Proofs.Handshake.Closing
import WebSocketClient.Proofs.Handshake.Validation

/-! # The upgrade request

The request that an attempt makes is the one that its options spell out. It is stored when the
attempt starts, in an arena that it fills to the last octet, no call changes it, and the connection
is asked for it once, when setup brings it. -/
namespace WebSocketClient.Handshake

def Effect.isRequest : Effect → Bool
  | request _ _ _ _ => true
  | _ => false

def requests (told : List Effect) : List Effect := told.filter Effect.isRequest

def upgradeRequest (o : Options) (url : Url) (connection : ConnectionId) : Effect :=
  .request connection .get (Bytes.ofChars url.target) o.headers

@[simp] theorem requests_append (first rest : List Effect) :
    requests (first ++ rest) = requests first ++ requests rest := List.filter_append ..

@[simp] theorem requests_setup (callbacks : List SetupReaction) (outcome : Outcome)
    (response : Response) : requests (callbacks.map (.setup · outcome response)) = [] := by
  simp [requests, Effect.isRequest]

@[simp] theorem requests_shutdown (sockets : List SocketId) (error : Option Error) :
    requests (sockets.map (.shutdown · error)) = [] := by
  simp [requests, Effect.isRequest]

@[simp] theorem requests_cancel (a : Attempt) (error : Error) :
    requests (cancel a error).2 = [] := by
  rw [requests, List.filter_eq_nil_iff]
  intro e he
  obtain ⟨c, rfl⟩ := mem_cancel a error he
  nofun

@[simp] theorem requests_asked (a : Attempt) (status : Option Status) (error : Option Error)
    (channel : Option ChannelId) : requests (asked a status error channel) = [] := by
  rw [requests, List.filter_eq_nil_iff]
  intro e he
  obtain ⟨options, rfl⟩ := mem_asked a status error channel he
  nofun

/-- A connection that is brought is asked at once, and by no other call. -/
theorem requests_next (a : Attempt) (e : Event) :
    requests (next a e).2 = (e.connection?.map (requestEffect a)).toList := by
  cases e with
  | connected c reply =>
    cases reply with
    | accepted stream => rfl
    | refused error =>
      change requests (requestEffect a c :: (cancel { a with connection := some c } error).2) = _
      rw [← List.singleton_append, requests_append, requests_cancel]
      rfl
  | connectFailed error => simp [next, onConnectFailed, Event.connection?]
  | headers stream status batch =>
    have quiet : requests (onHeaders a status batch).2 = [] := by
      unfold onHeaders
      split
      · rfl
      · dsimp only
        split
        · rfl
        · exact requests_cancel ..
    rw [next, quiet]
    rfl
  | completed stream status error channel reply =>
    have quiet : requests (onCompleted a status error channel reply).2 = [] := by
      by_cases awaiting : a.phase = .awaitingResponse
      · rw [onCompleted_awaiting awaiting]
        cases verdict status error channel reply with
        | error cause => simp
        | ok socket => simp [establish]
      · rw [onCompleted_ignored awaiting]
        rfl
    rw [next, quiet]
    rfl
  | shutDown error =>
    have quiet : requests (onShutDown a error).2 = [] := by
      unfold onShutDown
      dsimp only
      split
      · rfl
      · exact requests_shutdown ..
    rw [next, quiet]
    rfl

/-- The stored request stays what it is. -/
theorem next_request (a : Attempt) (e : Event) :
    (next a e).1.request = a.request ∧ (next a e).1.requestPath = a.requestPath := by
  have cancelled (b : Attempt) (error : Error) :
      (cancel b error).1.request = b.request ∧ (cancel b error).1.requestPath = b.requestPath := by
    unfold cancel
    split <;> exact ⟨rfl, rfl⟩
  cases e with
  | connected c reply =>
    cases reply with
    | accepted stream => exact ⟨rfl, rfl⟩
    | refused error => exact cancelled { a with connection := some c } error
  | connectFailed error => exact ⟨rfl, rfl⟩
  | headers stream status batch =>
    simp only [next, onHeaders]
    split
    · exact ⟨rfl, rfl⟩
    · split
      · exact ⟨rfl, rfl⟩
      · exact cancelled _ _
  | completed stream status error channel reply =>
    by_cases awaiting : a.phase = .awaitingResponse
    · have same : (judged a status error channel).request = a.request ∧
          (judged a status error channel).requestPath = a.requestPath := by
        unfold judged
        split <;> exact ⟨rfl, rfl⟩
      rw [next, onCompleted_awaiting awaiting]
      cases verdict status error channel reply with
      | error cause =>
        obtain ⟨request, path⟩ := cancelled (judged a status error channel) cause
        exact ⟨request.trans same.1, path.trans same.2⟩
      | ok socket => exact same
    · rw [next, onCompleted_ignored awaiting]
      exact ⟨rfl, rfl⟩
  | shutDown error =>
    simp only [next, onShutDown]
    split <;> exact ⟨rfl, rfl⟩

theorem requestEffect_next (a : Attempt) (e : Event) :
    requestEffect (next a e).1 = requestEffect a := by
  obtain ⟨request, path⟩ := next_request a e
  funext c
  rw [requestEffect, requestEffect, request, path]

/-- A run makes the same request of every connection that it brings. -/
theorem requests_effects (a : Attempt) (events : List Event) :
    requests (effects a events) =
      (events.filterMap Event.connection?).map (requestEffect a) := by
  induction events generalizing a with
  | nil => rfl
  | cons e rest ih =>
    rw [effects, requests_append, requests_next, ih, requestEffect_next]
    cases e <;> rfl

theorem requestEffect_run (a : Attempt) (events : List Event) :
    requestEffect (run a events) = requestEffect a := by
  induction events generalizing a with
  | nil => rfl
  | cons e rest ih => exact (ih _).trans (requestEffect_next a e)

/-- A call that brings a connection ends the time in which one can be brought. -/
theorem connection_of_next? {life later : Life} {e : Event} (allowed : life.next? e = some later) :
    e.connection?.toList.length + (if later = .dialling then 1 else 0) ≤
      if life = .dialling then 1 else 0 := by
  cases life <;> cases e <;> cases allowed <;> simp [Event.connection?]

theorem connections_of_follow? {life later : Life} {events : List Event}
    (led : life.follow? events = some later) :
    (events.filterMap Event.connection?).length ≤ if life = .dialling then 1 else 0 := by
  induction events generalizing life with
  | nil => exact Nat.zero_le _
  | cons e rest ih =>
    obtain ⟨middle, allowed, rest⟩ := Option.bind_eq_some_iff.mp led
    have now := connection_of_next? allowed
    have afterwards := ih rest
    rw [List.filterMap_cons]
    cases brings : e.connection? with
    | none =>
      simp only [brings, Option.toList_none, List.length_nil] at now ⊢
      omega
    | some c =>
      simp only [brings, Option.toList_some, List.length_cons, List.length_nil] at now ⊢
      omega

theorem connections_of_contract {before after : List Event} {c : ConnectionId}
    {reply : RequestReply} (kept : KeepsContract (before ++ .connected c reply :: after)) :
    (before ++ .connected c reply :: after).filterMap Event.connection? = [c] := by
  obtain ⟨life, led⟩ := Option.isSome_iff_exists.mp kept
  have bound := connections_of_follow? led
  rw [if_pos rfl] at bound
  have found : (Event.connected c reply).connection? = some c := rfl
  rw [List.filterMap_append, List.filterMap_cons_some found] at bound ⊢
  rw [List.length_append, List.length_cons] at bound
  have none : (before.filterMap Event.connection?).length = 0 := by omega
  have more : (after.filterMap Event.connection?).length = 0 := by omega
  rw [List.length_eq_zero_iff.mp none, List.length_eq_zero_iff.mp more]
  rfl

theorem start_of_connect {m : Allocator} {o : Options} {service : Dial → Except Error Unit}
    {a : Attempt} (accepted : (connect m o service).attempt = .ok a) :
    ∃ dial, start m o = .ok (a, dial) := by
  unfold connect at accepted
  cases started : start m o with
  | error error =>
    rw [started] at accepted
    cases accepted
  | ok found =>
    obtain ⟨b, dial⟩ := found
    rw [started] at accepted
    cases answer : service dial with
    | error error => simp [answer, Except.map] at accepted
    | ok =>
      simp only [answer, Except.map, Except.ok.injEq] at accepted
      exact ⟨dial, by rw [accepted]⟩

/-- What becomes of the request that options spell out. It is stored unless memory is missing, and
each connection that setup brings is asked for it, once. -/
structure AsConfigured (m : Allocator) (o : Options) (url : Url) : Prop where
  stores : isRequestStorable m o url = true → ∃ s pathRef,
    storeRequest m (Bytes.ofChars url.target) o.headers = .ok (s, pathRef) ∧
      Carries s pathRef (Bytes.ofChars url.target) o.headers
  fails : ∀ error, storeRequest m (Bytes.ofChars url.target) o.headers = .error error →
    error = .outOfMemory ∧ isRequestStorable m o url = false
  carries : ∀ service a, (connect m o service).attempt = .ok a →
    Carries a.request a.requestPath (Bytes.ofChars url.target) o.headers
  asks : ∀ service a, (connect m o service).attempt = .ok a → ∀ before c reply after,
    KeepsContract (before ++ .connected c reply :: after) →
      requests (next (run a before) (.connected c reply)).2 = [upgradeRequest o url c] ∧
        requests (effects a (before ++ .connected c reply :: after)) = [upgradeRequest o url c]
  onlyAsks : ∀ service a, (connect m o service).attempt = .ok a → ∀ events,
    requests (effects a events) =
      (events.filterMap Event.connection?).map (upgradeRequest o url)

/-- The request is exactly what the options say. -/
theorem request_is_as_configured (m : Allocator) {o : Options} {url : Url}
    (target : o.url = some url) : AsConfigured m o url := by
  have carries {service : Dial → Except Error Unit} {a : Attempt}
      (accepted : (connect m o service).attempt = .ok a) :
      Carries a.request a.requestPath (Bytes.ofChars url.target) o.headers := by
    obtain ⟨dial, started⟩ := start_of_connect accepted
    obtain ⟨-, found, has, stored⟩ := start_cases started
    obtain rfl : url = found := Option.some.inj (target.symm.trans has)
    exact storeRequest_carries stored
  have effect {service : Dial → Except Error Unit} {a : Attempt}
      (accepted : (connect m o service).attempt = .ok a) :
      requestEffect a = upgradeRequest o url := by
    obtain ⟨reads, lists, -⟩ := carries accepted
    change a.request.arena.get? a.requestPath = _ at reads
    funext c
    rw [requestEffect, upgradeRequest, lists, Arena.get, reads]
    rfl
  refine
    { stores := ?_, fails := ?_, carries := fun _ _ => carries, asks := ?_, onlyAsks := ?_ }
  · intro storable
    obtain ⟨⟨s, pathRef⟩, stored⟩ := storeRequest_of_storable storable
    exact ⟨s, pathRef, stored, storeRequest_carries stored⟩
  · intro error failed
    cases storable : isRequestStorable m o url with
    | true =>
      obtain ⟨stored, ok⟩ := storeRequest_of_storable storable
      rw [ok] at failed
      cases failed
    | false =>
      rw [storeRequest_of_not_storable storable] at failed
      cases failed
      exact ⟨rfl, rfl⟩
  · intro service a accepted before c reply after kept
    constructor
    · rw [requests_next, requestEffect_run, effect accepted]
      rfl
    · rw [requests_effects, connections_of_contract kept, effect accepted]
      rfl
  · intro service a accepted events
    rw [requests_effects, effect accepted]

def queryUrl : Url := { plainUrl with query := some ['q'], fragment := some ['f'] }

/-- A header without name and value, and one given twice that is not text. -/
def oddHeaders : List Header := [⟨[], []⟩, ⟨[104], [255, 0]⟩, ⟨[104], [255, 0]⟩]

def oddOptions : Options := { plainOptions with url := some queryUrl, headers := oddHeaders }

theorem odd_headers_are_sent :
    oddOptions.url = some queryUrl ∧
      ∃ a, (connect (.doubling 4096) oddOptions fun _ => .ok ()).attempt = .ok a ∧
        a.request.arena.length = 9 ∧ a.request.arena.remaining = 0 ∧
        requests (effects a [.connected 7 (.accepted 0), .shutDown none]) =
          [.request 7 .get [47, 63, 113] oddHeaders] := by
  have said : AsConfigured (.doubling 4096) oddOptions queryUrl := request_is_as_configured _ rfl
  refine ⟨rfl, _, rfl, ?_, ?_, ?_⟩
  · exact (said.carries (fun _ => .ok ()) _ rfl).length
  · exact (said.carries (fun _ => .ok ()) _ rfl).remaining
  · exact (said.asks (fun _ => .ok ()) _ rfl [] 7 (.accepted 0) [.shutDown none] (by decide)).2

end WebSocketClient.Handshake

import WebSocketClient.Connection.Task
import WebSocketClient.Proofs.Handshake.Reporting
import WebSocketClient.Proofs.HeaderStore.Fitting

/-! # What options are checked for

The checks come one after the other, before anything is asked of a collaborator. The service is
asked once they have all passed, and an attempt that it refuses hears nothing. -/
namespace WebSocketClient.Handshake

structure Check where
  passes : Bool
  error : Error

def isRequestStorable (m : Allocator) (o : Options) (url : Url) : Bool :=
  (m.ask 0 (requestSize (Bytes.ofChars url.target) o.headers)).isOk &&
    (m.ask 0 (o.headers.length * HeaderStore.recordSize)).isOk

def isResponseStorable (m : Allocator) (o : Options) : Bool :=
  (m.ask 0 ((o.headers.length + extraResponseHeaders) * responseHeaderSize)).isOk &&
    (m.ask 0 ((o.headers.length + extraResponseHeaders) * HeaderStore.recordSize)).isOk

def checks (m : Allocator) (o : Options) : List Check :=
  [⟨o.service.isSome && o.socket.isSome && o.url.isSome && o.onSetup.isSome, .missingOptions⟩,
    ⟨o.tls || !o.url.any Url.isSecure, .tlsRequired⟩,
    ⟨(o.onFrameBegin && o.onFramePayload && o.onFrameComplete) ||
      !(o.onFrameBegin || o.onFramePayload || o.onFrameComplete), .partialFrameCallbacks⟩,
    ⟨!o.headers.isEmpty, .missingHeaders⟩,
    ⟨o.url.any (·.hostName?.isSome), .noHost⟩,
    ⟨o.url.any (isRequestStorable m o), .outOfMemory⟩,
    ⟨isResponseStorable m o, .outOfMemory⟩]

/-- The port for a URL that gives none. An unknown scheme goes by whether TLS is there. -/
def defaultPort (u : Url) (tls : Bool) : Nat :=
  if u.sameScheme "http" then 80
  else if u.sameScheme "https" then 443
  else if u.sameScheme "ws" then 80
  else if u.sameScheme "wss" then 443
  else if tls then 443
  else 80

def dial? (o : Options) : Option Dial := do
  let url ← o.url
  let socket ← o.socket
  let host ← url.hostName?
  return ⟨host, url.port?.getD (defaultPort url o.tls), socket, o.tls, httpWindow⟩

theorem dial?_tls {o : Options} {dial : Dial} (asks : dial? o = some dial) : dial.tls = o.tls := by
  simp only [dial?, Option.bind_eq_bind, Option.bind_eq_some_iff] at asks
  obtain ⟨url, -, socket, -, host, -, made⟩ := asks
  cases made
  rfl

/-- A service, with the calls that it makes on the listener of a dial. When it refuses the dial
it drops the listener without a call. -/
structure Provider where
  answer : Dial → Except Error Unit
  calls : Dial → List Event
  drops : ∀ dial error, answer dial = .error error → calls dial = []

/-- What an attempt has done by the time that its service has made all its calls. -/
def doings (m : Allocator) (o : Options) (provider : Provider) : List Effect :=
  match start m o with
  | .error _ => []
  | .ok (attempt, dial) => effects attempt (provider.calls dial)

theorem dialPort_eq (u : Url) (tls : Bool) :
    u.dialPort tls = u.port?.getD (defaultPort u tls) := by
  unfold Url.dialPort defaultPort
  cases u.port? with
  | some port => rfl
  | none =>
    simp only [Option.getD_none, List.find?]
    cases u.sameScheme "http" <;> cases u.sameScheme "https" <;> cases u.sameScheme "ws" <;>
      cases u.sameScheme "wss" <;> rfl

section Stores

variable {m : Allocator} {o : Options} {url : Url}

theorem ask_isOk {held needed : Nat} :
    (m.ask held needed).isOk = true ↔ m.ask held needed = .ok () := by
  rcases m.ask_cases held needed with enough | short
  · simp [enough, Except.isOk, Except.toBool]
  · simp [short, Except.isOk, Except.toBool]

theorem ask_of_not_isOk {held needed : Nat} (short : (m.ask held needed).isOk = false) :
    m.ask held needed = .error .outOfMemory := by
  refine (m.ask_cases held needed).resolve_left fun enough => ?_
  rw [ask_isOk.mpr enough] at short
  cases short

theorem storeRequest_of_storable (storable : isRequestStorable m o url = true) :
    ∃ stored, storeRequest m (Bytes.ofChars url.target) o.headers = .ok stored := by
  obtain ⟨octets, records⟩ := Bool.and_eq_true_iff.mp storable
  exact ⟨_, storeRequest_of_memory (ask_isOk.mp octets) (ask_isOk.mp records)⟩

theorem storeRequest_of_not_storable (short : isRequestStorable m o url = false) :
    storeRequest m (Bytes.ofChars url.target) o.headers = .error .outOfMemory := by
  apply storeRequest_of_shortage
  exact (Bool.and_eq_false_iff.mp short).imp ask_of_not_isOk ask_of_not_isOk

theorem reserveResponse_of_storable (storable : isResponseStorable m o = true) :
    ∃ store, reserveResponse m o.headers.length = .ok store := by
  obtain ⟨octets, records⟩ := Bool.and_eq_true_iff.mp storable
  simp only [reserveResponse, Arena.growable, HeaderStore.withCapacity, ask_isOk.mp octets]
  simp only [bind, Except.bind, pure, Except.pure, ask_isOk.mp records]
  exact ⟨_, rfl⟩

theorem reserveResponse_of_not_storable (short : isResponseStorable m o = false) :
    reserveResponse m o.headers.length = .error .outOfMemory := by
  simp only [reserveResponse, Arena.growable, HeaderStore.withCapacity]
  rcases m.ask_cases 0 ((o.headers.length + extraResponseHeaders) * responseHeaderSize) with
    octets | octets
  · have records := (Bool.and_eq_false_iff.mp short).resolve_left (by simp [ask_isOk.mpr octets])
    simp only [octets, bind, Except.bind, pure, Except.pure, ask_of_not_isOk records]
  · rw [octets]
    rfl

end Stores

/-- An answer that the checks have led to: the error of the first one that fails, or a dial. -/
inductive Decides (asked : Option Dial) : List Check → Except Error (Attempt × Dial) → Prop
  | starts {a : Attempt} {dial : Dial} (asks : asked = some dial) : Decides asked [] (.ok (a, dial))
  | refuses {check : Check} {rest : List Check} (fails : check.passes = false) :
      Decides asked (check :: rest) (.error check.error)
  | goesOn {check : Check} {rest : List Check} {answer : Except Error (Attempt × Dial)}
      (passes : check.passes = true) (later : Decides asked rest answer) :
      Decides asked (check :: rest) answer

section Decides

variable {asked : Option Dial} {list : List Check} {answer : Except Error (Attempt × Dial)}

theorem Decides.of_all (h : Decides asked list answer) (all : ∀ c ∈ list, c.passes = true) :
    ∃ a dial, answer = .ok (a, dial) ∧ asked = some dial := by
  induction h with
  | starts asks => exact ⟨_, _, rfl, asks⟩
  | @refuses check rest fails =>
    have passes := all check List.mem_cons_self
    rw [fails] at passes
    cases passes
  | goesOn passes later ih => exact ih fun c mem => all c (List.mem_cons_of_mem _ mem)

theorem Decides.of_ok {a : Attempt} {dial : Dial} (h : Decides asked list (.ok (a, dial))) :
    (∀ c ∈ list, c.passes = true) ∧ asked = some dial := by
  generalize started : Except.ok (a, dial) = answer at h
  induction h with
  | starts asks =>
    cases started
    exact ⟨by simp, asks⟩
  | refuses => cases started
  | goesOn passes later ih =>
    obtain ⟨rest, asks⟩ := ih started
    refine ⟨?_, asks⟩
    intro c mem
    rcases List.mem_cons.mp mem with rfl | other
    · exact passes
    · exact rest c other

theorem Decides.of_first (h : Decides asked list answer) {before after : List Check} {check : Check}
    (split : list = before ++ check :: after) (earlier : ∀ c ∈ before, c.passes = true)
    (fails : check.passes = false) : answer = .error check.error := by
  induction h generalizing before with
  | starts asks => simp at split
  | refuses first =>
    cases before with
    | nil =>
      cases split
      rfl
    | cons c before =>
      cases split
      have passes := earlier _ List.mem_cons_self
      rw [first] at passes
      cases passes
  | goesOn passes later ih =>
    cases before with
    | nil =>
      cases split
      rw [fails] at passes
      cases passes
    | cons c before =>
      cases split
      exact ih rfl fun c mem => earlier c (List.mem_cons_of_mem _ mem)

end Decides

/-- Options that lack a setting that every attempt needs. -/
theorem required?_eq_none {o : Options} (missing : required? o = none) :
    (o.service.isSome && o.socket.isSome && o.url.isSome && o.onSetup.isSome) = false := by
  by_contra complete
  simp only [Bool.not_eq_false, Bool.and_eq_true, Option.isSome_iff_exists] at complete
  obtain ⟨⟨⟨⟨service, hasService⟩, socket, hasSocket⟩, url, hasUrl⟩, reaction, hasSetup⟩ := complete
  have found := required?_eq_some.mpr ⟨hasService, hasSocket, hasUrl, hasSetup⟩
  rw [missing] at found
  cases found

theorem or_not_of_not_and {a b : Bool} (h : ¬ (a = true ∧ b = false)) : (b || !a) = true := by
  cases a <;> cases b <;> simp_all

/-- Starting makes its checks in their order. -/
theorem start_decides (m : Allocator) {o : Options} (trusted : o.tlsError = none) :
    Decides (dial? o) (checks m o) (start m o) := by
  unfold start
  cases found : required? o with
  | none => exact .refuses (required?_eq_none found)
  | some settings =>
    obtain ⟨service, socket, url, reaction⟩ := settings
    obtain ⟨hasService, hasSocket, hasUrl, hasSetup⟩ := required?_eq_some.mp found
    refine .goesOn (by simp [hasService, hasSocket, hasUrl, hasSetup]) ?_
    simp only [trusted]
    split
    · rename_i plain
      exact .refuses (by simp [hasUrl, plain])
    rename_i secured
    refine .goesOn (by simpa [hasUrl] using or_not_of_not_and secured) ?_
    split
    · rename_i partly
      have fails : (o.hasAllFrameCallbacks || !o.hasAnyFrameCallback) = false := by simp [partly]
      exact .refuses fails
    rename_i wholly
    refine .goesOn (or_not_of_not_and wholly) ?_
    split
    · rename_i bare
      exact .refuses (by simp [bare])
    rename_i given
    refine .goesOn (by simpa using given) ?_
    cases named : url.hostName? with
    | none => exact .refuses (by simp [hasUrl, named])
    | some host =>
      refine .goesOn (by simp [hasUrl, named]) ?_
      cases request : isRequestStorable m o url with
      | false =>
        rw [storeRequest_of_not_storable request]
        exact .refuses (by simp [hasUrl, request])
      | true =>
        obtain ⟨⟨store, path⟩, stored⟩ := storeRequest_of_storable request
        rw [stored]
        refine .goesOn (by simp [hasUrl, request]) ?_
        cases response : isResponseStorable m o with
        | false =>
          simp only [reserveResponse_of_not_storable response]
          exact .refuses rfl
        | true =>
          obtain ⟨reserved, made⟩ := reserveResponse_of_storable response
          simp only [made]
          exact .goesOn rfl (.starts (by simp [dial?, hasUrl, hasSocket, named, dialPort_eq]))

/-- What connecting comes to with a service. It is asked once if all checks pass, and the
first check that fails gives the answer otherwise. -/
structure Validated (m : Allocator) (o : Options) (provider : Provider) : Prop where
  asks : (∀ check ∈ checks m o, check.passes = true) →
    ∃ dial, dial? o = some dial ∧ (connect m o provider.answer).dials = [dial]
  refuses : ∀ before check after, checks m o = before ++ check :: after →
    (∀ c ∈ before, c.passes = true) → check.passes = false →
      connect m o provider.answer = ⟨[], .error check.error⟩
  answers : ∀ dial ∈ (connect m o provider.answer).dials,
    match provider.answer dial with
    | .error error => (connect m o provider.answer).attempt = .error error
    | .ok () => ∃ a, (connect m o provider.answer).attempt = .ok a ∧ Fresh o a
  encrypts : ∀ dial ∈ (connect m o provider.answer).dials,
    (o.url.any Url.isSecure) = true → dial.tls = true
  silent : ∀ error, (connect m o provider.answer).attempt = .error error → doings m o provider = []

/-- Options never lack a TLS connector for a reason of their own. -/
theorem applyAll_tlsError (changes : List Options.Change) :
    (Options.empty.applyAll changes).tlsError = none := by
  induction changes using List.reverseRecOn with
  | nil => rfl
  | append_singleton changes change ih =>
    rw [Options.applyAll, List.foldl_append]
    change ((Options.empty.applyAll changes).apply change).tlsError = none
    cases change with
    | startEmpty | startWith | tls | noTls => rfl
    | unset setting => cases setting <;> exact ih
    | _ => exact ih

/-- Connecting checks everything before it asks for anything, and a refusal has no effect. -/
theorem connect_validates (m : Allocator) {o : Options} (trusted : o.tlsError = none)
    (provider : Provider) : Validated m o provider := by
  have decides := start_decides m trusted
  have asked {dial : Dial} (mem : dial ∈ (connect m o provider.answer).dials) :
      ∃ a, start m o = .ok (a, dial) := by
    cases started : start m o with
    | error error => simp [connect, started] at mem
    | ok found =>
      obtain rfl : dial = found.2 := by simpa [connect, started] using mem
      exact ⟨found.1, rfl⟩
  constructor
  · intro all
    obtain ⟨a, dial, started, asks⟩ := decides.of_all all
    exact ⟨dial, asks, by simp [connect, started]⟩
  · intro before check after split earlier fails
    have refused := decides.of_first split earlier fails
    simp [connect, refused]
  · intro dial mem
    obtain ⟨a, started⟩ := asked mem
    cases answer : provider.answer dial with
    | error error => simp [connect, started, answer, Except.map]
    | ok => exact ⟨a, by simp [connect, started, answer, Except.map], start_fresh started⟩
  · intro dial mem secure
    obtain ⟨a, started⟩ := asked mem
    rw [started] at decides
    obtain ⟨passed, asks⟩ := decides.of_ok
    have protection := passed ⟨o.tls || !o.url.any Url.isSecure, .tlsRequired⟩ (by simp [checks])
    rw [dial?_tls asks]
    simpa [secure] using protection
  · intro error failed
    unfold doings
    cases started : start m o with
    | error other => rfl
    | ok found =>
      have refused : provider.answer found.2 = .error error := by
        cases answer : provider.answer found.2 with
        | error other => simpa [connect, started, answer, Except.map] using failed
        | ok => simp [connect, started, answer, Except.map] at failed
      simp only [provider.drops _ _ refused]
      rfl

/-- The built-in service where no server can be reached. -/
def unreachable (hasRuntime : Bool) : Provider where
  answer dial := Connection.accept hasRuntime dial.host
  calls dial :=
    match Connection.accept hasRuntime dial.host with
    | .ok () => [.connectFailed (.io .networkUnreachable)]
    | .error _ => []
  drops := by
    intro dial error refused
    rw [refused]

def plainUrl : Url :=
  ⟨['w', 's'], some ⟨[], [], some (.domain ['a']), none⟩, ['/'], none, none⟩

def secureUrl : Url := { plainUrl with scheme := ['w', 's', 's'] }

def secureOptions : Options := { plainOptions with url := some secureUrl, tls := true }

/-- Options made for a plain URL bring no TLS connector. -/
def downgradedOptions : Options :=
  Options.empty.applyAll
    [.startWith plainUrl ⟨List.replicate 16 0, rfl⟩, .url secureUrl, .onSetup ⟨[], none, false⟩]

theorem secure_url_needs_tls :
    let m : Allocator := .doubling 4096
    (∃ dial, dial? secureOptions = some dial ∧
      (connect m secureOptions (unreachable true).answer).dials = [dial]) ∧
    connect m downgradedOptions (unreachable true).answer = ⟨[], .error .tlsRequired⟩ ∧
    doings m secureOptions (unreachable false) = [] := by
  intro m
  refine ⟨?_, ?_, ?_⟩
  · exact (connect_validates m rfl (unreachable true)).asks (by decide)
  · exact (connect_validates m (applyAll_tlsError _) (unreachable true)).refuses
      [⟨true, .missingOptions⟩] ⟨false, .tlsRequired⟩ _ rfl (by decide) rfl
  · exact (connect_validates m rfl (unreachable false)).silent .runtime rfl

end WebSocketClient.Handshake

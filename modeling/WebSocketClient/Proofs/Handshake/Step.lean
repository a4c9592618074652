import WebSocketClient.Handshake.Step

/-! # What a call does to an attempt

Recording a failure leaves all but the failure and the phase alone. A completed response comes to a
verdict, and the attempt either records the failure or becomes established. -/
namespace WebSocketClient.Handshake

section Cancel

variable (a : Attempt) (error : Error)

@[simp] theorem cancel_onSetup : (cancel a error).1.onSetup = a.onSetup := by
  unfold cancel; split <;> rfl

@[simp] theorem cancel_onShutdown : (cancel a error).1.onShutdown = a.onShutdown := by
  unfold cancel; split <;> rfl

@[simp] theorem cancel_socket : (cancel a error).1.socket = a.socket := by
  unfold cancel; split <;> rfl

@[simp] theorem cancel_connection : (cancel a error).1.connection = a.connection := by
  unfold cancel; split <;> rfl

@[simp] theorem cancel_initialWindow :
    (cancel a error).1.initialWindow = a.initialWindow := by
  unfold cancel; split <;> rfl

@[simp] theorem cancel_manualWindow : (cancel a error).1.manualWindow = a.manualWindow := by
  unfold cancel; split <;> rfl

@[simp] theorem cancel_frameCallbacks :
    (cancel a error).1.frameCallbacks = a.frameCallbacks := by
  unfold cancel; split <;> rfl

@[simp] theorem cancel_status : (cancel a error).1.status = a.status := by
  unfold cancel; split <;> rfl

@[simp] theorem cancel_response : (cancel a error).1.response = a.response := by
  unfold cancel; split <;> rfl

/-- The first failure stays. -/
@[simp] theorem cancel_failure : (cancel a error).1.failure = a.failure.or (some error) := by
  unfold cancel
  cases h : a.failure <;> simp [h]

/-- The only thing that recording a failure ever does besides is to close the connection. -/
theorem mem_cancel {e : Effect} (h : e ∈ (cancel a error).2) : ∃ c, e = .close c := by
  unfold cancel at h
  split at h
  · simp at h
  · obtain ⟨c, -, rfl⟩ := List.mem_map.mp h
    exact ⟨c, rfl⟩

end Cancel

/-- What a completed response comes to: a failure, or the WebSocket of the handler that was
installed. -/
def verdict (status : Option Status) (error : Option Error) (channel : Option ChannelId)
    (reply : HandlerReply) : Except Error SocketId :=
  match error with
  | some error => .error error
  | none =>
    if status ≠ some .switchingProtocols then .error (.upgradeFailure status)
    else
      match channel, reply with
      | none, _ => .error .notConnected
      | some _, .refused error => .error error
      | some _, .installed socket => .ok socket

def asked (a : Attempt) (status : Option Status) (error : Option Error)
    (channel : Option ChannelId) : List Effect :=
  if error = none ∧ status = some .switchingProtocols then
    channel.toList.map fun channel => .newHandler (handlerOptions a channel)
  else []

def judged (a : Attempt) (status : Option Status) (error : Option Error)
    (channel : Option ChannelId) : Attempt :=
  if error.isSome then { a with stream := none }
  else
    { a with
      stream := none
      phase := .validating
      status
      frameCallbacks := a.frameCallbacks && (asked a status error channel).isEmpty }

section Judged

variable (a : Attempt) (status : Option Status) (error : Option Error)
  (channel : Option ChannelId)

@[simp] theorem judged_onSetup : (judged a status error channel).onSetup = a.onSetup := by
  unfold judged; split <;> rfl

@[simp] theorem judged_onShutdown : (judged a status error channel).onShutdown = a.onShutdown := by
  unfold judged; split <;> rfl

@[simp] theorem judged_socket : (judged a status error channel).socket = a.socket := by
  unfold judged; split <;> rfl

@[simp] theorem judged_connection :
    (judged a status error channel).connection = a.connection := by
  unfold judged; split <;> rfl

@[simp] theorem judged_failure : (judged a status error channel).failure = a.failure := by
  unfold judged; split <;> rfl

@[simp] theorem judged_initialWindow :
    (judged a status error channel).initialWindow = a.initialWindow := by
  unfold judged; split <;> rfl

@[simp] theorem judged_manualWindow :
    (judged a status error channel).manualWindow = a.manualWindow := by
  unfold judged; split <;> rfl

@[simp] theorem judged_response : (judged a status error channel).response = a.response := by
  unfold judged; split <;> rfl

/-- A completion with an error leaves the status of the last batch. -/
theorem judged_status :
    (judged a status error channel).status = if error.isSome then a.status else status := by
  unfold judged; split <;> rfl

@[simp] theorem judged_stream : (judged a status error channel).stream = none := by
  unfold judged; split <;> rfl

theorem mem_asked {e : Effect} (h : e ∈ asked a status error channel) :
    ∃ options, e = .newHandler options := by
  unfold asked at h
  split at h
  · obtain ⟨c, -, rfl⟩ := List.mem_map.mp h
    exact ⟨_, rfl⟩
  · simp at h

end Judged

theorem onCompleted_ignored {a : Attempt} (h : a.phase ≠ .awaitingResponse)
    (status : Option Status) (error : Option Error) (channel : Option ChannelId)
    (reply : HandlerReply) :
    onCompleted a status error channel reply = ({ a with stream := none }, []) := by
  simp [onCompleted, h]

theorem onCompleted_awaiting {a : Attempt} (h : a.phase = .awaitingResponse)
    (status : Option Status) (error : Option Error) (channel : Option ChannelId)
    (reply : HandlerReply) :
    let judged := judged a status error channel
    let ending :=
      match verdict status error channel reply with
      | .error error => cancel judged error
      | .ok socket => establish judged socket
    onCompleted a status error channel reply =
      (ending.1, asked a status error channel ++ ending.2) := by
  cases error with
  | some error => simp [onCompleted, h, verdict, judged, asked]
  | none =>
    by_cases accepted : status = some .switchingProtocols
    · cases channel with
      | none => simp [onCompleted, h, validate, verdict, judged, asked, accepted]
      | some channel =>
        cases reply <;>
          simp [onCompleted, h, validate, verdict, judged, asked, accepted, handlerOptions]
    · simp [onCompleted, h, validate, verdict, judged, asked, accepted]

end WebSocketClient.Handshake

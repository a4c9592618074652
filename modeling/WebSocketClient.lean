import WebSocketClient.Connection.HeaderMap
import WebSocketClient.Connection.Task
import WebSocketClient.Frame.Wire
import WebSocketClient.Options
import WebSocketClient.Proofs.Arena.References
import WebSocketClient.Proofs.Connection.CloseOutcome
import WebSocketClient.Proofs.Connection.Exchanges
import WebSocketClient.Proofs.Connection.Finality
import WebSocketClient.Proofs.Connection.Grouping
import WebSocketClient.Proofs.Connection.Lifecycle
import WebSocketClient.Proofs.Connection.Moves
import WebSocketClient.Proofs.Connection.Requests
import WebSocketClient.Proofs.Connection.Sender
import WebSocketClient.Proofs.Connection.Takeover
import WebSocketClient.Proofs.Connection.Telling
import WebSocketClient.Proofs.Frame.Draining
import WebSocketClient.Proofs.Frame.Grammar
import WebSocketClient.Proofs.Frame.Passage
import WebSocketClient.Proofs.Frame.Refusal
import WebSocketClient.Proofs.Frame.Schedule
import WebSocketClient.Proofs.Framing.BackPressure
import WebSocketClient.Proofs.Framing.Completion
import WebSocketClient.Proofs.Framing.Interleaving
import WebSocketClient.Proofs.Framing.Link
import WebSocketClient.Proofs.Framing.PlainReading
import WebSocketClient.Proofs.Framing.Progress
import WebSocketClient.Proofs.Framing.Refinement
import WebSocketClient.Proofs.Framing.Silence
import WebSocketClient.Proofs.Framing.Window
import WebSocketClient.Proofs.Handshake.Client
import WebSocketClient.Proofs.Handshake.Closing
import WebSocketClient.Proofs.Handshake.Establishment
import WebSocketClient.Proofs.Handshake.Release
import WebSocketClient.Proofs.Handshake.Report
import WebSocketClient.Proofs.Handshake.Reporting
import WebSocketClient.Proofs.Handshake.Representation
import WebSocketClient.Proofs.Handshake.Upgrade
import WebSocketClient.Proofs.Handshake.Validation
import WebSocketClient.Proofs.HeaderStore.History
import WebSocketClient.Proofs.Stream.Completion
import WebSocketClient.Proofs.Stream.Discipline
import WebSocketClient.Proofs.Url.HostText
import WebSocketClient.Proofs.Url.Port
import WebSocketClient.Rehearsal.Session
import WebSocketClient.Url.Parser

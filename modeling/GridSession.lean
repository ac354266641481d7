import GridSession.Address.Parser
import GridSession.Joined
import GridSession.Main
import GridSession.Net.Loopback
import GridSession.Net.Serving
import GridSession.Role.Echo
import GridSession.Role.Recorder
import GridSession.Proofs.Envelope.RoundTrip
import GridSession.Proofs.Envelope.Checks
import GridSession.Proofs.Envelope.Reencoding
import GridSession.Proofs.Envelope.Writing
import GridSession.Proofs.SelfTest
import GridSession.Proofs.Net.Stopping
import GridSession.Proofs.Frame.Damaged
import GridSession.Proofs.Frame.Sealed
import GridSession.Proofs.Joined.Agreement
import GridSession.Proofs.Server.Sessions
import GridSession.Proofs.Frame.Detection
import GridSession.Proofs.Game.Enrolment
import GridSession.Proofs.Server.Replies
import GridSession.Proofs.Server.Sentinel
import GridSession.Proofs.GameLoop.Queue
import GridSession.Proofs.GameLoop.Peeking
import GridSession.Proofs.Server.Accounting
import GridSession.Proofs.Server.Silence
import GridSession.Proofs.Client.Lifecycle
import GridSession.Proofs.Game.Places
import GridSession.Proofs.GameLoop.Places
import GridSession.Proofs.Client.Schedule
import GridSession.Proofs.GameLoop.Failures
import GridSession.Proofs.GameLoop.Omissions
import GridSession.Proofs.Server.Batching
import GridSession.Proofs.Server.Interference
import GridSession.Proofs.GameLoop.Retained
import GridSession.Proofs.Joined.Faults
import GridSession.Proofs.Joined.Recovery
import GridSession.Proofs.Player.SentRecord
import GridSession.Proofs.Net.Emptying
import GridSession.Proofs.GameLoop.Cells
import GridSession.Proofs.Client.Table
import GridSession.Proofs.GameLoop.Recording
import GridSession.Proofs.GameLoop.Serving
import GridSession.Proofs.Net.Loopback
import GridSession.Proofs.Storage
import GridSession.Proofs.Text.Hex
import GridSession.Proofs.Address.Pieces
import GridSession.Proofs.Address.Reading

import Errand.Backoff
import Errand.Chat.Endpoint
import Errand.Chat.Image
import Errand.EventLoop.Turn
import Errand.Executor
import Errand.Json.Arithmetic
import Errand.OAuth.Authorization
import Errand.OAuth.Token
import Errand.Program.Text
import Errand.Proofs.Flow.Scripted
import Errand.Proofs.Flow.Serving
import Errand.Proofs.Flow.Faithful
import Errand.Proofs.Program.MonadLaws
import Errand.Proofs.Program.Typing
import Errand.Proofs.Run.Adequacy
import Errand.Proofs.Run.Breakdown
import Errand.Proofs.Run.Determinism
import Errand.Proofs.Run.Discipline
import Errand.Proofs.Run.History
import Errand.Report
import Errand.Session
import Errand.Stream
import Errand.Stub
import Errand.Url.Reading
import Errand.Values
import Errand.Proofs.EventLoop.Floor
import Errand.Proofs.EventLoop.Footing
import Errand.Proofs.EventLoop.Schedule
import Errand.Proofs.Executor.Standing
import Errand.Proofs.Executor.Endurance
import Errand.Proofs.Executor.Insistence
import Errand.Proofs.Executor.Interchange
import Errand.Proofs.Channel.Serving
import Errand.Proofs.Channel.Retrying
import Errand.Proofs.Channel.Counter
import Errand.Proofs.Run.Recovery
import Errand.Proofs.Program.Fusion
import Errand.Proofs.Channel.Breakdown
import Errand.Proofs.Channel.Closing
import Errand.Proofs.Loopback.Independence
import Errand.Proofs.Program.Concatenation
import Errand.Proofs.Run.Awaiting
import Errand.Proofs.Run.Retelling
import Errand.Proofs.Program.Shape
import Errand.Proofs.Chat.Recognition
import Errand.Proofs.Loopback.Ledger
import Errand.Proofs.OAuth.Redaction
import Errand.Proofs.Run.Acceptance
import Errand.Proofs.Backoff.Cap
import Errand.Proofs.Retry.Attempts
import Errand.Proofs.Retry.Timing
import Errand.Proofs.Text.Form
import Errand.Proofs.Chat.Spelling
import Errand.Proofs.OAuth.Authorization
import Errand.Proofs.OAuth.Scopes
import Errand.Proofs.OAuth.Token
import Errand.Proofs.Run.Agreement
import Errand.Proofs.Backoff.Jitter
import Errand.Proofs.Backoff.Exact
import Errand.Proofs.Response.RetryAfter

import CommandLink.Channel.Schedule
import CommandLink.Channel.Trace
import CommandLink.Main
import CommandLink.Server.Preamble
import CommandLink.Server.Startup
import CommandLink.Proofs.Text.Utf8
import CommandLink.Proofs.Text.Integer
import CommandLink.Proofs.Text.Repaired
import CommandLink.Proofs.Text.Blank
import CommandLink.Proofs.Token.Codec
import CommandLink.Proofs.Token.Session
import CommandLink.Proofs.Token.Validity
import CommandLink.Proofs.Token.BuildScope
import CommandLink.Proofs.Token.Environment
import CommandLink.Proofs.Auth.Hearing
import CommandLink.Proofs.Auth.Resolution
import CommandLink.Proofs.Channel.Run
import CommandLink.Proofs.Channel.Effects
import CommandLink.Proofs.Channel.Ledger
import CommandLink.Proofs.Channel.History
import CommandLink.Proofs.Channel.Correlation
import CommandLink.Proofs.Json.Numeral
import CommandLink.Proofs.Json.Container
import CommandLink.Proofs.Json.RoundTrip
import CommandLink.Proofs.Json.Canonical
import CommandLink.Proofs.Frame.RoundTrip
import CommandLink.Proofs.Frame.Stream
import CommandLink.Proofs.Json.PrettyTexts
import CommandLink.Proofs.Files.Writing
import CommandLink.Proofs.Files.Directories
import CommandLink.Proofs.Credentials.Url
import CommandLink.Proofs.Credentials.Store
import CommandLink.Proofs.Credentials.History
import CommandLink.Proofs.Credentials.Entries
import CommandLink.Proofs.Client.Confinement
import CommandLink.Proofs.Channel.Others
import CommandLink.Proofs.Channel.Closing
import CommandLink.Proofs.Channel.Delivery
import CommandLink.Proofs.Channel.Returns
import CommandLink.Proofs.Channel.Shutdown
import CommandLink.Proofs.Channel.Following
import CommandLink.Proofs.Channel.Mail
import CommandLink.Proofs.Channel.Senders
import CommandLink.Proofs.Channel.Clearing
import CommandLink.Proofs.Channel.Answering
import CommandLink.Proofs.Frame.Bodies
import CommandLink.Proofs.Channel.Responses
import CommandLink.Proofs.Channel.Taking
import CommandLink.Proofs.Channel.Requests
import CommandLink.Proofs.Channel.Alone
import CommandLink.Proofs.Channel.Deeds
import CommandLink.Proofs.Server.Plain
import CommandLink.Proofs.Server.Execution
import CommandLink.Proofs.Server.Independence
import CommandLink.Proofs.Server.Attended
import CommandLink.Proofs.Server.Sessions
import CommandLink.Proofs.Frame.Arrival
import CommandLink.Proofs.Channel.Calls
import CommandLink.Proofs.Channel.Exchange
import CommandLink.Proofs.Channel.Bridge
import CommandLink.Proofs.Channel.Pieces
import CommandLink.Proofs.Channel.Unaided
import CommandLink.Proofs.Channel.Properties
import CommandLink.Proofs.Channel.Offering
import CommandLink.Proofs.Frame.EntryPoint
import CommandLink.Proofs.Client.Connecting
import CommandLink.Proofs.Client.Handshake
import CommandLink.Proofs.Client.Serving
import CommandLink.Proofs.Client.Exposure
import CommandLink.Proofs.Server.Slots
import CommandLink.Proofs.Json.Reading
import CommandLink.Proofs.Json.Members
import CommandLink.Proofs.Frame.Documents
import CommandLink.Proofs.Frame.Tolerance
import CommandLink.Proofs.Channel.Waiting
import CommandLink.Proofs.Client.Status
import CommandLink.Proofs.Auth.Chain
import CommandLink.Proofs.Auth.Trail
import CommandLink.Proofs.Server.Draining
import CommandLink.Proofs.Channel.Renumbering
import CommandLink.Proofs.Channel.Alongside
import CommandLink.Proofs.Channel.Refusal
import CommandLink.Proofs.Channel.Refused
import CommandLink.Proofs.Client.Grammar
import CommandLink.Proofs.Server.Preamble
import CommandLink.Proofs.Text.Order
import CommandLink.Proofs.Server.Discovery
import CommandLink.Proofs.Auth.Accounts
import CommandLink.Proofs.Telemetry.Redaction
import CommandLink.Proofs.Config.Durations
import CommandLink.Proofs.Config.Usable

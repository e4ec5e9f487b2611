import BridgeChannel.Text.Blank
import BridgeChannel.Text.Quoted
import BridgeChannel.Channel.State
import BridgeChannel.Channel.Duration
import BridgeChannel.Channel.Config
import BridgeChannel.Transport.Error
import BridgeChannel.Json.Number
import BridgeChannel.Json.Value
import BridgeChannel.Json.Printer
import BridgeChannel.Json.Parser
import BridgeChannel.Message.Codec
import BridgeChannel.Observer.Script
import BridgeChannel.Client.Script
import BridgeChannel.WebSocket.Listener
import BridgeChannel.Main
import BridgeChannel.Proofs.Client.History
import BridgeChannel.Proofs.Client.Exchange
import BridgeChannel.Proofs.Client.Attempt
import BridgeChannel.Proofs.Client.Steady
import BridgeChannel.Proofs.Client.Connecting
import BridgeChannel.Proofs.Client.Reopening
import BridgeChannel.Proofs.Client.Overlapping
import BridgeChannel.Proofs.Client.Akin
import BridgeChannel.Proofs.Client.Alike
import BridgeChannel.Proofs.Client.Stale
import BridgeChannel.Proofs.Client.Inert
import BridgeChannel.Proofs.Client.Handover
import BridgeChannel.Proofs.Client.Telling
import BridgeChannel.Proofs.Client.Ownership
import BridgeChannel.Proofs.Client.Notifications
import BridgeChannel.Proofs.Json.Members
import BridgeChannel.Proofs.Json.Numeric
import BridgeChannel.Proofs.Json.RoundTrip
import BridgeChannel.Proofs.Json.Nesting
import BridgeChannel.Proofs.Json.Grammar
import BridgeChannel.Proofs.Json.Reading
import BridgeChannel.Proofs.Json.Token
import BridgeChannel.Proofs.Json.Outline
import BridgeChannel.Proofs.Json.Respelling
import BridgeChannel.Proofs.Message.RoundTrip
import BridgeChannel.Proofs.Message.Grammar
import BridgeChannel.Proofs.Message.Faults
import BridgeChannel.Proofs.Message.Naming
import BridgeChannel.Proofs.Message.Renewal
import BridgeChannel.Proofs.Message.Respelling
import BridgeChannel.Proofs.Message.LastN
import BridgeChannel.Proofs.Client.Failing
import BridgeChannel.Proofs.Client.Meanwhile
import BridgeChannel.Proofs.Client.Withdrawing
import BridgeChannel.Proofs.Client.Apart
import BridgeChannel.Proofs.Client.Custody
import BridgeChannel.Proofs.Client.Sending
import BridgeChannel.Proofs.Client.Traffic
import BridgeChannel.Proofs.WebSocket.Reading
import BridgeChannel.Proofs.Client.Standing
import BridgeChannel.Proofs.Client.Answering
import BridgeChannel.Proofs.Client.Occasions
import BridgeChannel.Proofs.Client.OneClose
import BridgeChannel.Proofs.Client.Handshake
import BridgeChannel.Proofs.WebSocket.Writing
import BridgeChannel.Proofs.Observer.Registry
import BridgeChannel.Proofs.Observer.Snapshot
import BridgeChannel.Proofs.Client.Following
import BridgeChannel.Proofs.CommandLine.Attending

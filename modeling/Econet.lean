import Econet.Account.Register
import Econet.Bridge
import Econet.Client.Frame
import Econet.CommandLine.Report
import Econet.Launch
import Econet.Main
import Econet.Piconet.Line
import Econet.Router
import Econet.Settings.File
import Econet.Proofs.Aun.Bindings
import Econet.Proofs.Aun.ReverseLookup
import Econet.Proofs.Client.PoolBijection
import Econet.Proofs.Bridge.Sending
import Econet.Proofs.Bridge.ClientSource
import Econet.Proofs.Account.Changes
import Econet.Proofs.Account.Requests
import Econet.Proofs.Account.Administrators
import Econet.Proofs.Account.Escalation
import Econet.Proofs.Account.Sessions
import Econet.Proofs.Account.Passwords
import Econet.Proofs.Aun.Attribution
import Econet.Proofs.Aun.Datagram
import Econet.Proofs.Text.Base64
import Econet.Proofs.Json.Values
import Econet.Proofs.Client.EnvelopeText
import Econet.Proofs.Client.FrameText
import Econet.Proofs.Bridge.Activity
import Econet.Proofs.Bridge.Departure
import Econet.Proofs.Aun.Keys
import Econet.Proofs.Bridge.Ways
import Econet.Proofs.Bridge.Reception
import Econet.Proofs.Bridge.Acknowledgement
import Econet.Proofs.Bridge.History
import Econet.Proofs.Bridge.Numbering
import Econet.Proofs.Bridge.Conversation
import Econet.Proofs.Bridge.Rejection
import Econet.Proofs.Bridge.Traffic
import Econet.Proofs.Bridge.Registration
import Econet.Proofs.Client.FirstFree
import Econet.Proofs.Client.Allocation
import Econet.Proofs.Bridge.OwnAddress
import Econet.Proofs.Toml.Strings
import Econet.Proofs.Toml.Documents
import Econet.Proofs.Account.Persistence
import Econet.Proofs.Settings.RoundTrip
import Econet.Proofs.Aun.SubnetHosts
import Econet.Proofs.Bridge.Unicast
import Econet.Proofs.Bridge.Broadcast
import Econet.Proofs.Account.Logins
import Econet.Proofs.Bridge.Services
import Econet.Proofs.Bridge.Reading
import Econet.Proofs.Aun.RuleGrammar
import Econet.Proofs.MapFile.Loading
import Econet.Proofs.Piconet.Commands
import Econet.Proofs.Account.Uids
import Econet.Proofs.Settings.InlineRules
import Econet.Proofs.CommandLine.SettingsFiles

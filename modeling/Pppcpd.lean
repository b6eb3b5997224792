import Pppcpd.Foundation.Run
import Pppcpd.Foundation.Walk
import Pppcpd.Foundation.Bytes
import Pppcpd.Foundation.Timer
import Pppcpd.Foundation.Md5
import Pppcpd.Foundation.Table
import Pppcpd.Wire.Packet
import Pppcpd.Wire.Encap
import Pppcpd.Wire.Headers
import Pppcpd.Ppp.Session
import Pppcpd.Ppp.Fsm
import Pppcpd.Ppp.Lcp
import Pppcpd.Foundation.Heap
import Pppcpd.Aaa.Config
import Pppcpd.Radius.Avp
import Pppcpd.Radius.Messages
import Pppcpd.Aaa.AuthClient
import Pppcpd.Aaa.Session
import Pppcpd.Aaa.Aaa
import Pppcpd.Ppp.Ipcp
import Pppcpd.Vpp.Vpp
import Pppcpd.Ppp.Auth
import Pppcpd.Runtime.State
import Pppcpd.Runtime.Discovery
import Pppcpd.Runtime.Ppp
import Pppcpd.Runtime.Step
import Pppcpd.Ppp.OptionWalk
import Pppcpd.Runtime.Store
import Pppcpd.Ppp.FsmLaws
import Pppcpd.Ppp.Automata
import Pppcpd.Ppp.Handshake
import Pppcpd.Ppp.Refusal
import Pppcpd.Ppp.Emits
import Pppcpd.Ppp.Addressing
import Pppcpd.Runtime.Cases
import Pppcpd.Runtime.Frames
import Pppcpd.Runtime.Teardown
import Pppcpd.Aaa.Pools
import Pppcpd.Aaa.Step
import Pppcpd.Aaa.Laws
import Pppcpd.Aaa.Entries
import Pppcpd.Aaa.Accounting
import Pppcpd.Aaa.Neighbours
import Pppcpd.Runtime.Answers
import Pppcpd.Runtime.Endings
import Pppcpd.Runtime.Echo
import Pppcpd.Vpp.Commands
import Pppcpd.Runtime.DataPlane
import Pppcpd.Runtime.Reissue
import Pppcpd.Runtime.References
import Pppcpd.Runtime.Confinement
import Pppcpd.Foundation.Tickets
import Pppcpd.Foundation.Verdict
import Pppcpd.Aaa.Methods
import Pppcpd.Aaa.Requests
import Pppcpd.Aaa.Exchange
import Pppcpd.Aaa.Receives
import Pppcpd.Runtime.Phases
import Pppcpd.Aaa.Idle
import Pppcpd.Aaa.Billing
import Pppcpd.Aaa.Interim
import Pppcpd.Aaa.Records
import Pppcpd.Runtime.Orphans
import Pppcpd.Runtime.Pending
import Pppcpd.Runtime.Matching
import Pppcpd.Runtime.Timeouts
import Pppcpd.Runtime.Tags
import Pppcpd.Runtime.TagBounds
import Pppcpd.Runtime.Replies
import Pppcpd.Runtime.Repeats
import Pppcpd.Radius.RoundTrip
import Pppcpd.Aaa.Leases
import Pppcpd.Ppp.Adoption
import Pppcpd.Vpp.Provisioned
import Pppcpd.Runtime.Moves
import Pppcpd.Runtime.Settings
import Pppcpd.Runtime.Leases
import Pppcpd.Aaa.Grants
import Pppcpd.Runtime.Agreement
import Pppcpd.Vpp.Plane
import Pppcpd.Vpp.Exchanges
import Pppcpd.Runtime.Unnumbered
import Pppcpd.Foundation.Cycle
import Pppcpd.Runtime.Allocation
import Pppcpd.Wire.Options
import Pppcpd.Wire.Lengths
import Pppcpd.Ppp.LcpReply
import Pppcpd.Ppp.IpcpReply
import Pppcpd.Ppp.Bounds
import Pppcpd.Ppp.Consistency
import Pppcpd.Runtime.Consistency
import Pppcpd.Foundation.Channel
import Pppcpd.Ppp.Conversation
import Pppcpd.Foundation.Node
import Pppcpd.Config.Conf
import Pppcpd.Config.Yaml
import Pppcpd.Config.RoundTrip
import Pppcpd.Config.Generated
import Pppcpd.Foundation.Framing
import Pppcpd.Foundation.Archive
import Pppcpd.Cli.Messages
import Pppcpd.Cli.Exchanges
import Pppcpd.Runtime.Reception
import Pppcpd.Radius.AvpBounds
import Pppcpd.Aaa.Reuse
import Pppcpd.Radius.Attribute
import Pppcpd.Radius.Encoding
import Pppcpd.Radius.Password
import Pppcpd.Aaa.PoolCalls
import Pppcpd.Ppp.Numbered
import Pppcpd.Aaa.Supply
import Pppcpd.Runtime.Atomicity
import Pppcpd.Runtime.Service
import Pppcpd.Foundation.Strategy
import Pppcpd.Ppp.Progress
import Pppcpd.Aaa.Admission
import Pppcpd.Runtime.Evolution
import Pppcpd.Runtime.DeadEnds
import Pppcpd.Runtime.Recovery
import Pppcpd.Runtime.Openable
import Pppcpd.Runtime.Padding
import Pppcpd.Foundation.Tally
import Pppcpd.Vpp.Counters
import Pppcpd.Aaa.Volumes
import Pppcpd.Vpp.Forwarding
import Pppcpd.Runtime.Provisioning
import Pppcpd.Foundation.Alternation
import Pppcpd.Ppp.Reports
import Pppcpd.Aaa.Constructors
import Pppcpd.Foundation.Words
import Pppcpd.Foundation.OrderedMap
import Pppcpd.Radius.Dictionary
import Pppcpd.Radius.DictionaryLines
import Pppcpd.Radius.DictionaryMeaning
import Pppcpd.Radius.DictionaryValues
import Pppcpd.Foundation.Latest
import Pppcpd.Radius.Responses
import Pppcpd.Aaa.Replies
import Pppcpd.Ppp.EchoMagic
import Pppcpd.Vpp.Tables
import Pppcpd.Ppp.Logins
import Pppcpd.Runtime.Logins
import Pppcpd.Runtime.Terminations
import Pppcpd.Foundation.Prefixes
import Pppcpd.Cli.Commands
import Pppcpd.Runtime.Idempotence
import Pppcpd.Foundation.Counts
import Pppcpd.Ppp.EchoCounter
import Pppcpd.Runtime.Listening
import Pppcpd.Runtime.EchoCount
import Pppcpd.Foundation.Dialogue
import Pppcpd.Vpp.Setup
import Pppcpd.Vpp.Router
import Pppcpd.Vpp.Layout
import Pppcpd.Vpp.Calls
import Pppcpd.Vpp.Clearing
import Pppcpd.Vpp.Vrfs
import Pppcpd.Vpp.Units
import Pppcpd.Vpp.Startup
import Pppcpd.Vpp.Responses
import Pppcpd.Vpp.Refusals
import Pppcpd.Vpp.Restart
import Pppcpd.Runtime.Tables
import Pppcpd.Runtime.Newcomer
import Pppcpd.Runtime.Lingering
import Pppcpd.Runtime.Watch
import Pppcpd.Runtime.Shutdown
import Pppcpd.Foundation.Completion
import Pppcpd.Cli.Editor
import Pppcpd.Foundation.Warrant
import Pppcpd.Runtime.WireOrder

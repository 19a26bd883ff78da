import GraphcastSdk.Lib.Outcome
import GraphcastSdk.Lib.Traverse
import GraphcastSdk.Lib.Calls
import GraphcastSdk.Lib.CallTrace
import GraphcastSdk.Lib.Run
import GraphcastSdk.Lib.Locks
import GraphcastSdk.Lib.HighWater
import GraphcastSdk.Lib.Prelude
import GraphcastSdk.Lib.Text
import GraphcastSdk.Lib.Decimal
import GraphcastSdk.Lib.FloatText
import GraphcastSdk.Lib.Lowercase
import GraphcastSdk.Lib.LastWrite
import GraphcastSdk.Lib.FirstWrite
import GraphcastSdk.Lib.Checkpoint
import GraphcastSdk.Lib.Proto3
import GraphcastSdk.Lib.Proto3Append
import GraphcastSdk.Networks
import GraphcastSdk.Graphql.Schema
import GraphcastSdk.Graphql.Basic
import GraphcastSdk.Graphql.ClientRegistry
import GraphcastSdk.Graphql.ClientGraphAccount
import GraphcastSdk.Graphql.ClientNetwork
import GraphcastSdk.Graphql.ClientGraphNode
import GraphcastSdk.Account
import GraphcastSdk.Modes
import GraphcastSdk.ResponseErrors
import GraphcastSdk.Owner
import GraphcastSdk.Stake
import GraphcastSdk.Amounts
import GraphcastSdk.Chainheads
import GraphcastSdk.MessageBlock
import GraphcastSdk.SubgraphBlocks
import GraphcastSdk.Message
import GraphcastSdk.Nonces
import GraphcastSdk.SenderCheck
import GraphcastSdk.Receiver
import GraphcastSdk.Replay
import GraphcastSdk.Authenticity
import GraphcastSdk.WakuHandling
import GraphcastSdk.Peers
import GraphcastSdk.Agent
import GraphcastSdk.AgentLocks
import GraphcastSdk.OwnMessages
import GraphcastSdk.Topics
import GraphcastSdk.Identity
import GraphcastSdk.SetUp
import GraphcastSdk.Multiaddrs
import GraphcastSdk.Sending
import GraphcastSdk.RoundTrip
import GraphcastSdk.Wire
import GraphcastSdk.Inbox
import GraphcastSdk.PingPong
import GraphcastSdk.PingPongNetwork
import GraphcastSdk.Locking
import GraphcastSdk.NodeSetUp
import GraphcastSdk.StartUp

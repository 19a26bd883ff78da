import GraphcastSdk.Identity
import GraphcastSdk.Lib.CallTrace
import GraphcastSdk.Multiaddrs
import GraphcastSdk.Peers

/-!
# Setting up the Waku node (`graphcast_agent/waku_handling.rs`, `graphcast_agent/mod.rs`, `lib.rs`)

`setup_node_handle` with what it calls, down to the calls of `waku_bindings`, and around it
`GraphcastAgentConfig::new`, `GraphcastAgent::new` and `GraphcastAgent::stop`. The bindings are a
`Calls.Service`: whatever they answer, to which call and when. An answer has a part for each type
that a call returns, and the code reads the one its call has.

`GraphcastAgent.newOn` is `GraphcastAgent::new` with these calls in it; `GraphcastAgent.new` is the
same with the node's part as one outcome (`newOn_of_identity`, in `StartUp`).

The parameter `Platform` has the environment variables, whether the log takes `info!` lines, and
what the crate parses and prints by way of other crates. One of those lines asks the node for its
id, a query that the crate makes only where the line is logged.
-/

namespace GraphcastSdk

open Calls (Service Calling)

/-! ## What is used of `waku_bindings` and of the platform -/

/-- `waku::ProtocolId`. -/
inductive ProtocolId where
  | relay
  | filter
  deriving Repr, DecidableEq

/-- `waku::DnsInfo`; the record as `to_base64` prints it. -/
structure DnsInfo (A : Type) where
  peerId : String
  addresses : List A
  enr : Option String
  deriving Repr, DecidableEq

/-- `waku::WakuLogLevel`. -/
inductive WakuLogLevel where
  | debug
  | info
  | warn
  | error
  | fatal
  | panic
  deriving Repr, DecidableEq

/-- `waku::WakuNodeConfig`, without the fields that `node_config` leaves at `None`. -/
structure WakuNodeConfig (A K : Type) where
  host : Option String
  port : Option UInt64
  advertiseAddr : Option A
  nodeKey : Option K
  relay : Option Bool
  minPeersToPublish : Option Nat
  logLevel : Option WakuLogLevel
  relayTopics : List String
  discv5 : Option Bool
  discv5BootstrapNodes : List String
  discv5UdpPort : Option UInt16
  /-- `gossipsub_params`: how long a message counts as seen, and how many are kept. -/
  seenMessagesTtlSeconds : Option Nat
  historyLength : Option Nat
  dnsDiscoveryUrls : List String
  dnsDiscoveryNameserver : Option String
  deriving Repr, DecidableEq

/-- What is handed to `waku_set_event_callback`. -/
inductive EventCallback where
  | handleSignal
  | empty
  deriving Repr, DecidableEq

/-- The calls of the bindings. -/
inductive WakuCall (A K : Type) where
  | dnsDiscovery (url : String) (nameserver : Option String) (timeout : Option Nat)
  | new (config : Option (WakuNodeConfig A K))
  | start
  | addPeer (address : A) (protocolId : ProtocolId)
  | relaySubscribe (contentFilter : ContentFilter)
  | peerId
  | peers
  | node (call : NodeCall)
  | setEventCallback (callback : EventCallback)
  | stop
  deriving Repr, DecidableEq

/-- An answer, in every type that a call may return. -/
structure WakuAnswer (A : Type) where
  done : NodeAnswer
  peerId : Except String String
  dnsInfos : Except String (List (DnsInfo A))
  peers : Except String (List WakuPeerData)

structure Platform (A K : Type) where
  /-- `env::var`, when it returns a value. -/
  var : String → Option String
  /-- The subscriber of `tracing` takes an `info!` of `setup_node_handle`. -/
  logsInfo : Bool
  /-- `str::to_uppercase`. -/
  toUppercase : String → String
  /-- `Multiaddr::from_str`. -/
  multiaddr : String → Except String A
  /-- `{}` of a multiaddress. -/
  displayMultiaddr : A → String
  /-- `waku::SecretKey::from_str`. -/
  secretKey : String → Except String K
  /-- `IpAddr::from_str`, as the address prints. -/
  ipAddr : String → Except String String
  /-- `Url::parse`, as the address prints. -/
  url : String → Except String String
  /-- `{:?}` of an error, in the text of a panic. -/
  debug : WakuHandlingError → String

/-- The fields of `GraphcastAgentConfig` that go to the Waku node alone. -/
structure NodeOptions (A : Type) where
  bootNodeAddresses : List A
  wakuNodeKey : Option String
  wakuHost : Option String
  wakuPort : Option String
  wakuAddr : Option String
  filterProtocol : Option Bool
  discv5Enrs : List String
  discv5Port : Option UInt16
  dnsDiscoveryUrls : List String
  dnsDiscoveryNameserver : Option String
  deriving Repr, DecidableEq

/-! ## Addresses and ports -/

section Discovery

variable {A K : Type} (platform : Platform A K)

/-- `discovery_url`. -/
def discoveryUrl (pubsubTopic : String) : Except String String :=
  platform.url <| (platform.var "ENR_URL").getD <|
    if pubsubTopic = "/waku/2/graphcast-v0-mainnet/proto" then
      "enrtree://APDKVCM3Q7TLTBD2FXKMXNIOIDPQRXNNI4ZXKEQLOWAFO3BZXZM3C@mainnet.bootnodes.graphcast.xyz"
    else
      "enrtree://AOADZWXPAJ56TIXA74PV7VJP356QNBIKUPRKR676BBOOELU5XDDKM@testnet.bootnodes.graphcast.xyz"

/-- `cf_nameserver`. -/
def cfNameserver : String := "konnor.ns.cloudflare.com"

/-- `get_dns_nodes`: no nodes where there is no answer. -/
def getDnsNodes {ε : Type} (pubsubTopic : String) :
    Calling (WakuCall A K) (WakuAnswer A) ε (List (DnsInfo A)) :=
  match discoveryUrl platform pubsubTopic with
  | .ok url => do
    let answer ← Calls.call (.dnsDiscovery url (some cfNameserver) none)
    match answer.dnsInfos with
    | .ok infos => pure infos
    | .error _ => pure []
  | .error _ => pure []

/-- `get_multiaddress`. -/
def getMultiaddress (dnsInfo : DnsInfo A) : Option A :=
  match dnsInfo.addresses.head? with
  | some address =>
    (platform.multiaddr (platform.displayMultiaddr address ++ "/p2p/" ++ dnsInfo.peerId)).toOption
  | none => none

/-- `gather_nodes`. -/
def gatherNodes {ε : Type} (staticNodes : List A) (pubsubTopic : String) :
    Calling (WakuCall A K) (WakuAnswer A) ε (List A) := do
  let infos ← getDnsNodes platform pubsubTopic
  pure (staticNodes ++ infos.filterMap (getMultiaddress platform))

end Discovery

/-- The digits of `str::parse::<usize>`, after those that make `n`. -/
def parseDigits : UInt64 → List Char → Except String UInt64
  | n, [] => .ok n
  | n, c :: cs =>
    if c.isDigit then
      let next := n.toNat * 10 + (c.toNat - '0'.toNat)
      if next < 2 ^ 64 then parseDigits (UInt64.ofNat next) cs
      else .error "number too large to fit in target type"
    else .error "invalid digit found in string"

/-- `str::parse::<usize>`, and what its error prints. -/
def parseUsize (s : String) : Except String UInt64 :=
  match s.toList with
  | [] => .error "cannot parse integer from empty string"
  | ['+'] => .error "invalid digit found in string"
  | '+' :: digits => parseDigits 0 digits
  | digits => parseDigits 0 digits

/-! ## The node -/

section Node

variable {A K : Type} (platform : Platform A K)

/-- The log level of `node_config`. -/
def logLevel : WakuLogLevel :=
  match platform.var "WAKU_LOG_LEVEL" with
  | some level =>
    match platform.toUppercase level with
    | "DEBUG" => .debug
    | "INFO" => .info
    | "WARN" => .warn
    | "ERROR" => .error
    | "FATAL" => .fatal
    | "PANIC" => .panic
    | _ => .warn
  | none => .panic

/-- `node_config`. -/
def nodeConfig (host : Option String) (port : UInt64) (adAddr : Option A) (key : Option K)
    (filterProtocol : Option Bool) (discv5Nodes : List String) (discv5Port : Option UInt16)
    (dnsDiscoveryUrls : List String) (dnsDiscoveryNameserver : Option String) :
    Option (WakuNodeConfig A K) :=
  some
    { host := host.bind fun h => (platform.ipAddr h).toOption
      port := some port
      advertiseAddr := adAddr
      nodeKey := key
      relay := filterProtocol.map fun b => !b
      minPeersToPublish := some 0
      logLevel := some (logLevel platform)
      relayTopics := []
      discv5 := some true
      discv5BootstrapNodes := discv5Nodes
      discv5UdpPort := discv5Port
      seenMessagesTtlSeconds := some 1800
      historyLength := some 100000
      dnsDiscoveryUrls := dnsDiscoveryUrls
      dnsDiscoveryNameserver := dnsDiscoveryNameserver }

/-- A call with its answer, whose error is returned. -/
def callOrErr {ε β : Type} (k : WakuCall A K) (part : WakuAnswer A → Except String β)
    (f : String → ε) : Calling (WakuCall A K) (WakuAnswer A) ε β := do
  let answer ← Calls.call k
  Calls.lift (Outcome.ofExcept f (part answer))

/-- `relay_subscribe`. -/
def relaySubscribe (contentFilter : ContentFilter) :
    Calling (WakuCall A K) (WakuAnswer A) WakuHandlingError Unit :=
  callOrErr (.relaySubscribe contentFilter) WakuAnswer.done .createNodeError

/-- The closure of `connect_multiaddresses`, on one address. -/
def connectMultiaddress {ε : Type} (protocolId : ProtocolId) (address : A) :
    Calling (WakuCall A K) (WakuAnswer A) ε Unit := do
  let answer ← Calls.call (.addPeer address protocolId)
  match answer.peerId with
  | .ok peerId => do
    -- an error is a line in the log
    let _ ← Calls.call (.node (.connectPeerWithId peerId none))
    pure ()
  | .error _ => pure ()

/-- `connect_multiaddresses`; which peers it could connect is logged. -/
def connectMultiaddresses {ε : Type} (nodes : List A) (protocolId : ProtocolId) :
    Calling (WakuCall A K) (WakuAnswer A) ε Unit :=
  Calls.forEach (connectMultiaddress protocolId) nodes

/-- `boot_node_handle`. -/
def bootNodeHandle (pubsubTopic : String) (host : Option String) (port : UInt64)
    (advertisedAddr : Option A) (nodeKey : Option K) (filter : Option Bool)
    (discv5Enrs : List String) (discv5Port : Option UInt16) (dnsDiscoveryUrls : List String)
    (dnsDiscoveryNameserver : Option String) :
    Calling (WakuCall A K) (WakuAnswer A) WakuHandlingError Unit := do
  let bootNodeConfig := nodeConfig platform host port advertisedAddr nodeKey filter discv5Enrs
    discv5Port dnsDiscoveryUrls dnsDiscoveryNameserver
  callOrErr (.new bootNodeConfig) WakuAnswer.done .createNodeError
  callOrErr .start WakuAnswer.done .createNodeError
  Calls.orPanic (fun e => "Could not subscribe to the topic: " ++ Text.debugStr e)
    (callOrErr (.relaySubscribe ⟨some pubsubTopic, []⟩) WakuAnswer.done id)
  let _bootNodeId ← callOrErr .peerId WakuAnswer.peerId fun _ =>
    .peerInfoError "Could not get node id from local node instance"
  pure ()

/-- The last `info!` of `setup_node_handle`: it prints what `peer_id()` returns, be it an error. -/
def logPeerId {ε : Type} : Calling (WakuCall A K) (WakuAnswer A) ε Unit :=
  if platform.logsInfo then do
    let _ ← Calls.call .peerId
    pure ()
  else pure ()

/-- `setup_node_handle`. -/
def setupNodeHandle (bootNodeAddresses : List A) (pubsubTopic : String) (host port : Option String)
    (advertisedAddr : Option A) (nodeKey : Option K) (filterProtocol : Option Bool)
    (discv5Enrs : List String) (discv5Port : Option UInt16) (dnsDiscoveryUrls : List String)
    (dnsDiscoveryNameserver : Option String) :
    Calling (WakuCall A K) (WakuAnswer A) WakuHandlingError Unit := do
  let port ← Calls.lift (Outcome.ofExcept .parsePortError (parseUsize (port.getD "60000")))
  let dnsNodes ← getDnsNodes platform pubsubTopic
  let discv5Nodes := dnsNodes.filterMap DnsInfo.enr ++ discv5Enrs
  if platform.var "WAKU_NODE_BOOT" = some "boot" then
    bootNodeHandle platform pubsubTopic host port advertisedAddr nodeKey filterProtocol discv5Enrs
      discv5Port dnsDiscoveryUrls dnsDiscoveryNameserver
  else do
    let nodeConfig := nodeConfig platform host port advertisedAddr nodeKey filterProtocol
      discv5Nodes discv5Port dnsDiscoveryUrls dnsDiscoveryNameserver
    callOrErr (.new nodeConfig) WakuAnswer.done .createNodeError
    callOrErr .start WakuAnswer.done .createNodeError
    let nodes ← gatherNodes platform bootNodeAddresses pubsubTopic
    if filterProtocol = some false then connectMultiaddresses nodes .relay
    else connectMultiaddresses nodes .filter
    logPeerId platform

end Node

/-! ## The agent -/

/-- `WAKU_DISCOVERY_ENR`. -/
def wakuDiscoveryEnr : String :=
  "enr:-P-4QJI8tS1WTdIQxq_yIrD05oIIW1Xg-tm_qfP0CHfJGnp9dfr6ttQJmHwTNxGEl4Le8Q7YHcmi-kXTtphxFysS11oBgmlkgnY0gmlwhLymh5GKbXVsdGlhZGRyc7hgAC02KG5vZGUtMDEuZG8tYW1zMy53YWt1djIucHJvZC5zdGF0dXNpbS5uZXQGdl8ALzYobm9kZS0wMS5kby1hbXMzLndha3V2Mi5wcm9kLnN0YXR1c2ltLm5ldAYfQN4DiXNlY3AyNTZrMaEDbl1X_zJIw3EAJGtmHMVn4Z2xhpSoUaP5ElsHKCv7hlWDdGNwgnZfg3VkcIIjKIV3YWt1Mg8"

/-- `{}` of a `ConfigError`. -/
def ConfigError.display : ConfigError → String
  | .validateInput text => "Validate the input: " ++ text
  | .other e => "Unknown error: " ++ e

section Agent

variable {A K T W : Type} (platform : Platform A K) (u : Text.Unicode) (keys : Keys W)
  (signer : Signer T W)

/-- `GraphcastAgentConfig::new`: `config` has the arguments that are kept as they are, and `options`
those for the node, but for the three that may be left out. -/
def GraphcastAgentConfig.new (web : Subgraphs) (F : Type) [F32 F] (node : GraphNode)
    (config : GraphcastAgentConfig) (options : NodeOptions A)
    (bootNodeAddresses : Option (List String)) (subtopics : Option (List String))
    (discv5Enrs : Option (List String)) :
    Outcome GraphcastAgentError (GraphcastAgentConfig × NodeOptions A) := do
  let bootNodeAddresses ← (convertToMultiaddrs platform.multiaddr
    (bootNodeAddresses.getD [])).mapErr fun _ => .convertMultiaddrError
  let config := { config with subtopics := subtopics.getD [] }
  let options := { options with
    bootNodeAddresses
    filterProtocol := some (options.filterProtocol.getD false)
    discv5Enrs := discv5Enrs.getD [wakuDiscoveryEnr] }
  match config.validateSetUp keys signer web F node with
  | .ok _ => pure (config, options)
  | .err e => .panic ("Could not validate the supplied configurations: " ++ e.display)
  | .panic p => .panic p

/-- The subscription of `GraphcastAgent::new`, over the relay or with the peers. -/
def subscribe (pubsubTopic : String) (contentTopics : List WakuContentTopic)
    (filterProtocol : Option Bool) :
    Calling (WakuCall A K) (WakuAnswer A) GraphcastAgentError Unit :=
  if filterProtocol = some false then
    Calls.orPanic (fun e => "Could not subscribe to the pubsub topic: " ++ platform.debug e)
      (relaySubscribe ⟨some pubsubTopic, contentTopics⟩)
  else
    Calls.orPanic
        (fun e => "Could not connect and subscribe to the subtopics: " ++ platform.debug e) do
      let answer ← Calls.call .peers
      let _ ← Calls.embed .node WakuAnswer.done
        (filterPeerSubscriptions ⟨answer.peerId, answer.peers⟩ pubsubTopic contentTopics)
      pure ()

/-- `register_handler`. -/
def registerHandler {ε : Type} : Calling (WakuCall A K) (WakuAnswer A) ε Unit := do
  let _ ← Calls.call (.setEventCallback .handleSignal)
  pure ()

/-- What `GraphcastAgent::new` does at the node. -/
def GraphcastAgent.nodePart (config : GraphcastAgentConfig) (options : NodeOptions A) :
    Calling (WakuCall A K) (WakuAnswer A) GraphcastAgentError Unit := do
  let pubsubTopic := GraphcastSdk.pubsubTopic config.graphcastNamespace
  let advertisedAddr := options.wakuAddr.bind fun a => (platform.multiaddr a).toOption
  let nodeKey := options.wakuNodeKey.bind fun key => (platform.secretKey key).toOption
  Calls.mapErr .wakuNodeError (setupNodeHandle platform options.bootNodeAddresses pubsubTopic
    options.wakuHost options.wakuPort advertisedAddr nodeKey options.filterProtocol
    options.discv5Enrs options.discv5Port options.dnsDiscoveryUrls options.dnsDiscoveryNameserver)
  let contentTopics := buildContentTopics config.radioName "0" config.subtopics
  subscribe platform pubsubTopic contentTopics options.filterProtocol
  registerHandler

/-- `GraphcastAgent::new`. -/
def GraphcastAgent.newOn (config : GraphcastAgentConfig) (options : NodeOptions A) :
    Calling (WakuCall A K) (WakuAnswer A) GraphcastAgentError (GraphcastAgent W) := do
  let graphcastIdentity ← Calls.lift ((GraphcastIdentity.new u keys signer config.walletKey
    config.graphAccount).mapErr .configValidation)
  nodePart platform config options
  pure
    { graphcastIdentity
      shared := Agent.init config.radioName ∅
        (buildContentTopics config.radioName "0" config.subtopics)
      pubsubTopic := GraphcastSdk.pubsubTopic config.graphcastNamespace
      callbook := ⟨config.registrySubgraph, config.networkSubgraph⟩
      idValidation := config.idValidation }

/-- `GraphcastAgent::stop`. -/
def GraphcastAgent.stop : Calling (WakuCall A K) (WakuAnswer A) GraphcastAgentError Unit := do
  let _ ← Calls.call (.setEventCallback .empty)
  callOrErr .stop WakuAnswer.done fun e => .wakuNodeError (.stopNodeError e)

end Agent

end GraphcastSdk

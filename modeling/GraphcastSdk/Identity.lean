import GraphcastSdk.Agent
import GraphcastSdk.Graphql.ClientGraphNode
import GraphcastSdk.Lib.Lowercase
import GraphcastSdk.Message

/-!
# Identities and the set-up of an agent (`lib.rs`, `graphcast_agent/mod.rs`)

`build_wallet`, `wallet_address`, `GraphcastIdentity::new`,
`GraphcastAgentConfig::validate_set_up`, and `GraphcastAgent::new` with the message that
`send_message` builds.

Two accounts come out of one configuration. `validate_set_up` verifies the configured
`graph_account` as it is written (`localAccount`); the identity that signs and sends carries it in
lower case.

What `ethers` makes of a wallet key is the parameter `Keys`, and the Waku node that
`GraphcastAgent::new` sets up and subscribes is what that comes to (`waku`): it sees nothing of
the identity.
-/

namespace GraphcastSdk

/-- What is used of `ethers` wallets besides signing. -/
structure Keys (W : Type) where
  /-- `value.parse::<LocalWallet>()`. -/
  parse : String → Except WalletError W
  /-- `MnemonicBuilder::<English>::default().phrase(value).build()`. -/
  mnemonic : String → Except WalletError W
  /-- `{:?}` of an address. -/
  debugAddress : H160 → String

section Wallet

variable {T W : Type} (keys : Keys W) (signer : Signer T W)

/-- `build_wallet`: a private key, or else a mnemonic. -/
def buildWallet (value : String) : Except WalletError W :=
  match keys.parse value with
  | .ok wallet => .ok wallet
  | .error _ => keys.mnemonic value

/-- `wallet_address`. -/
def walletAddress (wallet : W) : String := keys.debugAddress (signer.address wallet)

/-- An address prints the same under `{:?}`, as the wallet's, and under `{:#x}`, as the sender's. -/
def PrintsAlike (ethers : Ethers T) : Prop :=
  ∀ address, keys.debugAddress address = ethers.lowerHex address

/-- `build_wallet` with the error that both its callers give it. -/
def configuredWallet (value : String) : Outcome ConfigError W :=
  Outcome.ofExcept
    (fun e => .validateInput ("Invalid key to wallet, use private key or mnemonic: " ++ e))
    (buildWallet keys value)

end Wallet

structure GraphcastIdentity (W : Type) where
  wallet : W
  graphcastId : String
  /-- indexer address but will include other graph accounts -/
  graphAccount : String
  deriving Repr, DecidableEq

/-- `GraphcastIdentity::new`. -/
def GraphcastIdentity.new {T W : Type} (u : Text.Unicode) (keys : Keys W) (signer : Signer T W)
    (agentKey graphAccount : String) : Outcome ConfigError (GraphcastIdentity W) := do
  let wallet ← configuredWallet keys agentKey
  pure { wallet, graphcastId := walletAddress keys signer wallet,
         graphAccount := u.toLowercase graphAccount }

/-- `GraphcastAgentConfig`, without what goes to the Waku node alone. -/
structure GraphcastAgentConfig where
  walletKey : String
  graphAccount : String
  radioName : String
  registrySubgraph : String
  networkSubgraph : String
  idValidation : IdentityValidation
  graphNodeEndpoint : Option String
  graphcastNamespace : Option String
  subtopics : List String
  deriving Repr, DecidableEq

namespace GraphcastAgentConfig

variable {T W : Type} (keys : Keys W) (signer : Signer T W) (web : Subgraphs) (F : Type) [F32 F]

/-- The account that `validate_set_up` verifies: the `graph_account` as configured. -/
def localAccount (self : GraphcastAgentConfig) (wallet : W) : Account :=
  ⟨walletAddress keys signer wallet, self.graphAccount⟩

/-- The verification inside `validate_set_up`. -/
def verifyLocal (self : GraphcastAgentConfig) (wallet : W) : Outcome MessageError Account :=
  (self.localAccount keys signer wallet).verify web F self.networkSubgraph self.registrySubgraph
    self.idValidation

/-- `validate_set_up`. -/
def validateSetUp (node : GraphNode) (self : GraphcastAgentConfig) : Outcome ConfigError Unit := do
  let wallet ← configuredWallet keys self.walletKey
  match self.verifyLocal keys signer web F wallet with
  | .ok _ | .err _ =>
    -- either way a line in the log
    match self.graphNodeEndpoint with
    | some graphNode => do
      let _ ← (getIndexingStatuses node graphNode).mapErr fun e => .validateInput
        ("Graph node endpoint must be able to serve indexing statuses query: " ++ e.display)
      pure ()
    | none => pure ()
  | .panic p => .panic p

end GraphcastAgentConfig

/-- `GraphcastAgent`, without the node's handle and the nonces. -/
structure GraphcastAgent (W : Type) where
  /-- GraphcastID's wallet, used to sign messages -/
  graphcastIdentity : GraphcastIdentity W
  /-- The radio's name, and the ids and topics shared with the event callback. -/
  shared : Agent
  pubsubTopic : String
  callbook : CallBook
  /-- Sender identity validation mechanism used by the Graphcast agent -/
  idValidation : IdentityValidation

namespace GraphcastAgent

variable {T W : Type} (u : Text.Unicode) (keys : Keys W) (signer : Signer T W)

/-- `GraphcastAgent::new`. -/
def new (waku : Outcome GraphcastAgentError Unit) (config : GraphcastAgentConfig) :
    Outcome GraphcastAgentError (GraphcastAgent W) := do
  let graphcastIdentity ← (GraphcastIdentity.new u keys signer config.walletKey
    config.graphAccount).mapErr .configValidation
  waku
  pure
    { graphcastIdentity
      shared := Agent.init config.radioName ∅
        (buildContentTopics config.radioName "0" config.subtopics)
      pubsubTopic := GraphcastSdk.pubsubTopic config.graphcastNamespace
      callbook := ⟨config.registrySubgraph, config.networkSubgraph⟩
      idValidation := config.idValidation }

/-- The message that `send_message` builds. -/
def buildMessage (self : GraphcastAgent W) (identifier : String) (payload : T) (nonce : UInt64) :
    Outcome GraphcastAgentError (GraphcastMessage T) :=
  (GraphcastMessage.build signer self.graphcastIdentity.wallet identifier
    self.graphcastIdentity.graphAccount nonce payload).mapErr .messageError

end GraphcastAgent

/-! ## What comes out of a configuration -/

section Identity

variable {T W : Type} {u : Text.Unicode} {keys : Keys W} {signer : Signer T W}

theorem GraphcastIdentity.new_eq_ok {agentKey graphAccount : String} {x : GraphcastIdentity W} :
    GraphcastIdentity.new u keys signer agentKey graphAccount = .ok x ↔
      ∃ wallet, buildWallet keys agentKey = .ok wallet ∧
        x = ⟨wallet, walletAddress keys signer wallet, u.toLowercase graphAccount⟩ := by
  unfold GraphcastIdentity.new configuredWallet
  simp only [Outcome.bind_eq_ok, Outcome.ofExcept_eq_ok, Outcome.pure_def, Outcome.ok.injEq,
    eq_comm (b := x)]

/-- An agent carries the wallet of its key and the configured account in lower case. -/
theorem GraphcastAgent.identity_of_new {waku : Outcome GraphcastAgentError Unit}
    {config : GraphcastAgentConfig} {agent : GraphcastAgent W}
    (h : GraphcastAgent.new u keys signer waku config = .ok agent) :
    buildWallet keys config.walletKey = .ok agent.graphcastIdentity.wallet ∧
      agent.graphcastIdentity.graphAccount = u.toLowercase config.graphAccount := by
  unfold GraphcastAgent.new at h
  obtain ⟨x, hx, h⟩ := Outcome.bind_eq_ok.mp h
  obtain ⟨_, -, h⟩ := Outcome.bind_eq_ok.mp h
  obtain rfl := Outcome.ok.inj h
  obtain ⟨wallet, hw, rfl⟩ := GraphcastIdentity.new_eq_ok.mp (Outcome.mapErr_eq_ok.mp hx)
  exact ⟨hw, rfl⟩

end Identity

/-! ## The configuration in the documentation of `GraphcastAgent::new` -/

def docKey : String := "1231231231231231231231231231231231231231231231231231231231231230"

/-- The address of its wallet. -/
def docAddress : H160 := 0xfd3082ac044a8093a40051382bc4607e3e41da56#160

/-- The wallet's signature of `ping`. -/
def docSignature : Signature where
  r := 0x8bcf673d037b2f55009ef9cdf0399f19fa6b9a458ba419271860e8e5b9ce4ef3#256
  s := 0x6ab5ea3c87b0267ec4d99f8ae7e89bc91c73d663ba36e24c663ff72eeb5263e8#256
  v := 27

def docSignatureText : String :=
  "8bcf673d037b2f55009ef9cdf0399f19fa6b9a458ba419271860e8e5b9ce4ef3" ++
    "6ab5ea3c87b0267ec4d99f8ae7e89bc91c73d663ba36e24c663ff72eeb5263e81b"

/-- `ethers` as far as this wallet and `ping` go. -/
def docEthers : Ethers SimpleMessage where
  encodeEip712 payload := .ok
    (if payload = ping then
      0x8d3d70261e8d11132e0c6c4fe68689890081712bfe995bd764adbf270f35f74a#256 else 0)
  signatureFromStr text :=
    if text = docSignatureText then .ok docSignature else .error "invalid signature"
  recover sig digest :=
    if sig = docSignature ∧
        digest = 0x8d3d70261e8d11132e0c6c4fe68689890081712bfe995bd764adbf270f35f74a#256 then
      .ok docAddress
    else .error "signature error"
  lowerHex := goerliEthers.lowerHex

def docSigner : Signer SimpleMessage Unit where
  signTypedData _ payload := if payload = ping then .ok docSignature else .error "not recorded"
  signatureToString sig := if sig = docSignature then docSignatureText else ""
  address _ := docAddress

def docKeys : Keys Unit where
  parse value := if value = docKey then .ok () else .error "invalid key"
  mnemonic _ := .error "invalid phrase"
  debugAddress := goerliEthers.lowerHex

/-- Text in ASCII needs no tables. -/
def asciiTables : Text.Unicode where
  lower c := [c]
  caseIgnorable _ := false
  cased _ := false

/-- The documented configuration, for a graph account and a mode. -/
def docConfig (graphAccount : String) (idValidation : IdentityValidation) :
    GraphcastAgentConfig where
  walletKey := docKey
  graphAccount := graphAccount
  radioName := "test_radio"
  registrySubgraph := "https://api.thegraph.com/subgraphs/name/hopeyen/gossip-registry-test"
  networkSubgraph := "https://gateway.testnet.thegraph.com/network"
  idValidation := idValidation
  graphNodeEndpoint := some "https://api.thegraph.com/index-node/graphql"
  graphcastNamespace := some "test_namespace_in_pubsub_topic"
  subtopics := ["some_subgraph_hash"]

/-- The agent it makes. -/
def docAgent (graphAccount : String) (idValidation : IdentityValidation) :
    GraphcastAgent Unit where
  graphcastIdentity :=
    ⟨(), walletAddress docKeys docSigner (), asciiTables.toLowercase graphAccount⟩
  shared := Agent.init "test_radio" ∅
    (buildContentTopics "test_radio" "0" ["some_subgraph_hash"])
  pubsubTopic := "/waku/2/graphcast-v0-test_namespace_in_pubsub_topic/proto"
  callbook := ⟨"https://api.thegraph.com/subgraphs/name/hopeyen/gossip-registry-test",
    "https://gateway.testnet.thegraph.com/network"⟩
  idValidation := idValidation

theorem docAgent_new (graphAccount : String) (idValidation : IdentityValidation) :
    GraphcastAgent.new asciiTables docKeys docSigner (.ok ())
      (docConfig graphAccount idValidation) = .ok (docAgent graphAccount idValidation) := by
  have hw : configuredWallet docKeys docKey = .ok () := rfl
  unfold GraphcastAgent.new GraphcastIdentity.new docConfig
  simp only [hw, Outcome.ok_bind]
  rfl

/-- `ping`, as it sends it on its one topic. -/
def docMessage (graphAccount : String) : GraphcastMessage SimpleMessage where
  identifier := "some_subgraph_hash"
  nonce := 1688744240
  graphAccount := asciiTables.toLowercase graphAccount
  payload := ping
  signature := docSignatureText

theorem docAgent_buildMessage (graphAccount : String) (idValidation : IdentityValidation) :
    (docAgent graphAccount idValidation).buildMessage docSigner "some_subgraph_hash" ping
      1688744240 = .ok (docMessage graphAccount) := rfl

example : walletAddress docKeys docSigner () = "0xfd3082ac044a8093a40051382bc4607e3e41da56" := by
  decide +kernel

end GraphcastSdk

import GraphcastSdk.NodeSetUp
import GraphcastSdk.SenderCheck

/-!
# What starting an agent asks of the node

Whatever the node and the network answer, to which call and when:

* `newOn_decides`: the start returns an agent iff the wallet and the port can be read and no call
  fails that it cannot do without: making and starting the node, a subscription over the relay, the
  list of peers for subscriptions with them, the id of a boot node. Discovery, dials and the
  subscriptions with single peers may all fail. It panics, rather than return an error, on the calls
  that an `expect` unwraps. The agent is the one of `GraphcastAgent.new`.
* `newOn_coherent`: for a configuration that `GraphcastAgentConfig::new` made, the configuration of
  the node, the dials and the subscriptions agree on the protocol; a boot node alone subscribes over
  the relay whether it relays or not. The callback is registered last and on success alone, and a
  start that fails does not stop the node.
* `newOn_dials`: a node that is no boot node dials its static nodes and then those that its last
  discovery found, each once and in order, whichever dials fail; a boot node dials nobody.

The three say something else of the same traces, so each function of the start has a lemma for each:
`decides_*` for its outcome, `makes_*` for the kinds of calls it makes, and `traces_*` for what it
dials. A lemma follows the body of its function by the rules of `CallTrace`, a rule for each way to
compose code, and its callers use the lemma and do not look into the body again.

The node is a service, so nothing is assumed of it: an answer may depend on all the calls before it,
and a node that fails a call may answer the same call when it is made again.
-/

namespace GraphcastSdk

open Calls (Service Calling Traces Makes Decides)

variable {A K : Type} {platform : Platform A K}

/-- A call returned a value. -/
def Returned {β : Type} (answer : Except String β) : Prop := ∃ b, answer = .ok b

variable (platform) in
/-- The node runs as a boot node. -/
def Boots : Prop := platform.var "WAKU_NODE_BOOT" = some "boot"

variable (platform) in
/-- The answer lets the start go on. What asks for its own id is a boot node, or a line in the log,
for which any answer will do. -/
def Fine : WakuCall A K × WakuAnswer A → Prop
  | (.new _, answer) => Returned answer.done
  | (.start, answer) => Returned answer.done
  | (.relaySubscribe _, answer) => Returned answer.done
  | (.peerId, answer) => Boots platform → Returned answer.peerId
  | (.peers, answer) => Returned answer.peers
  | (.stop, answer) => Returned answer.done
  | (.dnsDiscovery _ _ _, _) => True
  | (.addPeer _ _, _) => True
  | (.node _, _) => True
  | (.setEventCallback _, _) => True

/-- A call whose error an `expect` unwraps. -/
def Expected : WakuCall A K → Prop
  | .relaySubscribe _ => True
  | .peers => True
  | _ => False

variable {service : Service (WakuCall A K) (WakuAnswer A)} {ε : Type}

/-! ## The outcome -/

/-- A call whose answer is fine when it has the part that is read. -/
theorem decides_callOrErr {β : Type} {k : WakuCall A K} {part : WakuAnswer A → Except String β}
    {f : String → ε} (h : ∀ answer, Fine platform (k, answer) ↔ Returned (part answer))
    (hk : ¬ Expected k) : Decides service (Fine platform) Expected (callOrErr k part f) := by
  refine Decides.call_lift (fun answer => ?_) (fun answer => Outcome.isPanic_ofExcept _ _) hk
  rw [h]
  exact exists_congr fun b => Outcome.ofExcept_eq_ok

/-- The same call under an `expect`. -/
theorem decides_expect_callOrErr {β : Type} {k : WakuCall A K} {ε' : Type}
    {part : WakuAnswer A → Except String β} {f : String → ε} {text : ε → String}
    (h : ∀ answer, Fine platform (k, answer) ↔ Returned (part answer)) (hk : Expected k) :
    Decides service (Fine platform) Expected
      (Calls.orPanic text (callOrErr k part f) : Calling (WakuCall A K) (WakuAnswer A) ε' β) := by
  refine Decides.orPanic (Traces.call_bind fun answer => Traces.lift _ ⟨?_, ?_⟩)
  · simp [h, Returned, Outcome.ofExcept_eq_ok]
  · simp [hk]

/-- Discovery returns: without an address to ask or an answer, it has found no nodes. -/
theorem decides_getDnsNodes (pubsubTopic : String) :
    Decides service (Fine platform) Expected
      (getDnsNodes platform pubsubTopic : Calling (WakuCall A K) (WakuAnswer A) ε _) := by
  unfold getDnsNodes
  split
  · refine (Decides.call fun _ => trivial).bind fun answer => ?_
    split
    · exact Decides.pure _
    · exact Decides.pure _
  · exact Decides.pure _

/-- So do the dials. A peer that is not added or not connected to is a line in the log. -/
theorem decides_connectMultiaddresses (nodes : List A) (protocolId : ProtocolId) :
    Decides service (Fine platform) Expected (connectMultiaddresses nodes protocolId :
      Calling (WakuCall A K) (WakuAnswer A) ε Unit) := by
  refine Decides.forEach fun address _ => ?_
  refine (Decides.call fun _ => trivial).bind fun answer => ?_
  split
  · exact (Decides.call fun _ => trivial).bind fun _ => Decides.pure ()
  · exact Decides.pure ()

/-- A boot node needs each of its four calls, and panics on the subscription. -/
theorem decides_bootNodeHandle {pubsubTopic : String} {host : Option String} {port : UInt64}
    {advertisedAddr : Option A} {nodeKey : Option K} {filter : Option Bool}
    {discv5Enrs : List String} {discv5Port : Option UInt16} {dnsDiscoveryUrls : List String}
    {dnsDiscoveryNameserver : Option String} (hboots : Boots platform) :
    Decides service (Fine platform) Expected (bootNodeHandle platform pubsubTopic host port
      advertisedAddr nodeKey filter discv5Enrs discv5Port dnsDiscoveryUrls
      dnsDiscoveryNameserver) := by
  unfold bootNodeHandle
  refine Decides.bind (decides_callOrErr (fun _ => Iff.rfl) not_false) fun _ => ?_
  refine Decides.bind (decides_callOrErr (fun _ => Iff.rfl) not_false) fun _ => ?_
  refine Decides.bind (decides_expect_callOrErr (fun _ => Iff.rfl) trivial) fun _ => ?_
  -- its id goes into an address, so a boot node cannot do without it
  have hpeerId : ∀ answer : WakuAnswer A,
      Fine platform ((.peerId : WakuCall A K), answer) ↔ Returned answer.peerId :=
    fun _ => ⟨fun h => h hboots, fun h _ => h⟩
  exact Decides.bind (decides_callOrErr hpeerId not_false) fun _ => Decides.pure ()

/-- The line in the log prints an error like an id. -/
theorem decides_logPeerId (hboots : ¬ Boots platform) :
    Decides service (Fine platform) Expected
      (logPeerId platform : Calling (WakuCall A K) (WakuAnswer A) ε Unit) := by
  unfold logPeerId
  split
  · exact (Decides.call fun _ h => absurd h hboots).bind fun _ => Decides.pure ()
  · exact Decides.pure ()

/-- With a port that can be read. -/
theorem decides_setupNodeHandle {bootNodeAddresses : List A} {pubsubTopic : String}
    {host port : Option String} {advertisedAddr : Option A} {nodeKey : Option K}
    {filterProtocol : Option Bool} {discv5Enrs : List String} {discv5Port : Option UInt16}
    {dnsDiscoveryUrls : List String} {dnsDiscoveryNameserver : Option String} {n : UInt64}
    (hport : parseUsize (port.getD "60000") = .ok n) :
    Decides service (Fine platform) Expected (setupNodeHandle platform bootNodeAddresses
      pubsubTopic host port advertisedAddr nodeKey filterProtocol discv5Enrs discv5Port
      dnsDiscoveryUrls dnsDiscoveryNameserver) := by
  unfold setupNodeHandle
  rw [hport]
  refine Decides.bind (Decides.pure n) fun port => ?_
  refine (decides_getDnsNodes pubsubTopic).bind fun dnsNodes => ?_
  dsimp only
  split
  · rename_i hboots
    exact decides_bootNodeHandle hboots
  · rename_i hboots
    refine Decides.bind (decides_callOrErr (fun _ => Iff.rfl) not_false) fun _ => ?_
    refine Decides.bind (decides_callOrErr (fun _ => Iff.rfl) not_false) fun _ => ?_
    refine ((decides_getDnsNodes pubsubTopic).bind fun infos => Decides.pure _).bind fun nodes => ?_
    split
    · exact (decides_connectMultiaddresses nodes .relay).bind fun _ => decides_logPeerId hboots
    · exact (decides_connectMultiaddresses nodes .filter).bind fun _ => decides_logPeerId hboots

/-- A subscription with the peers returns once it has their list, whatever they answer. -/
theorem traces_filterPeerSubscriptions (answer : WakuAnswer A) (pubsubTopic : String)
    (contentTopics : List WakuContentTopic) :
    Traces service (Calls.embed .node WakuAnswer.done
        (filterPeerSubscriptions ⟨answer.peerId, answer.peers⟩ pubsubTopic contentTopics) :
          Calling (WakuCall A K) (WakuAnswer A) WakuHandlingError (List String))
      fun trace o => ((∃ lines, o = .ok lines) ↔ Returned answer.peers) ∧
        ∀ p ∈ trace, ∃ id, p.1 =
          .node (.filterSubscribe (contentFilter pubsubTopic contentTopics) id (some 6000)) := by
  -- the loop is about the node alone; `embed` runs it on the part of the service that is the node
  let Q : List NodeCall → Outcome WakuHandlingError (List String) → Prop := fun ks o =>
    ((∃ lines, o = .ok lines) ↔ Returned answer.peers) ∧ ∀ k ∈ ks, ∃ id,
      k = .filterSubscribe (contentFilter pubsubTopic contentTopics) id (some 6000)
  have hembed : Traces service (Calls.embed .node WakuAnswer.done
      (filterPeerSubscriptions ⟨answer.peerId, answer.peers⟩ pubsubTopic contentTopics) :
        Calling (WakuCall A K) (WakuAnswer A) WakuHandlingError (List String))
      fun trace o => ∃ ks, trace.map Prod.fst = ks.map WakuCall.node ∧ Q ks o := by
    refine Traces.embed fun inner => Traces.of_calls fun made => ?_
    cases hpeers : answer.peers with
    | error e =>
      have hrun : filterPeerSubscriptions ⟨answer.peerId, .error e⟩ pubsubTopic contentTopics inner
          made = (.err (.retrievePeersError e), made) := rfl
      rw [hrun]
      exact ⟨[], (List.append_nil made).symm, by simp [hpeers, Returned], by simp⟩
    | ok peers =>
      obtain ⟨hrequested, hreported⟩ := subscribes_filterPeerSubscriptions inner made pubsubTopic
        contentTopics (show WakuNode.peers ⟨answer.peerId, .ok peers⟩ = .ok peers from rfl)
      refine ⟨_, hrequested, ⟨fun _ => ⟨peers, hpeers⟩, fun _ => ⟨_, hreported⟩⟩, fun k hk => ?_⟩
      obtain ⟨peer, -, rfl⟩ := List.mem_map.mp hk
      exact ⟨some peer.peerId, rfl⟩
  refine hembed.mono ?_
  rintro trace o ⟨ks, hks, hreturned, hcalls⟩
  refine ⟨hreturned, fun p hp => ?_⟩
  obtain ⟨k, hk, hpk⟩ := List.mem_map.mp (hks ▸ List.mem_map_of_mem hp : p.1 ∈ ks.map _)
  obtain ⟨id, rfl⟩ := hcalls k hk
  exact ⟨id, hpk.symm⟩

/-- The subscription panics when the relay refuses it, or there is no list of peers for it. -/
theorem decides_subscribe (pubsubTopic : String) (contentTopics : List WakuContentTopic)
    (filterProtocol : Option Bool) :
    Decides service (Fine platform) Expected
      (subscribe platform pubsubTopic contentTopics filterProtocol) := by
  unfold subscribe
  split
  · exact decides_expect_callOrErr (fun _ => Iff.rfl) trivial
  · refine Decides.orPanic (Traces.call_bind fun answer => Traces.bind ?_)
    refine (traces_filterPeerSubscriptions answer pubsubTopic contentTopics).mono ?_
    rintro trace o ⟨hreturned, hcalls⟩
    -- the requests to single peers may fail, so the list of peers decides
    have hfine : ∀ p ∈ trace, Fine platform p := by
      rintro ⟨k, r⟩ hp
      obtain ⟨id, rfl⟩ := hcalls _ hp
      trivial
    have hpeers : (∀ p ∈ (WakuCall.peers, answer) :: trace, Fine platform p) ↔
        Returned answer.peers := by
      rw [List.forall_mem_cons]
      exact and_iff_left hfine
    have hexpected : ∀ p ∈ ((WakuCall.peers : WakuCall A K), answer) :: trace,
        Fine platform p ∨ Expected p.1 :=
      List.forall_mem_cons.mpr ⟨Or.inr trivial, fun p hp => Or.inl (hfine p hp)⟩
    cases o with
    | ok lines =>
      refine Traces.pure () ?_
      rw [List.append_nil]
      exact ⟨⟨fun _ => hpeers.mpr (hreturned.mp ⟨lines, rfl⟩), fun _ => ⟨(), rfl⟩⟩, hexpected⟩
    | err e =>
      refine ⟨?_, hexpected⟩
      rw [hpeers, ← hreturned]
      simp
    | panic p =>
      refine ⟨?_, hexpected⟩
      rw [hpeers, ← hreturned]
      simp

variable (service) in
/-- The node's part of the start; the callback is registered whatever the answer. -/
theorem decides_nodePart {config : GraphcastAgentConfig} {options : NodeOptions A} {n : UInt64}
    (hport : parseUsize (options.wakuPort.getD "60000") = .ok n) :
    Decides service (Fine platform) Expected (GraphcastAgent.nodePart platform config options) := by
  unfold GraphcastAgent.nodePart
  refine (Decides.mapErr (decides_setupNodeHandle hport)).bind fun _ => ?_
  refine (decides_subscribe _ _ _).bind fun _ => ?_
  exact (Decides.call fun _ => trivial).bind fun _ => Decides.pure ()

/-- A port that cannot be read is an error before any call. -/
theorem nodePart_of_port_error {config : GraphcastAgentConfig} {options : NodeOptions A}
    {text : String} (hport : parseUsize (options.wakuPort.getD "60000") = .error text)
    (made : List (WakuCall A K)) :
    GraphcastAgent.nodePart platform config options service made =
      (.err (.wakuNodeError (.parsePortError text)), made) := by
  unfold GraphcastAgent.nodePart setupNodeHandle
  rw [hport]
  rfl

variable {T W : Type} {u : Text.Unicode} {keys : Keys W} {signer : Signer T W}
  {config : GraphcastAgentConfig} {options : NodeOptions A}

/-- With an identity, the start is `GraphcastAgent.new` on the outcome of the node's part. -/
theorem newOn_of_identity {identity : GraphcastIdentity W}
    (h : GraphcastIdentity.new u keys signer config.walletKey config.graphAccount = .ok identity)
    (made : List (WakuCall A K)) :
    GraphcastAgent.newOn platform u keys signer config options service made =
      (GraphcastAgent.new u keys signer
        (GraphcastAgent.nodePart platform config options service made).1 config,
        (GraphcastAgent.nodePart platform config options service made).2) := by
  unfold GraphcastAgent.newOn GraphcastAgent.new
  rw [h]
  exact Calls.bind_pure_apply _ _ service made

/-- Without an identity no call is made. -/
theorem newOn_of_not_identity {e : ConfigError}
    (h : GraphcastIdentity.new u keys signer config.walletKey config.graphAccount = .err e)
    (made : List (WakuCall A K)) :
    GraphcastAgent.newOn platform u keys signer config options service made =
      (.err (.configValidation e), made) := by
  unfold GraphcastAgent.newOn
  rw [h]
  rfl

/-! ## The calls

Which calls a start makes does not depend on the answers beyond how far it comes, so each function
makes calls of one kind, and the kind of the whole is read off the configuration.
-/

variable (platform) in
/-- The calls that set up a node with this choice of protocol: neither a callback nor a stop. -/
def SetsUp (filterProtocol : Option Bool) (pubsubTopic : String)
    (contentTopics : List WakuContentTopic) : WakuCall A K → Prop
  | .dnsDiscovery _ nameserver timeout => nameserver = some cfNameserver ∧ timeout = none
  | .new config => ∃ c, config = some c ∧ c.relay = filterProtocol.map fun b => !b
  | .start => True
  | .addPeer _ protocolId =>
    ¬ Boots platform ∧ protocolId = if filterProtocol = some false then .relay else .filter
  | .relaySubscribe filter => filter = ⟨some pubsubTopic, []⟩ ∧ Boots platform ∨
    filter = contentFilter pubsubTopic contentTopics ∧ filterProtocol = some false
  | .peerId => Boots platform ∨ platform.logsInfo = true
  | .peers => filterProtocol ≠ some false
  | .node (.connectPeerWithId _ timeout) => ¬ Boots platform ∧ timeout = none
  | .node (.disconnectPeerWithId _) => False
  | .node (.filterSubscribe filter _ timeout) => filterProtocol ≠ some false ∧
    filter = contentFilter pubsubTopic contentTopics ∧ timeout = some 6000
  | .setEventCallback _ => False
  | .stop => False

section Makes

variable {pubsubTopic : String} {contentTopics : List WakuContentTopic}
  {filterProtocol : Option Bool}

theorem makes_callOrErr {β : Type} {P : WakuCall A K → Prop} {k : WakuCall A K}
    {part : WakuAnswer A → Except String β} {f : String → ε} (h : P k) :
    Makes service P (callOrErr k part f) :=
  (Makes.call h).bind fun _ => Makes.lift _

/-- Discovery asks the one name server. -/
theorem makes_getDnsNodes :
    Makes service (SetsUp platform filterProtocol pubsubTopic contentTopics)
      (getDnsNodes platform pubsubTopic : Calling (WakuCall A K) (WakuAnswer A) ε _) := by
  unfold getDnsNodes
  split
  · refine (Makes.call ⟨rfl, rfl⟩).bind fun answer => ?_
    split
    · exact Makes.pure _
    · exact Makes.pure _
  · exact Makes.pure _

/-- A dial is for the protocol that the loop is given. -/
theorem makes_connectMultiaddresses (nodes : List A) {protocolId : ProtocolId}
    (hboots : ¬ Boots platform)
    (hprotocol : protocolId = if filterProtocol = some false then .relay else .filter) :
    Makes service (SetsUp platform filterProtocol pubsubTopic contentTopics)
      (connectMultiaddresses nodes protocolId : Calling (WakuCall A K) (WakuAnswer A) ε Unit) := by
  refine Makes.forEach fun address _ => ?_
  refine (Makes.call ⟨hboots, hprotocol⟩).bind fun answer => ?_
  split
  · exact (Makes.call ⟨hboots, rfl⟩).bind fun _ => Makes.pure ()
  · exact Makes.pure ()

/-- A boot node subscribes to the whole topic, whatever its protocol. -/
theorem makes_bootNodeHandle {host : Option String} {port : UInt64} {advertisedAddr : Option A}
    {nodeKey : Option K} {discv5Enrs : List String} {discv5Port : Option UInt16}
    {dnsDiscoveryUrls : List String} {dnsDiscoveryNameserver : Option String}
    (hboots : Boots platform) :
    Makes service (SetsUp platform filterProtocol pubsubTopic contentTopics)
      (bootNodeHandle platform pubsubTopic host port advertisedAddr nodeKey filterProtocol
        discv5Enrs discv5Port dnsDiscoveryUrls dnsDiscoveryNameserver) := by
  unfold bootNodeHandle
  refine Makes.bind (makes_callOrErr ⟨_, rfl, rfl⟩) fun _ => ?_
  refine Makes.bind (makes_callOrErr trivial) fun _ => ?_
  refine Makes.bind (Makes.orPanic (makes_callOrErr (Or.inl ⟨rfl, hboots⟩))) fun _ => ?_
  exact Makes.bind (makes_callOrErr (Or.inl hboots)) fun _ => Makes.pure ()

theorem makes_logPeerId {P : WakuCall A K → Prop} (h : platform.logsInfo = true → P .peerId) :
    Makes service P (logPeerId platform : Calling (WakuCall A K) (WakuAnswer A) ε Unit) := by
  unfold logPeerId
  split
  · rename_i hlogs
    exact (Makes.call (h hlogs)).bind fun _ => Makes.pure ()
  · exact Makes.pure ()

variable (contentTopics) in
/-- Both kinds of node are made for the one choice of protocol. -/
theorem makes_setupNodeHandle {bootNodeAddresses : List A} {host port : Option String}
    {advertisedAddr : Option A} {nodeKey : Option K} {discv5Enrs : List String}
    {discv5Port : Option UInt16} {dnsDiscoveryUrls : List String}
    {dnsDiscoveryNameserver : Option String} :
    Makes service (SetsUp platform filterProtocol pubsubTopic contentTopics)
      (setupNodeHandle platform bootNodeAddresses pubsubTopic host port advertisedAddr nodeKey
        filterProtocol discv5Enrs discv5Port dnsDiscoveryUrls dnsDiscoveryNameserver) := by
  unfold setupNodeHandle
  refine (Makes.lift _).bind fun port => makes_getDnsNodes.bind fun dnsNodes => ?_
  dsimp only
  split
  · rename_i hboots
    exact makes_bootNodeHandle hboots
  · rename_i hboots
    refine Makes.bind (makes_callOrErr ⟨_, rfl, rfl⟩) fun _ => ?_
    refine Makes.bind (makes_callOrErr trivial) fun _ => ?_
    refine (makes_getDnsNodes.bind fun infos => Makes.pure _).bind fun nodes => ?_
    split
    · rename_i hfilter
      exact (makes_connectMultiaddresses nodes hboots (if_pos hfilter).symm).bind fun _ =>
        makes_logPeerId Or.inr
    · rename_i hfilter
      exact (makes_connectMultiaddresses nodes hboots (if_neg hfilter).symm).bind fun _ =>
        makes_logPeerId Or.inr

/-- A subscription that fails panics. -/
theorem makes_subscribe {P : WakuCall A K → Prop}
    (hrelay : filterProtocol = some false →
      P (.relaySubscribe (contentFilter pubsubTopic contentTopics)))
    (hpeers : filterProtocol ≠ some false → P .peers)
    (hfilter : filterProtocol ≠ some false → ∀ id,
      P (.node (.filterSubscribe (contentFilter pubsubTopic contentTopics) id (some 6000)))) :
    Traces service (subscribe platform pubsubTopic contentTopics filterProtocol) fun trace o =>
      (∀ p ∈ trace, P p.1) ∧ ∀ e, o ≠ .err e := by
  unfold subscribe
  split
  · rename_i h
    exact Makes.expect (makes_callOrErr (hrelay h))
  · rename_i h
    refine Makes.expect (Makes.bind (Makes.call (hpeers h)) fun answer => ?_)
    refine Makes.bind ?_ fun _ => Makes.pure ()
    refine (traces_filterPeerSubscriptions answer pubsubTopic contentTopics).mono ?_
    rintro trace o ⟨-, hcalls⟩ p hp
    obtain ⟨id, hid⟩ := hcalls p hp
    rw [hid]
    exact hfilter h id

end Makes

/-- What a start registers. -/
def registered {α : Type} (o : Outcome ε α) : List (WakuCall A K) :=
  if o.isOk then [.setEventCallback .handleSignal] else []

/-- The callback is registered last, and only when nothing before it failed. -/
theorem traces_nodePart (platform : Platform A K)
    (service : Service (WakuCall A K) (WakuAnswer A)) (config : GraphcastAgentConfig)
    (options : NodeOptions A) :
    Traces service (GraphcastAgent.nodePart platform config options) fun trace o =>
      (∀ e, o = .err e → ∃ e', e = .wakuNodeError e') ∧
      ∃ calls, trace.map Prod.fst = calls ++ registered o ∧ ∀ k ∈ calls,
        SetsUp platform options.filterProtocol (pubsubTopic config.graphcastNamespace)
          (buildContentTopics config.radioName "0" config.subtopics) k := by
  have hsets : ∀ {trace : List (WakuCall A K × WakuAnswer A)} {P : WakuCall A K → Prop},
      (∀ p ∈ trace, P p.1) → ∀ k ∈ trace.map Prod.fst, P k := by
    intro trace P h k hk
    obtain ⟨p, hp, rfl⟩ := List.mem_map.mp hk
    exact h p hp
  unfold GraphcastAgent.nodePart
  refine Traces.bind (Traces.mapErr (Traces.mono (makes_setupNodeHandle
    (buildContentTopics config.radioName "0" config.subtopics)) fun trace o h => ?_))
  -- nothing is registered unless the node is set up, and no error comes after that
  cases o with
  | err e =>
    refine ⟨fun e' he => ⟨e, (Outcome.err.inj he).symm⟩, _, (List.append_nil _).symm, hsets h⟩
  | panic p => exact ⟨fun e he => absurd he (by simp), _, (List.append_nil _).symm, hsets h⟩
  | ok _ =>
    have hsubscribe := @makes_subscribe A K platform service
      (pubsubTopic config.graphcastNamespace)
      (buildContentTopics config.radioName "0" config.subtopics) options.filterProtocol
      (SetsUp platform options.filterProtocol (pubsubTopic config.graphcastNamespace)
        (buildContentTopics config.radioName "0" config.subtopics))
      (fun hfilter => Or.inr ⟨rfl, hfilter⟩) id fun hfilter _ => ⟨hfilter, rfl, rfl⟩
    refine Traces.bind (hsubscribe.mono fun trace' o' h' => ?_)
    have hboth := hsets (List.forall_mem_append.mpr ⟨h, h'.1⟩)
    cases o' with
    | err e => exact absurd rfl (h'.2 e)
    | panic p => exact ⟨fun e he => absurd he (by simp), _, (List.append_nil _).symm, hboth⟩
    | ok _ =>
      refine Traces.call_bind fun answer => Traces.pure () ?_
      refine ⟨fun e he => absurd he (by simp), _, ?_, hboth⟩
      rw [← List.append_assoc, List.map_append]
      rfl

/-! ## The addresses dialled

There are two discoveries: `setup_node_handle` takes the records of the first for `discv5`, and
`gather_nodes` the addresses of the second for the dials. They need not find the same nodes.
-/

section Dials

/-- The address that a call dials. -/
def dialedAddress : WakuCall A K × WakuAnswer A → Option A
  | (.addPeer address _, _) => some address
  | _ => none

/-- The peer that came of it. -/
def addedPeer : WakuCall A K × WakuAnswer A → Option String
  | (.addPeer _ _, answer) => answer.peerId.toOption
  | _ => none

/-- The peer that a call connects to. -/
def connectedPeer : WakuCall A K × WakuAnswer A → Option String
  | (.node (.connectPeerWithId peerId _), _) => some peerId
  | _ => none

/-- What a discovery found: nothing where it failed. -/
def discoveredNodes : WakuCall A K × WakuAnswer A → Option (List (DnsInfo A))
  | (.dnsDiscovery _ _ _, answer) => some (answer.dnsInfos.toOption.getD [])
  | _ => none

/-- What the last discovery of a trace found. -/
def lastDiscovered (trace : List (WakuCall A K × WakuAnswer A)) : List (DnsInfo A) :=
  (trace.filterMap discoveredNodes).getLast?.getD []

/-- The dials of a trace go to these addresses in order, and its connections to the peers that came
of them. -/
structure Dials (trace : List (WakuCall A K × WakuAnswer A)) (addresses : List A) : Prop where
  dialed : trace.filterMap dialedAddress = addresses
  connected : trace.filterMap connectedPeer = trace.filterMap addedPeer

/-- No calls, no dials. -/
theorem Dials.nil : Dials ([] : List (WakuCall A K × WakuAnswer A)) [] := ⟨rfl, rfl⟩

/-- One after the other, the addresses of both are dialled. -/
theorem Dials.append {trace trace' : List (WakuCall A K × WakuAnswer A)}
    {addresses addresses' : List A} (h : Dials trace addresses) (h' : Dials trace' addresses') :
    Dials (trace ++ trace') (addresses ++ addresses') := by
  refine ⟨?_, ?_⟩
  · rw [List.filterMap_append, h.dialed, h'.dialed]
  · rw [List.filterMap_append, List.filterMap_append, h.connected, h'.connected]

/-- What the later trace found counts, when it asked at all. -/
theorem lastDiscovered_append {trace trace' : List (WakuCall A K × WakuAnswer A)}
    (h : trace'.filterMap discoveredNodes = [] → trace.filterMap discoveredNodes = []) :
    lastDiscovered (trace ++ trace') = lastDiscovered trace' := by
  unfold lastDiscovered
  rw [List.filterMap_append]
  by_cases hnil : trace'.filterMap discoveredNodes = []
  · rw [h hnil, List.nil_append]
  · rw [List.getLast?_append_of_ne_nil _ hnil]

/-- A call that neither dials nor discovers. -/
def Quiet (k : WakuCall A K) : Prop :=
  ∀ answer, dialedAddress (k, answer) = none ∧ addedPeer (k, answer) = none ∧
    connectedPeer (k, answer) = none ∧ discoveredNodes (k, answer) = none

/-- Quiet calls change neither the dials nor what was found. -/
theorem dials_of_quiet {trace : List (WakuCall A K × WakuAnswer A)}
    (h : ∀ p ∈ trace, Quiet p.1) : Dials trace [] ∧ trace.filterMap discoveredNodes = [] := by
  refine ⟨⟨?_, ?_⟩, ?_⟩
  · exact List.filterMap_eq_nil_iff.mpr fun p hp => (h p hp p.2).1
  · rw [List.filterMap_eq_nil_iff.mpr fun p hp => (h p hp p.2).2.2.1,
      List.filterMap_eq_nil_iff.mpr fun p hp => (h p hp p.2).2.1]
  · exact List.filterMap_eq_nil_iff.mpr fun p hp => (h p hp p.2).2.2.2

variable {pubsubTopic : String}

/-- Discovery dials nobody, and asks iff there is an address to ask. -/
theorem traces_getDnsNodes :
    Traces service (getDnsNodes platform pubsubTopic : Calling (WakuCall A K) (WakuAnswer A) ε _)
      fun trace o => o = .ok (lastDiscovered trace) ∧ Dials trace [] ∧
        (trace.filterMap discoveredNodes = [] ↔
          ∀ url, discoveryUrl platform pubsubTopic ≠ .ok url) := by
  unfold getDnsNodes
  split
  · rename_i url hurl
    refine Traces.call_bind fun answer => ?_
    have hfound : ¬ ∀ url', discoveryUrl platform pubsubTopic ≠ .ok url' := fun h => h url hurl
    split
    · rename_i infos hinfos
      refine Traces.pure infos ⟨?_, ⟨rfl, rfl⟩, iff_of_false (by simp [discoveredNodes]) hfound⟩
      simp [lastDiscovered, discoveredNodes, hinfos, Except.toOption]
    · rename_i e hinfos
      refine Traces.pure [] ⟨?_, ⟨rfl, rfl⟩, iff_of_false (by simp [discoveredNodes]) hfound⟩
      simp [lastDiscovered, discoveredNodes, hinfos, Except.toOption]
  · rename_i e hurl
    exact Traces.pure [] ⟨rfl, Dials.nil, iff_of_true rfl fun url h => by simp [hurl] at h⟩

/-- Every address is dialled once, whatever the dials before it come to. -/
theorem traces_connectMultiaddresses (nodes : List A) (protocolId : ProtocolId) :
    Traces service (connectMultiaddresses nodes protocolId :
      Calling (WakuCall A K) (WakuAnswer A) ε Unit) fun trace o =>
        o = .ok () ∧ Dials trace nodes ∧ trace.filterMap discoveredNodes = [] := by
  refine Traces.forEach (R := fun nodes trace => Dials trace nodes ∧
    trace.filterMap discoveredNodes = []) ⟨Dials.nil, rfl⟩ (fun address addresses => ?_) nodes
  have happend : ∀ {trace : List (WakuCall A K × WakuAnswer A)}, Dials trace [address] →
      trace.filterMap discoveredNodes = [] → ∀ trace', Dials trace' addresses ∧
        trace'.filterMap discoveredNodes = [] → Dials (trace ++ trace') (address :: addresses) ∧
          (trace ++ trace').filterMap discoveredNodes = [] := by
    intro trace hdials hnone trace' h
    refine ⟨hdials.append h.1, ?_⟩
    rw [List.filterMap_append, hnone, h.2, List.append_nil]
  refine Traces.call_bind fun answer => ?_
  split
  · -- the peer that came of the dial is the one connected to
    rename_i peerId hpeer
    refine Traces.call_bind fun _ => Traces.pure () ⟨rfl, happend ⟨rfl, ?_⟩ rfl⟩
    simp [List.filterMap_cons, connectedPeer, addedPeer, hpeer, Except.toOption]
  · rename_i e hpeer
    refine Traces.pure () ⟨rfl, happend ⟨rfl, ?_⟩ rfl⟩
    simp [List.filterMap_cons, connectedPeer, addedPeer, hpeer, Except.toOption]

/-- The static nodes, then those found. -/
theorem traces_gatherNodes (bootNodeAddresses : List A) :
    Traces service (gatherNodes platform bootNodeAddresses pubsubTopic :
        Calling (WakuCall A K) (WakuAnswer A) ε (List A)) fun trace o =>
      o = .ok (bootNodeAddresses ++
          (lastDiscovered trace).filterMap (getMultiaddress platform)) ∧
        Dials trace [] ∧ (trace.filterMap discoveredNodes = [] ↔
          ∀ url, discoveryUrl platform pubsubTopic ≠ .ok url) := by
  refine Traces.bind (traces_getDnsNodes.mono fun trace o h => ?_)
  obtain ⟨rfl, h⟩ := h
  refine Traces.pure _ ?_
  rw [List.append_nil]
  exact ⟨rfl, h⟩

/-- Calls that dial nothing; they discover something only where there is an address to ask. -/
def Silent (platform : Platform A K) (pubsubTopic : String)
    (trace : List (WakuCall A K × WakuAnswer A)) : Prop :=
  Dials trace [] ∧ ((∀ url, discoveryUrl platform pubsubTopic ≠ .ok url) →
    trace.filterMap discoveredNodes = [])

theorem silent_callOrErr {β : Type} {k : WakuCall A K} {part : WakuAnswer A → Except String β}
    {f : String → ε} (h : Quiet k) :
    Traces service (callOrErr k part f) fun trace _ => Silent platform pubsubTopic trace :=
  Traces.mono (makes_callOrErr h) fun _ _ hall =>
    ⟨(dials_of_quiet hall).1, fun _ => (dials_of_quiet hall).2⟩

/-- What a node that is no boot node dials: all its addresses, once it has them. -/
def DialsAll {α : Type} (platform : Platform A K) (pubsubTopic : String)
    (bootNodeAddresses : List A) (trace : List (WakuCall A K × WakuAnswer A)) (o : Outcome ε α) :
    Prop :=
  ∃ addresses, Dials trace addresses ∧ ((∃ a, o = .ok a) →
    addresses = bootNodeAddresses ++
        (lastDiscovered trace).filterMap (getMultiaddress platform) ∧
      (trace.filterMap discoveredNodes = [] → ∀ url, discoveryUrl platform pubsubTopic ≠ .ok url))

variable {bootNodeAddresses : List A}

/-- Silent calls before the dials change nothing. -/
theorem dialsAll_bind {α β : Type} {x : Calling (WakuCall A K) (WakuAnswer A) ε α}
    {f : α → Calling (WakuCall A K) (WakuAnswer A) ε β}
    (hx : Traces service x fun trace _ => Silent platform pubsubTopic trace)
    (hf : ∀ a, Traces service (f a) (DialsAll platform pubsubTopic bootNodeAddresses)) :
    Traces service (x >>= f) (DialsAll platform pubsubTopic bootNodeAddresses) := by
  refine Traces.bind (hx.mono fun trace o hsilent => ?_)
  cases o with
  | err e => exact ⟨[], hsilent.1, fun ⟨a, ha⟩ => absurd ha (by simp)⟩
  | panic p => exact ⟨[], hsilent.1, fun ⟨a, ha⟩ => absurd ha (by simp)⟩
  | ok a =>
    refine (hf a).mono fun trace' o' h => ?_
    obtain ⟨addresses, hdials, haddresses⟩ := h
    refine ⟨addresses, hsilent.1.append hdials, fun hok => ?_⟩
    obtain ⟨rfl, hurl⟩ := haddresses hok
    rw [lastDiscovered_append fun hnil => hsilent.2 (hurl hnil), List.filterMap_append]
    exact ⟨rfl, fun hnil => hurl (List.append_eq_nil_iff.mp hnil).2⟩

/-- Nor do quiet calls after them. -/
theorem dialsAll_bind_quiet {α β : Type} {x : Calling (WakuCall A K) (WakuAnswer A) ε α}
    {f : α → Calling (WakuCall A K) (WakuAnswer A) ε β}
    (hx : Traces service x (DialsAll platform pubsubTopic bootNodeAddresses))
    (hf : ∀ a, Makes service Quiet (f a)) :
    Traces service (x >>= f) (DialsAll platform pubsubTopic bootNodeAddresses) := by
  refine Traces.bind (hx.mono fun trace o h => ?_)
  obtain ⟨addresses, hdials, haddresses⟩ := h
  cases o with
  | err e => exact ⟨addresses, hdials, fun ⟨a, ha⟩ => absurd ha (by simp)⟩
  | panic p => exact ⟨addresses, hdials, fun ⟨a, ha⟩ => absurd ha (by simp)⟩
  | ok a =>
    refine Traces.mono (hf a) fun trace' o' hquiet => ?_
    obtain ⟨hdials', hfound'⟩ := dials_of_quiet hquiet
    refine ⟨addresses, ?_, fun _ => ?_⟩
    · rw [← List.append_nil addresses]
      exact hdials.append hdials'
    · unfold lastDiscovered
      rw [List.filterMap_append, hfound', List.append_nil]
      exact haddresses ⟨a, rfl⟩

/-- Up to the dials the set-up is silent, and after them there is at most a line in the log. -/
theorem traces_setupNodeHandle {host port : Option String}
    {advertisedAddr : Option A} {nodeKey : Option K} {filterProtocol : Option Bool}
    {discv5Enrs : List String} {discv5Port : Option UInt16} {dnsDiscoveryUrls : List String}
    {dnsDiscoveryNameserver : Option String} (hboots : ¬ Boots platform) :
    Traces service (setupNodeHandle platform bootNodeAddresses pubsubTopic host port advertisedAddr
      nodeKey filterProtocol discv5Enrs discv5Port dnsDiscoveryUrls dnsDiscoveryNameserver)
      (DialsAll platform pubsubTopic bootNodeAddresses) := by
  unfold Boots at hboots
  have hfound : Traces service (getDnsNodes platform pubsubTopic :
      Calling (WakuCall A K) (WakuAnswer A) WakuHandlingError _)
      fun trace _ => Silent platform pubsubTopic trace :=
    traces_getDnsNodes.mono fun trace _ h => ⟨h.2.1, h.2.2.mpr⟩
  have hlog : Makes service Quiet (logPeerId platform :
      Calling (WakuCall A K) (WakuAnswer A) WakuHandlingError Unit) :=
    makes_logPeerId fun _ _ => ⟨rfl, rfl, rfl, rfl⟩
  have hconnect : ∀ protocolId, Traces service (gatherNodes platform bootNodeAddresses pubsubTopic
      >>= fun nodes => (connectMultiaddresses nodes protocolId >>= fun _ => logPeerId platform :
        Calling (WakuCall A K) (WakuAnswer A) WakuHandlingError Unit))
      (DialsAll platform pubsubTopic bootNodeAddresses) := by
    intro protocolId
    rw [← Calls.bind_assoc]
    refine dialsAll_bind_quiet (Traces.bind ?_) fun _ => hlog
    refine (traces_gatherNodes bootNodeAddresses).mono fun trace o h => ?_
    obtain ⟨rfl, hdials, hurl⟩ := h
    refine (traces_connectMultiaddresses _ protocolId).mono fun trace' o' h' => ?_
    obtain ⟨-, hdials', hfound'⟩ := h'
    refine ⟨_, hdials.append hdials', fun _ => ?_⟩
    unfold lastDiscovered
    rw [List.filterMap_append, hfound', List.append_nil]
    exact ⟨rfl, hurl.mp⟩
  unfold setupNodeHandle
  refine dialsAll_bind (Traces.lift _ ⟨Dials.nil, fun _ => rfl⟩) fun port => ?_
  refine dialsAll_bind hfound fun dnsNodes => ?_
  dsimp only
  rw [if_neg hboots]
  refine dialsAll_bind (silent_callOrErr fun _ => ⟨rfl, rfl, rfl, rfl⟩) fun _ => ?_
  refine dialsAll_bind (silent_callOrErr fun _ => ⟨rfl, rfl, rfl, rfl⟩) fun _ => ?_
  by_cases hfilter : filterProtocol = some false
  · simp only [if_pos hfilter]
    exact hconnect .relay
  · simp only [if_neg hfilter]
    exact hconnect .filter

variable (service config options) in
/-- The subscription and the callback come after the dials, and are quiet. -/
theorem traces_nodePart_dials (hboots : ¬ Boots platform) :
    Traces service (GraphcastAgent.nodePart platform config options)
      (DialsAll platform (GraphcastSdk.pubsubTopic config.graphcastNamespace)
        options.bootNodeAddresses) := by
  have hsubscribe : Makes service Quiet (subscribe platform
      (GraphcastSdk.pubsubTopic config.graphcastNamespace)
      (buildContentTopics config.radioName "0" config.subtopics) options.filterProtocol) :=
    Traces.mono (makes_subscribe (P := Quiet) (fun _ _ => ⟨rfl, rfl, rfl, rfl⟩)
      (fun _ _ => ⟨rfl, rfl, rfl, rfl⟩) fun _ _ _ => ⟨rfl, rfl, rfl, rfl⟩) fun _ _ h => h.1
  have hregister : Makes service Quiet (registerHandler :
      Calling (WakuCall A K) (WakuAnswer A) GraphcastAgentError Unit) :=
    (Makes.call fun _ => ⟨rfl, rfl, rfl, rfl⟩).bind fun _ => Makes.pure ()
  unfold GraphcastAgent.nodePart
  refine dialsAll_bind_quiet (Traces.mapErr ?_) fun _ => hsubscribe.bind fun _ => hregister
  refine (traces_setupNodeHandle hboots).mono fun trace o h => ?_
  obtain ⟨addresses, hdials, haddresses⟩ := h
  refine ⟨addresses, hdials, fun ⟨a, ha⟩ => haddresses ⟨a, ?_⟩⟩
  exact Outcome.mapErr_eq_ok.mp ha

/-- A boot node dials nobody. -/
theorem dials_of_boots {trace : List (WakuCall A K × WakuAnswer A)} {calls : List (WakuCall A K)}
    {filterProtocol : Option Bool} {contentTopics : List WakuContentTopic} {α : Type}
    {o : Outcome ε α} (hboots : Boots platform)
    (hcalls : trace.map Prod.fst = calls ++ registered o)
    (hall : ∀ k ∈ calls, SetsUp platform filterProtocol pubsubTopic contentTopics k) :
    Dials trace [] := by
  have hno : ∀ p ∈ trace, dialedAddress p = none ∧ addedPeer p = none ∧ connectedPeer p = none := by
    rintro ⟨k, answer⟩ hp
    have hk : k ∈ calls ++ registered o := hcalls ▸ List.mem_map_of_mem hp
    -- the callback is no call of `SetsUp`, and it dials nobody
    have hk : k ∈ calls ∨ k = .setEventCallback .handleSignal := by
      refine (List.mem_append.mp hk).imp_right fun hreg => ?_
      unfold registered at hreg
      split at hreg
      · exact List.mem_singleton.mp hreg
      · exact absurd hreg (by simp)
    cases k with
    | addPeer address protocolId =>
      exact absurd hboots (hall _ (hk.resolve_right (by simp))).1
    | node call =>
      cases call with
      | connectPeerWithId peerId timeout =>
        exact absurd hboots (hall _ (hk.resolve_right (by simp))).1
      | disconnectPeerWithId peerId => exact ⟨rfl, rfl, rfl⟩
      | filterSubscribe filter peerId timeout => exact ⟨rfl, rfl, rfl⟩
    | _ => exact ⟨rfl, rfl, rfl⟩
  refine ⟨List.filterMap_eq_nil_iff.mpr fun p hp => (hno p hp).1, ?_⟩
  rw [List.filterMap_eq_nil_iff.mpr fun p hp => (hno p hp).2.2,
    List.filterMap_eq_nil_iff.mpr fun p hp => (hno p hp).2.1]

end Dials

/-! ## The results -/

/-- With an identity, the rest of the start is the node's. -/
theorem new_of_identity {identity : GraphcastIdentity W}
    (h : GraphcastIdentity.new u keys signer config.walletKey config.graphAccount = .ok identity)
    (waku : Outcome GraphcastAgentError Unit) :
    (GraphcastAgent.new u keys signer waku config).isOk = waku.isOk ∧
      (GraphcastAgent.new u keys signer waku config).isPanic = waku.isPanic ∧
      (∀ e, GraphcastAgent.new u keys signer waku config = .err e ↔ waku = .err e) := by
  unfold GraphcastAgent.new
  rw [h]
  cases waku with
  | ok a => exact ⟨rfl, rfl, fun e => by simp [Outcome.mapErr]⟩
  | err e => exact ⟨rfl, rfl, fun e' => by simp [Outcome.mapErr]⟩
  | panic p => exact ⟨rfl, rfl, fun e => by simp [Outcome.mapErr]⟩

/-- The identity needs the wallet and nothing else. -/
theorem identity_of_wallet {wallet : W} (h : buildWallet keys config.walletKey = .ok wallet)
    (u : Text.Unicode) (signer : Signer T W) : ∃ identity, GraphcastIdentity.new u keys signer
      config.walletKey config.graphAccount = .ok identity :=
  ⟨_, GraphcastIdentity.new_eq_ok.mpr ⟨wallet, h, rfl⟩⟩

theorem identity_of_wallet_error {e : WalletError}
    (h : buildWallet keys config.walletKey = .error e) (u : Text.Unicode) (signer : Signer T W) :
    ∃ e', GraphcastIdentity.new u keys signer config.walletKey config.graphAccount = .err e' := by
  unfold GraphcastIdentity.new configuredWallet
  rw [h]
  exact ⟨_, rfl⟩

/-- **What decides a start**: the wallet, the port, and that no call fails that it cannot do
without. It panics, and does not return an error, when the call that failed is one of
`Expected`. -/
theorem newOn_decides (platform : Platform A K) (u : Text.Unicode) (keys : Keys W)
    (signer : Signer T W) (config : GraphcastAgentConfig) (options : NodeOptions A)
    (service : Service (WakuCall A K) (WakuAnswer A)) :
    ∃ trace, (GraphcastAgent.newOn platform u keys signer config options service []).2 =
        trace.map Prod.fst ∧
      Calls.Answered service [] trace ∧
      (GraphcastAgent.newOn platform u keys signer config options service []).1 =
        GraphcastAgent.new u keys signer
          (GraphcastAgent.nodePart platform config options service []).1 config ∧
      ((∃ agent, (GraphcastAgent.newOn platform u keys signer config options service []).1 =
          .ok agent) ↔
        (∃ wallet, buildWallet keys config.walletKey = .ok wallet) ∧
        (∃ port, parseUsize (options.wakuPort.getD "60000") = .ok port) ∧
        ∀ p ∈ trace, Fine platform p) ∧
      ((GraphcastAgent.newOn platform u keys signer config options service []).1.isPanic = true ↔
        ∃ p ∈ trace, ¬ Fine platform p ∧ Expected p.1) := by
  cases hwallet : buildWallet keys config.walletKey with
  | error e =>
    -- no call is made, so none fails
    obtain ⟨e', hidentity⟩ := identity_of_wallet_error hwallet u signer
    have hnew : ∀ waku, GraphcastAgent.new u keys signer waku config =
        .err (.configValidation e') := by
      intro waku
      unfold GraphcastAgent.new
      rw [hidentity]
      rfl
    rw [newOn_of_not_identity hidentity, hnew]
    exact ⟨[], rfl, trivial, rfl, by simp, by simp⟩
  | ok wallet =>
    obtain ⟨identity, hidentity⟩ := identity_of_wallet hwallet u signer
    rw [newOn_of_identity hidentity]
    obtain ⟨hok, hpanic, -⟩ := new_of_identity hidentity
      (GraphcastAgent.nodePart platform config options service []).1
    dsimp only
    rw [← Outcome.isOk_iff, hok, Outcome.isOk_iff, hpanic]
    cases hport : parseUsize (options.wakuPort.getD "60000") with
    | error text =>
      rw [nodePart_of_port_error hport]
      exact ⟨[], rfl, trivial, rfl, by simp, by simp⟩
    | ok port =>
      obtain ⟨trace, hmade, hans, hd⟩ := decides_nodePart service hport []
      exact ⟨trace, hmade, hans, rfl, hd.1.trans (by simp), hd.2⟩

/-- A configuration that was validated has a wallet. -/
theorem GraphcastAgentConfig.new_eq_ok {web : Subgraphs} {F : Type} [F32 F] {node : GraphNode}
    {given : GraphcastAgentConfig} {givenOptions : NodeOptions A}
    {bootNodeAddresses subtopics discv5Enrs : Option (List String)}
    (h : GraphcastAgentConfig.new platform keys signer web F node given givenOptions
      bootNodeAddresses subtopics discv5Enrs = .ok (config, options)) :
    (∃ wallet, buildWallet keys config.walletKey = .ok wallet) ∧
      config = { given with subtopics := subtopics.getD [] } ∧
      options.filterProtocol = some (givenOptions.filterProtocol.getD false) := by
  unfold GraphcastAgentConfig.new at h
  obtain ⟨addresses, -, h⟩ := Outcome.bind_eq_ok.mp h
  dsimp only at h
  split at h
  · rename_i hvalid
    obtain ⟨rfl, rfl⟩ := Prod.mk.inj (Outcome.ok.inj h)
    unfold GraphcastAgentConfig.validateSetUp at hvalid
    obtain ⟨wallet, hwallet, -⟩ := Outcome.bind_eq_ok.mp hvalid
    exact ⟨⟨wallet, Outcome.ofExcept_eq_ok.mp hwallet⟩, rfl, rfl⟩
  · exact absurd h (by simp)
  · exact absurd h (by simp)

/-- **The calls of a start**, for an agent whose configuration `GraphcastAgentConfig::new` made:
they follow its one choice of protocol, the callback comes last and on success alone, and nothing
stops the node. -/
theorem newOn_coherent {web : Subgraphs} {F : Type} [F32 F] {node : GraphNode}
    {given : GraphcastAgentConfig} {givenOptions : NodeOptions A}
    {bootNodeAddresses subtopics discv5Enrs : Option (List String)}
    (h : GraphcastAgentConfig.new platform keys signer web F node given givenOptions
      bootNodeAddresses subtopics discv5Enrs = .ok (config, options))
    (service : Service (WakuCall A K) (WakuAnswer A)) :
    (∀ e, (GraphcastAgent.newOn platform u keys signer config options service []).1 = .err e →
      ∃ e', e = .wakuNodeError e') ∧
    ∃ calls, (GraphcastAgent.newOn platform u keys signer config options service []).2 =
        calls ++ registered
          (GraphcastAgent.newOn platform u keys signer config options service []).1 ∧
      ∀ k ∈ calls, SetsUp platform (some (givenOptions.filterProtocol.getD false))
        (pubsubTopic given.graphcastNamespace)
        (buildContentTopics given.radioName "0" (subtopics.getD [])) k := by
  obtain ⟨⟨wallet, hwallet⟩, hconfig, hfilter⟩ := GraphcastAgentConfig.new_eq_ok h
  obtain ⟨identity, hidentity⟩ := identity_of_wallet hwallet u signer
  rw [newOn_of_identity hidentity]
  obtain ⟨trace, hmade, -, herr, calls, hcalls, hall⟩ :=
    traces_nodePart platform service config options []
  rw [hfilter, hconfig] at hall
  obtain ⟨hok, -, herror⟩ := new_of_identity hidentity
    (GraphcastAgent.nodePart platform config options service []).1
  refine ⟨fun e he => herr e ((herror e).mp he), calls, ?_, hall⟩
  unfold registered at hcalls ⊢
  rw [hok, ← hcalls]
  exact hmade

/-- A platform that takes any text for an address. -/
def docPlatform : Platform String Unit where
  var _ := none
  logsInfo := true
  toUppercase := id
  multiaddr := .ok
  displayMultiaddr := id
  secretKey _ := .error "InvalidSecretKey"
  ipAddr := .ok
  url := .ok
  debug _ := "CreateNodeError"

/-- The documented options, with the filter protocol left out. -/
def docOptions : NodeOptions String where
  bootNodeAddresses := []
  wakuNodeKey := some "waku_node_key_can_be_same_as_private1231231231231231231231231230"
  wakuHost := some "0.0.0.0"
  wakuPort := some "60000"
  wakuAddr := some localPeer.peerId
  filterProtocol := none
  discv5Enrs := []
  discv5Port := some 60000
  dnsDiscoveryUrls := []
  dnsDiscoveryNameserver := none

/-- A graph node without deployments. -/
def emptyGraphNode : GraphNode where
  blockHashFromNumber _ _ := .ok ⟨some ⟨none⟩, none⟩
  indexingStatuses _ := .ok ⟨some ⟨[]⟩, none⟩

/-- A node that adds every peer and connects to none. -/
def addsPeers : Service (WakuCall String Unit) (WakuAnswer String)
  | _, .node _ => ⟨.error "failed to dial", .ok localPeer.peerId, .ok [], .ok []⟩
  | _, _ => ⟨.ok (), .ok localPeer.peerId, .ok [], .ok []⟩

/-- The documented agent relays by default. -/
theorem newOn_coherent_doc : ∃ config options,
    GraphcastAgentConfig.new docPlatform docKeys docSigner goerliSubgraphs Unit emptyGraphNode
        (docConfig "0xfd3082ac044a8093a40051382bc4607e3e41da56" .noCheck) docOptions
        (some [bootNode]) (some ["some_subgraph_hash"]) none = .ok (config, options) ∧
      ∃ calls, (GraphcastAgent.newOn docPlatform asciiTables docKeys docSigner config options
          addsPeers []).2 = calls ++ registered (GraphcastAgent.newOn docPlatform asciiTables
            docKeys docSigner config options addsPeers []).1 ∧
        ∀ k ∈ calls, SetsUp docPlatform (some false)
          "/waku/2/graphcast-v0-test_namespace_in_pubsub_topic/proto"
          (buildContentTopics "test_radio" "0" ["some_subgraph_hash"]) k := by
  have h : ∃ config options, GraphcastAgentConfig.new docPlatform docKeys docSigner
      goerliSubgraphs Unit emptyGraphNode
      (docConfig "0xfd3082ac044a8093a40051382bc4607e3e41da56" .noCheck) docOptions
      (some [bootNode]) (some ["some_subgraph_hash"]) none = .ok (config, options) := ⟨_, _, rfl⟩
  obtain ⟨config, options, h⟩ := h
  exact ⟨config, options, h, (newOn_coherent h addsPeers).2⟩

/-- **What a start dials, and that it connects to every peer that came of a dial.** -/
theorem newOn_dials (platform : Platform A K) (u : Text.Unicode) (keys : Keys W)
    (signer : Signer T W) (config : GraphcastAgentConfig) (options : NodeOptions A)
    (service : Service (WakuCall A K) (WakuAnswer A)) :
    ∃ trace, (GraphcastAgent.newOn platform u keys signer config options service []).2 =
        trace.map Prod.fst ∧
      Calls.Answered service [] trace ∧
      ∃ addresses, Dials trace addresses ∧
        (Boots platform → addresses = []) ∧
        (¬ Boots platform →
          (∃ agent, (GraphcastAgent.newOn platform u keys signer config options service []).1 =
            .ok agent) →
          addresses = options.bootNodeAddresses ++
            (lastDiscovered trace).filterMap (getMultiaddress platform)) := by
  cases hwallet : buildWallet keys config.walletKey with
  | error e =>
    obtain ⟨e', hidentity⟩ := identity_of_wallet_error hwallet u signer
    rw [newOn_of_not_identity hidentity]
    exact ⟨[], rfl, trivial, [], Dials.nil, fun _ => rfl, fun _ ⟨a, ha⟩ => absurd ha (by simp)⟩
  | ok wallet =>
    obtain ⟨identity, hidentity⟩ := identity_of_wallet hwallet u signer
    rw [newOn_of_identity hidentity]
    by_cases hboots : Boots platform
    · -- what `SetsUp` leaves a boot node is no dial
      obtain ⟨trace, hmade, hans, -, calls, hcalls, hall⟩ :=
        traces_nodePart platform service config options []
      exact ⟨trace, hmade, hans, [], dials_of_boots hboots hcalls hall, fun _ => rfl,
        fun h => absurd hboots h⟩
    · obtain ⟨trace, hmade, hans, addresses, hdials, haddresses⟩ :=
        traces_nodePart_dials service config options hboots []
      refine ⟨trace, hmade, hans, addresses, hdials, fun h => absurd h hboots, fun _ hok => ?_⟩
      rw [← Outcome.isOk_iff, (new_of_identity hidentity _).1, Outcome.isOk_iff] at hok
      exact (haddresses hok).1

end GraphcastSdk

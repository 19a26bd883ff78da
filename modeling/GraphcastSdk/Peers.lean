import GraphcastSdk.Lib.Calls
import GraphcastSdk.WakuHandling

/-!
# Peers (`graphcast_agent/mod.rs`, `graphcast_agent/waku_handling.rs`)

`peers_data` and `network_check`, and `filter_peer_subscriptions`. Both loops go through the peers
that the node reports and make one call of the node a peer, which may succeed or fail: the node is
a `Calls.Service`.

* `networkCheck_iff`: the network check repairs every peer iff no call of `disconnect` fails. A
  failure of `connect` is logged, one of `disconnect` is unwrapped and panics.
* `filterPeerSubscriptions_iff`: the subscriptions go to the peers of `peers_data` iff the node
  does not report itself: unlike `peers_data`, the loop does not leave it out.
-/

namespace GraphcastSdk

open Calls (Service Calling)

/-! ## What is used of `waku_bindings` -/

/-- `waku::WakuPeerData`. -/
structure WakuPeerData where
  peerId : String
  protocols : List String
  connected : Bool
  deriving Repr, DecidableEq

/-- `waku::ContentFilter`. -/
structure ContentFilter where
  pubsubTopic : Option String
  contentTopics : List WakuContentTopic
  deriving Repr, DecidableEq

/-- The calls that change something at the node, their timeouts in seconds. -/
inductive NodeCall where
  | connectPeerWithId (peerId : String) (timeout : Option Nat)
  | disconnectPeerWithId (peerId : String)
  | filterSubscribe (contentFilter : ContentFilter) (peerId : Option String) (timeout : Option Nat)
  deriving Repr, DecidableEq

/-- A node's answer to a call: done, or an error. -/
abbrev NodeAnswer := Except String Unit

/-- What a running node reports of itself. -/
structure WakuNode where
  /-- `peer_id()`. -/
  peerId : Except String String
  /-- `peers()`. -/
  peers : Except String (List WakuPeerData)

/-! ## The functions -/

/-- `peers_data`: all peers data aside from the local node. -/
def peersData (node : WakuNode) : Outcome WakuHandlingError (List WakuPeerData) :=
  match node.peerId with
  | .error e => .panic ("Failed to get local node's peer id: " ++ Text.debugStr e)
  | .ok localId => do
    let peers ← Outcome.ofExcept .retrievePeersError node.peers
    pure (peers.filter fun p => p.peerId != localId)

/-- The peer supports the relay protocol. -/
def WakuPeerData.relays (peer : WakuPeerData) : Bool :=
  peer.protocols.any fun p => p == "/vac/waku/relay/2.0.0"

/-- The body of the loop of `network_check`. -/
def checkPeer (peer : WakuPeerData) : Calling NodeCall NodeAnswer WakuHandlingError Unit :=
  if peer.relays then
    if !peer.connected then do
      -- an error is a line in the log
      let _ ← Calls.call (.connectPeerWithId peer.peerId none)
      pure ()
    else pure ()
  else do
    let result ← Calls.call (.disconnectPeerWithId peer.peerId)
    Calls.lift (Outcome.unwrap Text.debugStr result)

/-- `network_check`. -/
def networkCheck (node : WakuNode) : Calling NodeCall NodeAnswer WakuHandlingError Unit := do
  let peers ← Calls.lift (peersData node)
  Calls.forEach checkPeer peers

/-- `content_filter`. -/
def contentFilter (pubsubTopic : String) (contentTopics : List WakuContentTopic) : ContentFilter :=
  ⟨some pubsubTopic, contentTopics⟩

/-- The request that `filter_peer_subscriptions` makes of the node for a peer. -/
def subscribeTo (subscription : ContentFilter) (peer : WakuPeerData) : NodeCall :=
  .filterSubscribe subscription (some peer.peerId) (some 6000)

/-- The line about a request. -/
def subscriptionResult (peer : WakuPeerData) : NodeAnswer → String
  | .ok _ => "Success filter subcription request made to peer " ++ peer.peerId
  | .error e => "Filter subcription request failed for peer " ++ e

/-- The closure of `filter_peer_subscriptions`, on one peer. -/
def subscribePeer (subscription : ContentFilter) (peer : WakuPeerData) :
    Calling NodeCall NodeAnswer WakuHandlingError String := do
  let filterRes ← Calls.call (subscribeTo subscription peer)
  pure (subscriptionResult peer filterRes)

/-- `filter_peer_subscriptions`. -/
def filterPeerSubscriptions (node : WakuNode) (graphcastTopic : String)
    (contentTopics : List WakuContentTopic) :
    Calling NodeCall NodeAnswer WakuHandlingError (List String) := do
  let subscription := contentFilter graphcastTopic contentTopics
  let peers ← Calls.lift (Outcome.ofExcept .retrievePeersError node.peers)
  Calls.mapEach (subscribePeer subscription) peers

/-! ## The network check -/

/-- What a peer is in need of: a connection, when it relays and is not connected; a disconnection,
when it does not relay. -/
def repair (peer : WakuPeerData) : List NodeCall :=
  match peer.relays, peer.connected with
  | true, false => [.connectPeerWithId peer.peerId none]
  | true, true => []
  | false, _ => [.disconnectPeerWithId peer.peerId]

/-- The peers that are not the local node. -/
def remotePeers (localId : String) (peers : List WakuPeerData) : List WakuPeerData :=
  peers.filter fun peer => peer.peerId ≠ localId

variable {node : WakuNode} {localId : String} {peers : List WakuPeerData}

theorem peersData_eq (hid : node.peerId = .ok localId) (hpeers : node.peers = .ok peers) :
    peersData node = .ok (remotePeers localId peers) := by
  have hfilter : (peers.filter fun p => p.peerId != localId) = remotePeers localId peers :=
    List.filter_congr fun p _ => by by_cases h : p.peerId = localId <;> simp [h]
  unfold peersData
  rw [hid, hpeers, ← hfilter]
  rfl

variable (service : Service NodeCall NodeAnswer) (made : List NodeCall)

/-- A turn makes the call its peer is in need of, whatever the node answers. -/
theorem checkPeer_calls (peer : WakuPeerData) (made : List NodeCall) :
    (checkPeer peer service made).2 = made ++ repair peer := by
  unfold checkPeer repair
  cases peer.relays with
  | false => rfl
  | true =>
    cases peer.connected with
    | false => rfl
    | true => exact (List.append_nil made).symm

/-- A turn goes through unless it has to disconnect its peer and that fails. -/
theorem checkPeer_eq_ok_iff (peer : WakuPeerData) (made : List NodeCall) :
    (checkPeer peer service made).1 = .ok () ↔
      (peer.relays = false → service made (.disconnectPeerWithId peer.peerId) = .ok ()) := by
  unfold checkPeer
  cases peer.relays with
  | false =>
    show Outcome.unwrap Text.debugStr (service made (.disconnectPeerWithId peer.peerId)) = _ ↔ _
    rw [Outcome.unwrap_eq_ok]
    exact ⟨fun h _ => h, fun h => h rfl⟩
  | true => cases peer.connected <;> exact ⟨fun _ h => absurd h (by simp), fun _ => rfl⟩

/-- **The network check repairs every peer iff no disconnection fails**: it returns, having made the
call that each peer but the local node is in need of, in the order of the list. -/
theorem networkCheck_iff (hid : node.peerId = .ok localId) (hpeers : node.peers = .ok peers) :
    networkCheck node service made =
        (.ok (), made ++ (remotePeers localId peers).flatMap repair) ↔
      ∀ before peer after, remotePeers localId peers = before ++ peer :: after →
        peer.relays = false →
          service (made ++ before.flatMap repair) (.disconnectPeerWithId peer.peerId) = .ok () := by
  have hloop : networkCheck node service made =
      Calls.forEach checkPeer (remotePeers localId peers) service made := by
    unfold networkCheck
    rw [peersData_eq hid hpeers]
    rfl
  rw [hloop, Calls.forEach_eq_ok_iff (checkPeer_calls service)]
  simp only [checkPeer_eq_ok_iff]

/-! ## A node among its peers -/

/-- The boot node in the documentation of `GraphcastAgent::new`, which relays. -/
def relayPeer : WakuPeerData where
  peerId := "16Uiu2YAmDEieEqD5dHSG85G8H51FUKByWoZx7byMy9AbMEgjd5iz"
  protocols := ["/ipfs/id/1.0.0", "/vac/waku/relay/2.0.0"]
  connected := false

/-- A peer that does not relay. -/
def lightPeer : WakuPeerData where
  peerId := "16Uiu2HAmVkKntsECaYfefR1V2yCR79CegLATuTPE6B9TxgxBiiiA"
  protocols := ["/ipfs/id/1.0.0"]
  connected := true

/-- The node of that documentation, as a peer. -/
def localPeer : WakuPeerData where
  peerId := "16Uiu2YAmDEieEqD5dHSG85G8H51FUKByWoZx7byMysomeoneelse"
  protocols := ["/ipfs/id/1.0.0", "/vac/waku/relay/2.0.0"]
  connected := true

def docNode (peers : List WakuPeerData) : WakuNode where
  peerId := .ok localPeer.peerId
  peers := .ok peers

def refusesConnections : Service NodeCall NodeAnswer
  | _, .connectPeerWithId _ _ => .error "failed to dial"
  | _, _ => .ok ()

def refusesDisconnections : Service NodeCall NodeAnswer
  | _, .disconnectPeerWithId _ => .error "peer not found"
  | _, _ => .ok ()

/-- The request to the relaying peer fails. -/
def refusesSubscriptions : Service NodeCall NodeAnswer
  | _, .filterSubscribe _ (some peerId) _ =>
    if peerId = relayPeer.peerId then .error "dial backoff" else .ok ()
  | _, _ => .ok ()

/-- One failed disconnection ends the check before the next peer is looked at. -/
theorem networkCheck_stops :
    networkCheck (docNode [lightPeer, localPeer, relayPeer]) refusesDisconnections [] ≠
      (.ok (), [lightPeer, relayPeer].flatMap repair) ∧
    networkCheck (docNode [lightPeer, localPeer, relayPeer]) refusesDisconnections [] =
      (.panic "called `Result::unwrap()` on an `Err` value: \"peer not found\"",
        [.disconnectPeerWithId lightPeer.peerId]) := by
  constructor <;> decide

/-- A failed connection does not. -/
theorem networkCheck_iff_refused :
    networkCheck (docNode [relayPeer, localPeer, lightPeer]) refusesConnections [] =
      (.ok (), [] ++ [relayPeer, lightPeer].flatMap repair) :=
  (@networkCheck_iff (docNode [relayPeer, localPeer, lightPeer]) localPeer.peerId
    [relayPeer, localPeer, lightPeer] refusesConnections [] rfl rfl).mpr fun _ _ _ _ _ => rfl

/-! ## The subscriptions -/

/-- One request for each of `others`, in order, and a line about each. -/
structure Subscribes (subscription : ContentFilter) (others : List WakuPeerData)
    (outcome : Outcome WakuHandlingError (List String) × List NodeCall) : Prop where
  requested : outcome.2 = made ++ others.map (subscribeTo subscription)
  reported : outcome.1 = .ok (List.zipWith subscriptionResult others
    (Calls.answers service made (others.map (subscribeTo subscription))))

variable (graphcastTopic : String) (contentTopics : List WakuContentTopic)

theorem subscribePeer_eq (subscription : ContentFilter) (peer : WakuPeerData)
    (made : List NodeCall) : subscribePeer subscription peer service made =
      (.ok (subscriptionResult peer (service made (subscribeTo subscription peer))),
        made ++ [subscribeTo subscription peer]) := rfl

/-- The requests go to all peers that the node reports. -/
theorem subscribes_filterPeerSubscriptions (hpeers : node.peers = .ok peers) :
    Subscribes service made (contentFilter graphcastTopic contentTopics) peers
      (filterPeerSubscriptions node graphcastTopic contentTopics service made) := by
  have hloop : filterPeerSubscriptions node graphcastTopic contentTopics service made =
      Calls.mapEach (subscribePeer (contentFilter graphcastTopic contentTopics)) peers
        service made := by
    unfold filterPeerSubscriptions
    rw [hpeers]
    rfl
  rw [hloop, Calls.mapEach_eq (subscribePeer_eq service _)]
  exact ⟨rfl, rfl⟩

/-- **The subscriptions go to the peers of `peers_data` iff the node does not report itself.** -/
theorem filterPeerSubscriptions_iff (hid : node.peerId = .ok localId)
    (hpeers : node.peers = .ok peers) :
    (∃ others, peersData node = .ok others ∧
      Subscribes service made (contentFilter graphcastTopic contentTopics) others
        (filterPeerSubscriptions node graphcastTopic contentTopics service made)) ↔
      ∀ peer ∈ peers, peer.peerId ≠ localId := by
  have hall := subscribes_filterPeerSubscriptions service made graphcastTopic contentTopics hpeers
  rw [peersData_eq hid hpeers]
  constructor
  · rintro ⟨others, hothers, h⟩
    obtain rfl := Outcome.ok.inj hothers
    have hmap := List.append_cancel_left (hall.requested.symm.trans h.requested)
    have hlen := congrArg List.length hmap
    rw [List.length_map, List.length_map] at hlen
    intro peer hpeer
    have hkept := List.length_filter_eq_length_iff.mp hlen.symm peer hpeer
    simpa using hkept
  · intro hno
    have hfilter : remotePeers localId peers = peers :=
      List.filter_eq_self.mpr fun peer hpeer => by simpa using hno peer hpeer
    exact ⟨peers, by rw [hfilter], hall⟩

/-- A node among its own peers subscribes to itself. -/
theorem filterPeerSubscriptions_to_self :
    (¬ ∃ others, peersData (docNode [localPeer, relayPeer]) = .ok others ∧
      Subscribes refusesConnections [] (contentFilter "topic" []) others
        (filterPeerSubscriptions (docNode [localPeer, relayPeer]) "topic" []
          refusesConnections [])) ∧
    (filterPeerSubscriptions (docNode [localPeer, relayPeer]) "topic" [] refusesConnections []).2 =
      [localPeer, relayPeer].map (subscribeTo (contentFilter "topic" [])) := by
  refine ⟨?_, rfl⟩
  rintro ⟨others, hothers, h⟩
  have hrelay : peersData (docNode [localPeer, relayPeer]) = .ok [relayPeer] := by decide
  obtain rfl := Outcome.ok.inj (hrelay.symm.trans hothers)
  exact absurd h.requested (by decide)

/-- Two peers, neither of them the node. The request to one fails; there is a line about each. -/
theorem filterPeerSubscriptions_iff_apart :
    (∃ others, peersData (docNode [relayPeer, lightPeer]) = .ok others ∧
      Subscribes refusesSubscriptions [] (contentFilter "topic" []) others
        (filterPeerSubscriptions (docNode [relayPeer, lightPeer]) "topic" []
          refusesSubscriptions [])) ∧
    (filterPeerSubscriptions (docNode [relayPeer, lightPeer]) "topic" []
        refusesSubscriptions []).1 =
      .ok ["Filter subcription request failed for peer dial backoff",
        "Success filter subcription request made to peer " ++ lightPeer.peerId] :=
  ⟨(filterPeerSubscriptions_iff refusesSubscriptions [] "topic" [] rfl rfl).mpr (by decide),
    by decide⟩

end GraphcastSdk

import GraphcastSdk.Sending
import GraphcastSdk.SetUp

/-!
# From `send_message` to `remote_account`

`sendMessage_round_trip`: the bytes that `send_message` publishes decode to a message with the
identifier, nonce and payload it was given and the configured graph account in lower case; on it
`remote_account` returns the sender's wallet address and that account, and an error at the sender
itself. An identifier among the agent's topics is published on its topic, once, if the wallet signs
the payload and the message fits in a buffer.

Premises: signatures survive their printing and recover to the wallet (`SignsBack`), whose address
prints alike on both sides (`PrintsAlike`), and the payload survives its encoding (`RoundTrips`).
-/

namespace GraphcastSdk

variable {T W : Type} {u : Text.Unicode} {keys : Keys W} {signer : Signer T W} {ethers : Ethers T}

/-- A message is attributed to its sender by everyone else, and refused by the sender. -/
theorem GraphcastMessage.remoteAccount_of_recovered {m : GraphcastMessage T} {address : String}
    (hrec : m.recoverSenderAddress ethers = .ok address) (localSenderId : String) :
    (localSenderId ≠ address →
      m.remoteAccount ethers localSenderId = .ok ⟨address, m.graphAccount⟩) ∧
    (localSenderId = address → (m.remoteAccount ethers localSenderId).isErr = true) := by
  constructor
  · intro hne
    exact remoteAccount_eq_ok.mpr ⟨address, hrec, hne.symm, rfl⟩
  · rintro rfl
    unfold remoteAccount
    rw [hrec, Outcome.ok_bind, if_neg (Decidable.not_not.mpr rfl)]
    rfl

/-- An identifier among the topics has a topic to be sent on. -/
theorem Agent.exists_matchContentTopicIdentifier {s : Agent} {identifier : String}
    (h : identifier ∈ s.contentTopics.map WakuContentTopic.contentTopicName) :
    ∃ topic ∈ s.contentTopics, s.matchContentTopicIdentifier identifier = .ok topic ∧
      topic.contentTopicName = identifier := by
  obtain ⟨x, hx, hname⟩ := List.mem_map.mp h
  have hsome : (s.contentTopics.find? fun y => y.contentTopicName == identifier).isSome = true :=
    List.find?_isSome.mpr ⟨x, hx, by simp [hname]⟩
  obtain ⟨topic, htopic⟩ := Option.isSome_iff_exists.mp hsome
  exact ⟨topic, List.mem_of_find?_eq_some htopic, Outcome.okOr_eq_ok.mpr htopic,
    by simpa using List.find?_some htopic⟩

/-- **Round trip.** What `send_message` publishes, and what a receiver makes of it. -/
theorem sendMessage_round_trip (hsign : SignsBack signer ethers) (hprint : PrintsAlike keys ethers)
    {codec : PayloadCodec T} (hcodec : codec.RoundTrips)
    {waku : Outcome GraphcastAgentError Unit} {config : GraphcastAgentConfig}
    {agent : GraphcastAgent W} (hagent : GraphcastAgent.new u keys signer waku config = .ok agent)
    (shared : Agent) (publish : WakuMessage → String → Except String String) (identifier : String)
    (payload : T) (nonce : UInt64) (currentTime : Int64) :
    let account := u.toLowercase config.graphAccount
    let address := walletAddress keys signer agent.graphcastIdentity.wallet
    let sent := { agent with shared }.sendMessage signer codec publish identifier payload nonce
      currentTime
    (∀ w pubsubTopic, (w, pubsubTopic) ∈ sent.published →
      ∃ m, GraphcastMessage.decode codec w.payload = .ok m ∧ m.identifier = identifier ∧
        m.nonce = nonce ∧ m.payload = payload ∧ m.graphAccount = account ∧
        ∀ l, (l ≠ address → m.remoteAccount ethers l = .ok ⟨address, account⟩) ∧
          (l = address → (m.remoteAccount ethers l).isErr = true)) ∧
    (identifier ∈ shared.contentTopics.map WakuContentTopic.contentTopicName →
      ∀ sig, signer.signTypedData agent.graphcastIdentity.wallet payload = .ok sig →
        ((⟨identifier, nonce, account, payload, signer.signatureToString sig⟩ :
          GraphcastMessage T).encodeRaw codec).length < 2 ^ 63 →
        ∃ w, sent.published = [(w, agent.pubsubTopic)] ∧ w.contentTopic ∈ shared.contentTopics ∧
          w.contentTopic.contentTopicName = identifier) := by
  intro account address sent
  obtain ⟨hwallet, hacc⟩ := GraphcastAgent.identity_of_new hagent
  refine ⟨fun w pubsubTopic hw => ?_, fun hid sig hsig hlen => ?_⟩
  · obtain ⟨m, hprepared, hwaku, -⟩ := GraphcastAgent.mem_published_sendMessage hw
    obtain ⟨-, hm⟩ := GraphcastAgent.prepareMessage_eq_ok.mp hprepared
    obtain ⟨hlen, hbytes⟩ := GraphcastMessage.toWaku_eq_ok.mp hwaku
    have hdecode : GraphcastMessage.decode codec w.payload = .ok m := by
      rw [hbytes]
      exact GraphcastMessage.decode_encodeRaw hcodec hlen
    obtain ⟨hmacc, hrec⟩ := GraphcastAgent.buildMessage_spec hsign.signsAs hprint hagent hwallet
      (m := m) hm
    have hbuild := Outcome.mapErr_eq_ok.mp hm
    obtain ⟨sig, -, hfields⟩ := GraphcastMessage.build_eq_ok.mp hbuild
    refine ⟨m, hdecode, ?_, ?_, ?_, hmacc, fun l => ?_⟩
    · rw [hfields]
    · rw [hfields]
    · rw [hfields]
    · have hremote := GraphcastMessage.remoteAccount_of_recovered hrec l
      rw [hmacc] at hremote
      exact hremote
  · obtain ⟨topic, hmem, htopic, hname⟩ := Agent.exists_matchContentTopicIdentifier hid
    have hm : { agent with shared }.buildMessage signer identifier payload nonce =
        .ok ⟨identifier, nonce, account, payload, signer.signatureToString sig⟩ :=
      Outcome.mapErr_eq_ok.mpr (GraphcastMessage.build_eq_ok.mpr ⟨sig, hsig, by rw [hacc]⟩)
    refine ⟨_, GraphcastAgent.published_sendMessage (w := ⟨_, topic, _, _, _, _⟩)
      (GraphcastAgent.prepareMessage_eq_ok.mpr ⟨htopic, hm⟩)
      (GraphcastMessage.toWaku_eq_ok.mpr ⟨hlen, rfl⟩), hmem, hname⟩

/-! ## The documented agent sends `ping` -/

/-- `SimpleMessage::merge_field`. -/
def SimpleMessage.mergeField (m : SimpleMessage) (tag : Nat) (wireType : Proto3.WireType) :
    Proto3.Reader SimpleMessage := fun bs =>
  match tag with
  | 1 => Outcome.mapErr (fun e => e.push "SimpleMessage" "identifier") do
    let (identifier, rest) ← Proto3.readString wireType bs
    pure ({ m with identifier }, rest)
  | 2 => Outcome.mapErr (fun e => e.push "SimpleMessage" "content") do
    let (content, rest) ← Proto3.readString wireType bs
    pure ({ m with content }, rest)
  | _ => do
    let rest ← Proto3.skipField (GraphcastMessage.recursionLimit - 1) tag wireType bs
    pure (m, rest)

/-- `SimpleMessage` as `prost` derives it. -/
def simpleCodec : PayloadCodec SimpleMessage where
  default := ⟨"", ""⟩
  encode m := Proto3.encodeString 1 m.identifier ++ Proto3.encodeString 2 m.content
  merge := Proto3.merge SimpleMessage.mergeField

theorem roundTrips_simpleCodec : simpleCodec.RoundTrips := by
  intro payload hlen
  simp only [simpleCodec, List.length_append] at hlen
  refine Proto3.merge_of_merges ?_
  show Proto3.Merges _ _ (Proto3.encodeString 1 payload.identifier ++ _) _
  refine Proto3.Merges.string ⟨payload.identifier, ""⟩
    (by decide) (by decide) (by omega) (fun bs hbs => ?_) (fun he => ?_) ?_
  · simp [SimpleMessage.mergeField, hbs, Outcome.mapErr, simpleCodec]
  · simp [simpleCodec, he]
  rw [← List.append_nil (Proto3.encodeString 2 payload.content)]
  refine Proto3.Merges.string payload
    (by decide) (by decide) (by omega) (fun bs hbs => ?_) (fun he => ?_) (Proto3.Merges.nil payload)
  · simp [SimpleMessage.mergeField, hbs, Outcome.mapErr]
  · rw [← he]

/-- The documented agent publishes `ping` on its one topic, and whoever decodes it attributes it to
the agent's wallet and account. -/
theorem sendMessage_round_trip_ping :
    ∃ w m, ((docAgent "0xfd3082Ac044A8093a40051382Bc4607E3e41da56" .noCheck).sendMessage docSigner
        simpleCodec (fun _ _ => .ok "0x01") "some_subgraph_hash" ping 0 1688744240).published =
          [(w, "/waku/2/graphcast-v0-test_namespace_in_pubsub_topic/proto")] ∧
      GraphcastMessage.decode simpleCodec w.payload = .ok m ∧
      m.remoteAccount docEthers "" =
        .ok ⟨walletAddress docKeys docSigner (),
          asciiTables.toLowercase "0xfd3082Ac044A8093a40051382Bc4607E3e41da56"⟩ := by
  obtain ⟨hdecode, hpublish⟩ := sendMessage_round_trip signsBack_docSigner (fun _ => rfl)
    roundTrips_simpleCodec (docAgent_new "0xfd3082Ac044A8093a40051382Bc4607E3e41da56" .noCheck)
    (docAgent "0xfd3082Ac044A8093a40051382Bc4607E3e41da56" .noCheck).shared
    (fun _ _ => .ok "0x01") "some_subgraph_hash" ping 0 1688744240
  obtain ⟨w, hw, -, -⟩ := hpublish (by decide) docSignature rfl (by decide +kernel)
  obtain ⟨m, hm, -, -, -, -, hremote⟩ := hdecode w _ (hw ▸ List.mem_singleton_self _)
  exact ⟨w, m, hw, hm, (hremote "").1 (by decide +kernel)⟩

end GraphcastSdk

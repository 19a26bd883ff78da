import GraphcastSdk.Identity
import GraphcastSdk.Lib.Proto3

/-!
# Messages on the wire (`message_typing.rs`, `graphcast_agent/mod.rs`)

`GraphcastMessage` as `prost` derives its encoding from the declared tags and types, `decode`,
`send_to_waku` and `send_message`. The payload's own encoding is the parameter `PayloadCodec`, and
the Waku node the function `publish` (`relay_publish_message`).

`decode_encodeRaw`: what fits in a buffer decodes to the message it was made from, defaults and
all. `sendMessage_run` ties `send_message` to the events of the agent's shared state.
-/

namespace GraphcastSdk

/-- `prost::Message` of the radio's payload. -/
structure PayloadCodec (T : Type) where
  /-- `T::default()`. -/
  default : T
  /-- `encode_raw`. -/
  encode : T → Proto3.Bytes
  /-- `merge`, of the bytes that the length in front of them delimits. -/
  merge : T → Proto3.Bytes → Outcome Proto3.DecodeError T

/-- A payload that fits in a buffer survives its encoding. -/
def PayloadCodec.RoundTrips {T : Type} (codec : PayloadCodec T) : Prop :=
  ∀ payload, (codec.encode payload).length < 2 ^ 63 →
    codec.merge codec.default (codec.encode payload) = .ok payload

namespace GraphcastMessage

variable {T : Type} (codec : PayloadCodec T)

/-- `prost`'s `RECURSION_LIMIT`. -/
def recursionLimit : Nat := 100

/-- `encode_raw`: the fields in the order of their tags. -/
def encodeRaw (self : GraphcastMessage T) : Proto3.Bytes :=
  Proto3.encodeString 1 self.identifier ++ Proto3.encodeDelimited 2 (codec.encode self.payload) ++
    Proto3.encodeUint64 3 self.nonce ++ Proto3.encodeString 4 self.graphAccount ++
    Proto3.encodeString 5 self.signature

/-- The message's `Default`. -/
def initial : GraphcastMessage T where
  identifier := ""
  nonce := 0
  graphAccount := ""
  payload := codec.default
  signature := ""

/-- `merge_field`. -/
def mergeField (m : GraphcastMessage T) (tag : Nat) (wireType : Proto3.WireType) :
    Proto3.Reader (GraphcastMessage T) := fun bs =>
  match tag with
  | 1 => Outcome.mapErr (fun e => e.push "GraphcastMessage" "identifier") do
    let (identifier, rest) ← Proto3.readString wireType bs
    pure ({ m with identifier }, rest)
  | 2 => Outcome.mapErr (fun e => e.push "GraphcastMessage" "payload") do
    let (bytes, rest) ← Proto3.readMessage wireType bs
    let payload ← codec.merge m.payload bytes
    pure ({ m with payload }, rest)
  | 3 => Outcome.mapErr (fun e => e.push "GraphcastMessage" "nonce") do
    let (nonce, rest) ← Proto3.readUint64 wireType bs
    pure ({ m with nonce }, rest)
  | 4 => Outcome.mapErr (fun e => e.push "GraphcastMessage" "graph_account") do
    let (graphAccount, rest) ← Proto3.readString wireType bs
    pure ({ m with graphAccount }, rest)
  | 5 => Outcome.mapErr (fun e => e.push "GraphcastMessage" "signature") do
    let (signature, rest) ← Proto3.readString wireType bs
    pure ({ m with signature }, rest)
  | _ => do
    let rest ← Proto3.skipField recursionLimit tag wireType bs
    pure (m, rest)

/-- `GraphcastMessage::decode`. -/
def decode (payload : Proto3.Bytes) : Outcome WakuHandlingError (GraphcastMessage T) :=
  (Proto3.merge (mergeField codec) (initial codec) payload).mapErr fun e => .invalidMessage
    ("Waku message not interpretated as a Graphcast message\nError occurred: " ++ e.debug)

/-- `Message::encode` into an empty `Vec`, which has room for `isize::MAX` bytes, and `expect`. -/
def encode (self : GraphcastMessage T) : Outcome WakuHandlingError Proto3.Bytes :=
  if (self.encodeRaw codec).length < 2 ^ 63 then .ok (self.encodeRaw codec)
  else .panic "Could not encode :("

/-- The `WakuMessage` of `send_to_waku`, at the clock reading `currentTime`. -/
def toWaku (self : GraphcastMessage T) (contentTopic : WakuContentTopic) (currentTime : Int64) :
    Outcome WakuHandlingError WakuMessage := do
  let buff ← self.encode codec
  pure { payload := buff, contentTopic, version := 2, timestamp := currentTime.toUInt64,
         metadata := [], ephemeral := true }

/-- `send_to_waku`, and what it hands to the node. -/
def sendToWaku (publish : WakuMessage → String → Except String String) (self : GraphcastMessage T)
    (pubsubTopic : String) (contentTopic : WakuContentTopic) (currentTime : Int64) :
    Outcome WakuHandlingError String × List (WakuMessage × String) :=
  match self.toWaku codec contentTopic currentTime with
  | .ok wakuMessage =>
    (Outcome.ofExcept .publishMessage (publish wakuMessage pubsubTopic),
      [(wakuMessage, pubsubTopic)])
  | .err e => (.err e, [])
  | .panic p => (.panic p, [])

end GraphcastMessage

/-- What a call of `send_message` comes to: its result, what it handed to the node, and the ids
seen afterwards. -/
structure Sent where
  result : Outcome GraphcastAgentError String
  published : List (WakuMessage × String)
  seenMsgIds : Finset String

namespace GraphcastAgent

variable {T W : Type} (signer : Signer T W) (codec : PayloadCodec T)
  (publish : WakuMessage → String → Except String String)

/-- The topic and the message of `send_message`, up to `send_to_waku`. -/
def prepareMessage (self : GraphcastAgent W) (identifier : String) (payload : T) (nonce : UInt64) :
    Outcome GraphcastAgentError (WakuContentTopic × GraphcastMessage T) := do
  let contentTopic ← self.shared.matchContentTopicIdentifier identifier
  let m ← self.buildMessage signer identifier payload nonce
  pure (contentTopic, m)

/-- `send_message`, at the clock reading `currentTime`. -/
def sendMessage (self : GraphcastAgent W) (identifier : String) (payload : T) (nonce : UInt64)
    (currentTime : Int64) : Sent :=
  match self.prepareMessage signer identifier payload nonce with
  | .ok (contentTopic, m) =>
    let (result, published) :=
      m.sendToWaku codec publish self.pubsubTopic contentTopic currentTime
    match result with
    | .ok id => ⟨.ok id, published, insert id self.shared.seenMsgIds⟩
    | .err e => ⟨.err (.wakuNodeError e), published, self.shared.seenMsgIds⟩
    | .panic p => ⟨.panic p, published, self.shared.seenMsgIds⟩
  | .err e => ⟨.err e, [], self.shared.seenMsgIds⟩
  | .panic p => ⟨.panic p, [], self.shared.seenMsgIds⟩

end GraphcastAgent

/-! ## Decoding what was encoded -/

namespace GraphcastMessage

variable {T : Type} {codec : PayloadCodec T}

/-- The fields of a message, read one by one into the default message. -/
theorem merges_encodeRaw (hc : codec.RoundTrips) {m : GraphcastMessage T}
    (h : (m.encodeRaw codec).length < 2 ^ 63) :
    Proto3.Merges (mergeField codec) (initial codec) (m.encodeRaw codec) m := by
  unfold encodeRaw at h ⊢
  simp only [List.length_append] at h
  have hpayload : (codec.encode m.payload).length < 2 ^ 63 := by
    have hle : (codec.encode m.payload).length ≤
        (Proto3.encodeDelimited 2 (codec.encode m.payload)).length :=
      Proto3.length_le_encodeDelimited
    omega
  rw [← List.append_nil (_ ++ _)]
  simp only [List.append_assoc]
  refine Proto3.Merges.string { initial codec with identifier := m.identifier }
    (by decide) (by decide) (by omega) (fun bs hbs => ?_) (fun he => ?_) ?_
  · simp [mergeField, hbs, Outcome.mapErr]
  · simp [initial, he]
  refine Proto3.Merges.message
    { initial codec with identifier := m.identifier, payload := m.payload }
    (by decide) (by decide) (by omega) (fun bs hbs => ?_) ?_
  · simp [mergeField, hbs, Outcome.mapErr, initial, hc m.payload hpayload]
  refine Proto3.Merges.uint64 { m with graphAccount := "", signature := "" }
    (by decide) (by decide) (fun bs hbs => ?_) (fun he => ?_) ?_
  · simp [mergeField, hbs, Outcome.mapErr, initial]
  · simp [initial, he]
  refine Proto3.Merges.string { m with signature := "" }
    (by decide) (by decide) (by omega) (fun bs hbs => ?_) (fun he => ?_) ?_
  · simp [mergeField, hbs, Outcome.mapErr]
  · simp [he]
  refine Proto3.Merges.string m
    (by decide) (by decide) (by omega) (fun bs hbs => ?_) (fun he => ?_) ?_
  · simp [mergeField, hbs, Outcome.mapErr]
  · cases m
    simp_all
  exact Proto3.Merges.nil m

/-- **What fits in a buffer decodes to the message it was made from.** -/
theorem decode_encodeRaw (hc : codec.RoundTrips) {m : GraphcastMessage T}
    (h : (m.encodeRaw codec).length < 2 ^ 63) : decode codec (m.encodeRaw codec) = .ok m := by
  unfold decode
  rw [Proto3.merge_of_merges (merges_encodeRaw hc h)]
  rfl

theorem toWaku_eq_ok {m : GraphcastMessage T} {contentTopic : WakuContentTopic}
    {currentTime : Int64} {w : WakuMessage} :
    m.toWaku codec contentTopic currentTime = .ok w ↔ (m.encodeRaw codec).length < 2 ^ 63 ∧
      w = ⟨m.encodeRaw codec, contentTopic, 2, currentTime.toUInt64, [], true⟩ := by
  unfold toWaku encode
  split
  · rename_i h
    simp only [Outcome.ok_bind, Outcome.pure_def, Outcome.ok.injEq, h, true_and]
    exact eq_comm
  · rename_i h
    constructor
    · intro hw
      exact absurd hw (by simp)
    · rintro ⟨hlt, -⟩
      exact absurd hlt h

end GraphcastMessage

/-! ## What is published -/

namespace GraphcastAgent

variable {T W : Type} {signer : Signer T W} {codec : PayloadCodec T}
  {publish : WakuMessage → String → Except String String} {agent : GraphcastAgent W}
  {identifier : String} {payload : T} {nonce : UInt64} {currentTime : Int64}

theorem prepareMessage_eq_ok {contentTopic : WakuContentTopic} {m : GraphcastMessage T} :
    agent.prepareMessage signer identifier payload nonce = .ok (contentTopic, m) ↔
      agent.shared.matchContentTopicIdentifier identifier = .ok contentTopic ∧
        agent.buildMessage signer identifier payload nonce = .ok m := by
  unfold prepareMessage
  simp only [Outcome.bind_eq_ok, Outcome.pure_def, Outcome.ok.injEq, Prod.mk.injEq]
  constructor
  · rintro ⟨_, ht, _, hm, rfl, rfl⟩
    exact ⟨ht, hm⟩
  · rintro ⟨ht, hm⟩
    exact ⟨_, ht, _, hm, rfl, rfl⟩

/-- A message that is built and fits in a buffer is handed to the node, whatever the node then
says. -/
theorem published_sendMessage {m : GraphcastMessage T} {w : WakuMessage}
    (hp : agent.prepareMessage signer identifier payload nonce = .ok (w.contentTopic, m))
    (hw : m.toWaku codec w.contentTopic currentTime = .ok w) :
    (agent.sendMessage signer codec publish identifier payload nonce currentTime).published =
      [(w, agent.pubsubTopic)] := by
  unfold sendMessage GraphcastMessage.sendToWaku
  simp only [hp, hw]
  cases publish w agent.pubsubTopic <;> rfl

/-- Nothing else is. -/
theorem mem_published_sendMessage {w : WakuMessage} {pubsubTopic : String}
    (h : (w, pubsubTopic) ∈
      (agent.sendMessage signer codec publish identifier payload nonce currentTime).published) :
    ∃ m, agent.prepareMessage signer identifier payload nonce = .ok (w.contentTopic, m) ∧
      m.toWaku codec w.contentTopic currentTime = .ok w ∧ pubsubTopic = agent.pubsubTopic := by
  cases hp : agent.prepareMessage signer identifier payload nonce with
  | err e => simp [sendMessage, hp] at h
  | panic p => simp [sendMessage, hp] at h
  | ok x =>
    obtain ⟨contentTopic, m⟩ := x
    cases hw : m.toWaku codec contentTopic currentTime with
    | err e => simp [sendMessage, GraphcastMessage.sendToWaku, hp, hw] at h
    | panic p => simp [sendMessage, GraphcastMessage.sendToWaku, hp, hw] at h
    | ok w' =>
      have htopic : w'.contentTopic = contentTopic := by
        rw [(GraphcastMessage.toWaku_eq_ok.mp hw).2]
      subst htopic
      rw [published_sendMessage hp hw] at h
      obtain ⟨rfl, rfl⟩ := Prod.mk.inj (List.mem_singleton.mp h)
      exact ⟨m, rfl, hw, rfl⟩

/-- **A send that returns an id is the publication of that id and then its insertion.** -/
theorem sendMessage_run {id : String}
    (h : (agent.sendMessage signer codec publish identifier payload nonce currentTime).result =
      .ok id) :
    ∃ s, Run.run Agent.step agent.shared [.publish id, .record id] = some s ∧
      s.seenMsgIds =
        (agent.sendMessage signer codec publish identifier payload nonce
          currentTime).seenMsgIds ∧
      s.contentTopics = agent.shared.contentTopics := by
  have hseen : (agent.sendMessage signer codec publish identifier payload nonce
      currentTime).seenMsgIds = insert id agent.shared.seenMsgIds := by
    unfold sendMessage at h ⊢
    split at h
    · dsimp only at h ⊢
      split at h
      · obtain rfl := Outcome.ok.inj h
        rfl
      · exact absurd h (by simp)
      · exact absurd h (by simp)
    · exact absurd h (by simp)
    · exact absurd h (by simp)
  rw [hseen]
  refine ⟨{ agent.shared with
    published := agent.shared.published ++ [id]
    sending := (agent.shared.sending ++ [id]).erase id
    seenMsgIds := insert id agent.shared.seenMsgIds }, ?_, rfl, rfl⟩
  simp only [Run.run, Agent.step, Option.bind_some]
  rw [if_pos (List.mem_append_right _ (List.mem_singleton_self id))]
  rfl

end GraphcastAgent

end GraphcastSdk

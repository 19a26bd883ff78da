import GraphcastSdk.Graphql.Basic
import Mathlib.Data.Finset.Insert

/-!
# Waku signals and content topics (`graphcast_agent/waku_handling.rs`)

`handle_signal`, `match_content_topic`, `build_content_topics` and `pubsub_topic`. The two mutexes
that `handle_signal` locks are arguments, and the ids it leaves behind are part of its result. The
types of `waku_bindings` have the fields the crate uses.

A signal is accepted on its id and its content topic alone: `handleSignal_eq_ok` says when, and
`seen_handleSignal` that the id is recorded either way.
-/

namespace GraphcastSdk

/-! ## What is used of `waku_bindings` -/

/-- `waku::Encoding`. -/
inductive Encoding where
  | proto
  | rlp
  | rfc26
  | unknown (name : String)
  deriving Repr, DecidableEq

/-- `{:#?}` of an encoding that is a field of a structure. -/
def Encoding.debug : Encoding → String
  | .proto => "Proto"
  | .rlp => "Rlp"
  | .rfc26 => "Rfc26"
  | .unknown name => "Unknown(\n        " ++ Text.debugStr name ++ ",\n    )"

/-- `waku::WakuContentTopic`. -/
structure WakuContentTopic where
  applicationName : String
  version : String
  contentTopicName : String
  encoding : Encoding
  deriving Repr, DecidableEq

/-- `{:#?}` of a content topic. -/
def WakuContentTopic.debug (topic : WakuContentTopic) : String :=
  Text.debugStruct "WakuContentTopic"
    [("application_name", Text.debugStr topic.applicationName),
      ("version", Text.debugStr topic.version),
      ("content_topic_name", Text.debugStr topic.contentTopicName),
      ("encoding", topic.encoding.debug)]

/-- `waku::WakuMessage`. -/
structure WakuMessage where
  payload : List UInt8
  contentTopic : WakuContentTopic
  version : UInt64
  timestamp : UInt64
  metadata : List UInt8
  ephemeral : Bool
  deriving Repr, DecidableEq

/-- `waku::Event`; an event that is not a message carries what its error prints. -/
inductive WakuEvent where
  | wakuMessage (messageId : String) (wakuMessage : WakuMessage)
  | unrecognized (data : String)
  | other
  deriving Repr, DecidableEq

/-- `waku::Signal`, with its serialisation as the last branch prints it. -/
structure Signal where
  event : WakuEvent
  serialized : String
  deriving Repr, DecidableEq

/-! ## The functions -/

/-- `WakuHandlingError`. -/
inductive WakuHandlingError where
  | parseUrlError (text : String)
  | contentTopicsError (text : String)
  | retrievePeersError (text : String)
  | publishMessage (text : String)
  | invalidMessage (text : String)
  | parsePortError (text : String)
  | createNodeError (text : String)
  | stopNodeError (text : String)
  | peerInfoError (text : String)
  | queryResponseError (e : QueryError)
  | other (e : String)
  deriving Repr, DecidableEq

/-- `app_name`. -/
def appName : String := "graphcast"

/-- `SDK_VERSION`. -/
def sdkVersion : String := "0"

/-- `pubsub_topic`, with the default namespace of "testnet". -/
def pubsubTopic (graphcastNamespace : Option String) : String :=
  "/waku/2/" ++ appName ++ "-v" ++ sdkVersion ++ "-" ++ graphcastNamespace.getD "testnet" ++
    "/proto"

/-- `build_content_topics`. -/
def buildContentTopics (radioName radioVersion : String) (subtopics : List String) :
    List WakuContentTopic :=
  subtopics.map fun subtopic =>
    { applicationName := radioName
      version := radioVersion
      contentTopicName := subtopic
      encoding := .proto }

/-- `match_content_topic`. -/
def matchContentTopic (contentTopics : List WakuContentTopic) (topic : WakuContentTopic) : Bool :=
  contentTopics.isEmpty || contentTopics.any fun t => t == topic

/-- `handle_signal`, against the ids in `seen_msg_ids` when it locks them and the topics in
`content_topics` when it locks those. -/
def handleSignal (signal : Signal) (seenMsgIds : Finset String)
    (contentTopics : List WakuContentTopic) :
    Outcome WakuHandlingError WakuMessage × Finset String :=
  match signal.event with
  | .wakuMessage msgId wakuMessage =>
    if msgId ∈ seenMsgIds then
      (.err (.invalidMessage ("Skip repeated message: " ++ Text.debugStr msgId)), seenMsgIds)
    else
      let ids := insert msgId seenMsgIds
      let contentTopic := wakuMessage.contentTopic
      if !matchContentTopic contentTopics contentTopic then
        (.err (.invalidMessage ("Skip irrelevant content topic: " ++ contentTopic.debug)), ids)
      else (.ok wakuMessage, ids)
  | .unrecognized data =>
    (.err (.invalidMessage ("Unrecognized event!\n " ++ data)), seenMsgIds)
  | .other =>
    (.err (.invalidMessage ("Unrecognized signal!\n " ++ signal.serialized)), seenMsgIds)

/-! ## What a signal does -/

/-- An empty list of topics lets every topic through. -/
theorem matchContentTopic_iff {contentTopics : List WakuContentTopic} {topic : WakuContentTopic} :
    matchContentTopic contentTopics topic = true ↔ contentTopics = [] ∨ topic ∈ contentTopics := by
  unfold matchContentTopic
  rw [Bool.or_eq_true, List.isEmpty_iff, List.any_eq_true]
  simp only [beq_iff_eq, exists_eq_right]

variable {signal : Signal} {seenMsgIds : Finset String} {contentTopics : List WakuContentTopic}

/-- **What a signal is accepted for**: a new id, on a topic that matches. -/
theorem handleSignal_eq_ok {wakuMessage : WakuMessage} :
    (handleSignal signal seenMsgIds contentTopics).1 = .ok wakuMessage ↔
      ∃ id, signal.event = .wakuMessage id wakuMessage ∧ id ∉ seenMsgIds ∧
        (contentTopics = [] ∨ wakuMessage.contentTopic ∈ contentTopics) := by
  unfold handleSignal
  cases signal.event with
  | unrecognized data => simp
  | other => simp
  | wakuMessage msgId m =>
    constructor
    · intro h
      dsimp only at h
      split at h
      · exact absurd h (by simp)
      · rename_i hid
        split at h
        · exact absurd h (by simp)
        · rename_i hmatch
          obtain rfl := Outcome.ok.inj h
          exact ⟨msgId, rfl, hid, matchContentTopic_iff.mp (by simpa using hmatch)⟩
    · rintro ⟨id, he, hid, htopic⟩
      obtain ⟨rfl, rfl⟩ := WakuEvent.wakuMessage.inj he
      dsimp only
      rw [if_neg hid, if_neg (by simpa using matchContentTopic_iff.mpr htopic)]

/-- **A signal records the id it carries**, whatever its verdict, and no other. -/
theorem seen_handleSignal {id : String} :
    id ∈ (handleSignal signal seenMsgIds contentTopics).2 ↔
      id ∈ seenMsgIds ∨ ∃ wakuMessage, signal.event = .wakuMessage id wakuMessage := by
  unfold handleSignal
  cases signal.event with
  | unrecognized data => simp
  | other => simp
  | wakuMessage msgId m =>
    dsimp only
    split
    · rename_i hid
      constructor
      · intro h
        exact Or.inl h
      · rintro (h | ⟨m', he⟩)
        · exact h
        · exact (WakuEvent.wakuMessage.inj he).1 ▸ hid
    · split <;> simp [or_comm, eq_comm]

/-- A signal that is not a message is turned away and records nothing. -/
theorem handleSignal_of_not_message
    (h : ∀ id wakuMessage, signal.event ≠ .wakuMessage id wakuMessage) :
    (handleSignal signal seenMsgIds contentTopics).1.isOk = false ∧
      (handleSignal signal seenMsgIds contentTopics).2 = seenMsgIds := by
  unfold handleSignal
  cases he : signal.event with
  | unrecognized data => exact ⟨rfl, rfl⟩
  | other => exact ⟨rfl, rfl⟩
  | wakuMessage id m => exact absurd he (h id m)

end GraphcastSdk

import GraphcastSdk.Agent
import GraphcastSdk.RoundTrip
import Mathlib.Data.Nat.Bitwise

/-!
# The ping-pong radio (`examples/ping-pong/src/main.rs`, `types.rs`)

One radio: the agent it runs on, the thread that takes messages off the channel and puts them into
`MESSAGES`, and `main_loop`, which sends a ping on some blocks and answers what is in `MESSAGES` on
the others. The events interleave as the threads do:

* `signal`: the node's callback handles a message (`handle_signal`, then the channel);
* `receive` and `radioHandler`: the receiver takes the next message and decodes it, and later locks
  `MESSAGES` to put it in;
* `mainLoop`: the next step of `main_loop`. A batch of replies holds `MESSAGES` from the step that
  starts it to the one that clears it. A `send_message` takes two steps, until the node's answer
  and from there to the insertion of the id;
* `stop`: `running` is found to be false at the top of the loop.

What the node answers, and what the clock reads at the two calls of `Utc::now`, come with the
event.

* `accounted_step`: the messages that were forwarded are the ones answered or passed over so far
  and those that wait, in this order, and there is one pong for each ping among the former. The
  batch holds the lock, so what it clears is what it looked at.
* `scheduled_step`: pings are sent on the blocks whose second bit is clear.
-/

namespace GraphcastSdk

/-- `SimpleMessage::new("table", "Pong")`. -/
def pong : SimpleMessage := ⟨"table", "Pong"⟩

/-- `msg.content == *"Ping"`. -/
def SimpleMessage.isPing (m : SimpleMessage) : Bool := m.content == "Ping"

namespace PingPong

/-- What the receiver gets out of a message. The readers of its fields have no panic to return. -/
def decoded (m : WakuMessage) : Option SimpleMessage :=
  match GraphcastMessage.decode simpleCodec m.payload with
  | .ok m => some m.payload
  | .err _ => none
  | .panic _ => none

/-- Where `main_loop` is. -/
inductive Loop where
  | top
  /-- Before the `send_message` of a ping. -/
  | ping
  /-- In a batch that holds `MESSAGES`, before the first message of `rest`. -/
  | replies (rest : List SimpleMessage)
  /-- In a `send_message`, before it inserts `id`; then in the batch, or at the top. -/
  | recording (id : String) (batch : Option (List SimpleMessage))
  | stopped
  /-- With what was left of the batch. -/
  | panicked (batch : Option (List SimpleMessage))
  deriving DecidableEq

/-- What is left of a batch, which holds `MESSAGES`. -/
def Loop.batch : Loop → Option (List SimpleMessage)
  | top => none
  | ping => none
  | replies rest => some rest
  | recording _ batch => batch
  | stopped => none
  | panicked batch => batch

/-- After a `send_message`. -/
def Loop.resumed : Option (List SimpleMessage) → Loop
  | none => top
  | some rest => replies rest

structure Radio (W : Type) where
  agent : GraphcastAgent W
  /-- How many messages of the channel the receiver has taken. -/
  received : Nat
  /-- The one it decoded and has not put into `MESSAGES`. -/
  hand : Option SimpleMessage
  messages : List SimpleMessage
  /-- An `i32` that only counts up. -/
  blockNumber : Nat
  loop : Loop
  /-- The payloads that `main_loop` handed to `send_message`. -/
  sent : List SimpleMessage

/-- What the node publishes, with the ids it gives out. -/
abbrev Outbox := List (String × WakuMessage)

namespace Radio

variable {W : Type} (signer : Signer SimpleMessage W)

/-- Before the first block. -/
def start (agent : GraphcastAgent W) : Radio W := ⟨agent, 0, none, [], 0, .top, []⟩

/-- The same radio with another shared state of its agent. -/
def withShared (self : Radio W) (shared : Agent) : Radio W :=
  { self with agent := { self.agent with shared } }

/-- `agent.send_message(agent.content_identifiers().first().unwrap(), msg, …)`, up to the node's
answer; `batch` is what is left of a batch afterwards. -/
def sendMessage (publish : WakuMessage → String → Except String String) (now now' : Int64)
    (self : Radio W) (msg : SimpleMessage) (batch : Option (List SimpleMessage)) :
    Radio W × Outbox :=
  match self.agent.shared.contentTopics with
  | [] => ({ self with loop := .panicked self.loop.batch }, [])
  | topic :: _ =>
    let called := { self with sent := self.sent ++ [msg] }
    let call := self.agent.sendMessage signer simpleCodec publish topic.contentTopicName msg
      now.toUInt64 now'
    match call.result with
    | .ok id =>
      ({ called with
          agent := { self.agent with
            shared := { self.agent.shared with
              published := self.agent.shared.published ++ [id]
              sending := self.agent.shared.sending ++ [id] } }
          loop := .recording id batch },
        call.published.map fun p => (id, p.1))
    | .err _ => ({ called with loop := .resumed batch }, [])
    | .panic _ => ({ called with loop := .panicked batch }, [])

/-- The next step of `main_loop`. -/
def mainLoop (publish : WakuMessage → String → Except String String) (now now' : Int64)
    (self : Radio W) : Option (Radio W × Outbox) :=
  match self.loop with
  | .top =>
    if self.blockNumber + 1 < 2 ^ 31 then
      if (self.blockNumber + 1) &&& 2 = 0 then
        some ({ self with blockNumber := self.blockNumber + 1, loop := .ping }, [])
      else
        some ({ self with
          blockNumber := self.blockNumber + 1, loop := .replies self.messages }, [])
    else some ({ self with loop := .panicked none }, [])
  | .ping => some (self.sendMessage signer publish now now' ping none)
  | .replies (msg :: rest) =>
    if msg.isPing then some (self.sendMessage signer publish now now' pong (some rest))
    else some ({ self with loop := .replies rest }, [])
  | .replies [] => some ({ self with messages := [], loop := .top }, [])
  | .recording id batch =>
    (self.agent.shared.step (.record id)).map fun shared =>
      ({ self.withShared shared with loop := .resumed batch }, [])
  | .stopped => none
  | .panicked _ => none

/-- `receiver.recv()`, and `decode` of what it returns. -/
def receive (self : Radio W) : Option (Radio W) :=
  match self.hand, self.agent.shared.channel[self.received]? with
  | none, some (_, m) => some { self with received := self.received + 1, hand := decoded m }
  | _, _ => none

/-- `radio_handler`, once `MESSAGES` is free. -/
def radioHandler (self : Radio W) : Option (Radio W) :=
  match self.hand, self.loop.batch with
  | some msg, none => some { self with hand := none, messages := self.messages ++ [msg] }
  | _, _ => none

inductive Event where
  | signal (id : String) (m : WakuMessage)
  | receive
  | radioHandler
  | mainLoop (publish : WakuMessage → String → Except String String) (now now' : Int64)
  | stop

/-- A step, with what the node publishes in it. The other threads may go on for a while after
`main_loop` has ended. -/
def step (self : Radio W) : Event → Option (Radio W × Outbox)
  | .signal id m =>
    (self.agent.shared.step (.signal ⟨.wakuMessage id m, ""⟩ [])).map fun shared =>
      (self.withShared shared, [])
  | .receive => self.receive.map fun s => (s, [])
  | .radioHandler => self.radioHandler.map fun s => (s, [])
  | .mainLoop publish now now' => self.mainLoop signer publish now now'
  | .stop => if self.loop = .top then some ({ self with loop := .stopped }, []) else none

/-! ## What waits, and what was answered -/

/-- The messages of `MESSAGES` that `main_loop` has not looked at. -/
def unseen (self : Radio W) : List SimpleMessage := self.loop.batch.getD self.messages

/-- The messages that were forwarded, as far as they decode. -/
def forwarded (self : Radio W) : List SimpleMessage :=
  self.agent.shared.channel.filterMap fun p => decoded p.2

/-- Those not looked at: in `MESSAGES`, with the receiver, or still in the channel. -/
def waiting (self : Radio W) : List SimpleMessage :=
  self.unseen ++ self.hand.toList ++
    (self.agent.shared.channel.drop self.received).filterMap fun p => decoded p.2

/-- **Every message that was forwarded is waiting, or was looked at once, in its turn.** There is
one pong for each ping among the ones looked at. -/
def Accounted (self : Radio W) : Prop :=
  ∃ done, self.forwarded = done ++ self.waiting ∧
    self.sent.count pong = done.countP SimpleMessage.isPing

end Radio

/-! ## One `send_message` -/

variable {W : Type} {signer : Signer SimpleMessage W}

/-- What is published decodes to the payload that was sent. -/
theorem decoded_published {agent : GraphcastAgent W}
    {publish : WakuMessage → String → Except String String} {identifier pubsubTopic : String}
    {msg : SimpleMessage} {nonce : UInt64} {currentTime : Int64} {w : WakuMessage}
    (h : (w, pubsubTopic) ∈ (agent.sendMessage signer simpleCodec publish identifier msg nonce
      currentTime).published) : decoded w = some msg := by
  obtain ⟨m, hprepared, hwaku, -⟩ := GraphcastAgent.mem_published_sendMessage h
  obtain ⟨-, hm⟩ := GraphcastAgent.prepareMessage_eq_ok.mp hprepared
  obtain ⟨hlen, hbytes⟩ := GraphcastMessage.toWaku_eq_ok.mp hwaku
  obtain ⟨sig, -, hfields⟩ := GraphcastMessage.build_eq_ok.mp (Outcome.mapErr_eq_ok.mp hm)
  have hdecode : GraphcastMessage.decode simpleCodec w.payload = .ok m := by
    rw [hbytes]
    exact GraphcastMessage.decode_encodeRaw roundTrips_simpleCodec hlen
  unfold decoded
  rw [hdecode, hfields]

/-- Nothing or one message is published. -/
theorem length_published_le {agent : GraphcastAgent W}
    {publish : WakuMessage → String → Except String String} {identifier : String}
    {msg : SimpleMessage} {nonce : UInt64} {currentTime : Int64} :
    (agent.sendMessage signer simpleCodec publish identifier msg nonce
      currentTime).published.length ≤ 1 := by
  cases h : (agent.sendMessage signer simpleCodec publish identifier msg nonce
    currentTime).published with
  | nil => exact Nat.zero_le 1
  | cons x rest =>
    obtain ⟨m, hprepared, hwaku, -⟩ := GraphcastAgent.mem_published_sendMessage
      (h ▸ List.mem_cons_self : x ∈ _)
    rw [← h, GraphcastAgent.published_sendMessage hprepared hwaku]
    exact Nat.le_refl 1

namespace Radio

variable {s s' : Radio W} {out : Outbox}

/-- What a `send_message` of `msg` makes of a radio, and what the node publishes in it. -/
inductive SendStep (s : Radio W) (msg : SimpleMessage) (batch : Option (List SimpleMessage)) :
    Radio W × Outbox → Prop
  | noTopic (htopics : s.agent.shared.contentTopics = []) :
    SendStep s msg batch ({ s with loop := .panicked s.loop.batch }, [])
  | called {shared : Agent} {loop : Loop} {out : Outbox}
    (htopics : s.agent.shared.contentTopics ≠ [])
    (hchannel : shared.channel = s.agent.shared.channel)
    (hseen : shared.seenMsgIds = s.agent.shared.seenMsgIds)
    (htopics' : shared.contentTopics = s.agent.shared.contentTopics)
    (hbatch : loop.batch = batch) (hloop : loop ≠ .ping) (hlen : out.length ≤ 1)
    (hout : ∀ p ∈ out, decoded p.2 = some msg) :
    SendStep s msg batch ({ s.withShared shared with loop, sent := s.sent ++ [msg] }, out)

theorem sendStep_sendMessage (publish : WakuMessage → String → Except String String)
    (now now' : Int64) (s : Radio W) (msg : SimpleMessage) (batch : Option (List SimpleMessage)) :
    SendStep s msg batch (s.sendMessage signer publish now now' msg batch) := by
  have hresumed : (Loop.resumed batch).batch = batch ∧ Loop.resumed batch ≠ .ping := by
    cases batch <;> exact ⟨rfl, by simp [Loop.resumed]⟩
  unfold sendMessage
  split
  · rename_i htopics
    exact .noTopic htopics
  · rename_i topic topics htopics
    have hne : s.agent.shared.contentTopics ≠ [] := by simp [htopics]
    dsimp only
    split
    · refine .called hne rfl rfl rfl rfl (by simp) ?_ fun p hp => ?_
      · rw [List.length_map]
        exact length_published_le
      · obtain ⟨⟨w, pubsubTopic⟩, hw, rfl⟩ := List.mem_map.mp hp
        exact decoded_published hw
    · exact .called hne rfl rfl rfl hresumed.1 hresumed.2 (Nat.zero_le 1) (by simp)
    · exact .called hne rfl rfl rfl rfl (by simp) (Nat.zero_le 1) (by simp)

/-! ## What a step does -/

/-- The steps, each with what makes it possible. -/
inductive Step (signer : Signer SimpleMessage W) (s : Radio W) : Event → Radio W × Outbox → Prop
  | signal {id : String} {m : WakuMessage} {shared : Agent}
    (h : s.agent.shared.step (.signal ⟨.wakuMessage id m, ""⟩ []) = some shared) :
    Step signer s (.signal id m) (s.withShared shared, [])
  | receive {id : String} {m : WakuMessage} (hhand : s.hand = none)
    (hnext : s.agent.shared.channel[s.received]? = some (id, m)) :
    Step signer s .receive ({ s with received := s.received + 1, hand := decoded m }, [])
  | radioHandler {msg : SimpleMessage} (hhand : s.hand = some msg) (hfree : s.loop.batch = none) :
    Step signer s .radioHandler ({ s with hand := none, messages := s.messages ++ [msg] }, [])
  | overflow {publish : WakuMessage → String → Except String String} {now now' : Int64}
    (hloop : s.loop = .top) (hblock : ¬ s.blockNumber + 1 < 2 ^ 31) :
    Step signer s (.mainLoop publish now now') ({ s with loop := .panicked none }, [])
  | pingBlock {publish : WakuMessage → String → Except String String} {now now' : Int64}
    (hloop : s.loop = .top) (hblock : s.blockNumber + 1 < 2 ^ 31)
    (hbit : (s.blockNumber + 1) &&& 2 = 0) :
    Step signer s (.mainLoop publish now now')
      ({ s with blockNumber := s.blockNumber + 1, loop := .ping }, [])
  | replyBlock {publish : WakuMessage → String → Except String String} {now now' : Int64}
    (hloop : s.loop = .top) (hblock : s.blockNumber + 1 < 2 ^ 31)
    (hbit : (s.blockNumber + 1) &&& 2 ≠ 0) :
    Step signer s (.mainLoop publish now now')
      ({ s with blockNumber := s.blockNumber + 1, loop := .replies s.messages }, [])
  | ping {publish : WakuMessage → String → Except String String} {now now' : Int64}
    {r : Radio W × Outbox} (hloop : s.loop = .ping) (hsend : SendStep s ping none r) :
    Step signer s (.mainLoop publish now now') r
  | reply {publish : WakuMessage → String → Except String String} {now now' : Int64}
    {msg : SimpleMessage} {rest : List SimpleMessage} {r : Radio W × Outbox}
    (hloop : s.loop = .replies (msg :: rest)) (hping : msg.isPing = true)
    (hsend : SendStep s pong (some rest) r) :
    Step signer s (.mainLoop publish now now') r
  | passOver {publish : WakuMessage → String → Except String String} {now now' : Int64}
    {msg : SimpleMessage} {rest : List SimpleMessage}
    (hloop : s.loop = .replies (msg :: rest)) (hping : msg.isPing = false) :
    Step signer s (.mainLoop publish now now') ({ s with loop := .replies rest }, [])
  | clear {publish : WakuMessage → String → Except String String} {now now' : Int64}
    (hloop : s.loop = .replies []) :
    Step signer s (.mainLoop publish now now') ({ s with messages := [], loop := .top }, [])
  | record {publish : WakuMessage → String → Except String String} {now now' : Int64}
    {id : String} {batch : Option (List SimpleMessage)} {shared : Agent}
    (hloop : s.loop = .recording id batch) (h : s.agent.shared.step (.record id) = some shared) :
    Step signer s (.mainLoop publish now now')
      ({ s.withShared shared with loop := .resumed batch }, [])
  | stop (hloop : s.loop = .top) : Step signer s .stop ({ s with loop := .stopped }, [])

theorem step_of_step {e : Event} {r : Radio W × Outbox} (h : s.step signer e = some r) :
    Step signer s e r := by
  cases e with
  | signal id m =>
    simp only [step, Option.map_eq_some_iff] at h
    obtain ⟨shared, hshared, rfl⟩ := h
    exact .signal hshared
  | receive =>
    simp only [step, Option.map_eq_some_iff] at h
    obtain ⟨s', hs', rfl⟩ := h
    unfold receive at hs'
    split at hs'
    · rename_i id m hhand hnext
      exact Option.some.inj hs' ▸ .receive hhand hnext
    · exact absurd hs' (by simp)
  | radioHandler =>
    simp only [step, Option.map_eq_some_iff] at h
    obtain ⟨s', hs', rfl⟩ := h
    unfold radioHandler at hs'
    split at hs'
    · rename_i msg hhand hfree
      exact Option.some.inj hs' ▸ .radioHandler hhand hfree
    · exact absurd hs' (by simp)
  | mainLoop publish now now' =>
    have h : s.mainLoop signer publish now now' = some r := h
    unfold mainLoop at h
    split at h
    · rename_i hloop
      split at h
      · rename_i hblock
        split at h
        · rename_i hbit
          exact Option.some.inj h ▸ .pingBlock hloop hblock hbit
        · rename_i hbit
          exact Option.some.inj h ▸ .replyBlock hloop hblock hbit
      · rename_i hblock
        exact Option.some.inj h ▸ .overflow hloop hblock
    · rename_i hloop
      exact Option.some.inj h ▸ .ping hloop (sendStep_sendMessage publish now now' s _ _)
    · rename_i msg rest hloop
      split at h
      · rename_i hping
        exact Option.some.inj h ▸ .reply hloop hping (sendStep_sendMessage publish now now' s _ _)
      · rename_i hping
        exact Option.some.inj h ▸ .passOver hloop (Bool.not_eq_true _ ▸ hping)
    · rename_i hloop
      exact Option.some.inj h ▸ .clear hloop
    · rename_i id batch hloop
      obtain ⟨shared, hshared, rfl⟩ := Option.map_eq_some_iff.mp h
      exact .record hloop hshared
    · exact absurd h (by simp)
    · exact absurd h (by simp)
  | stop =>
    simp only [step] at h
    split at h
    · rename_i hloop
      exact Option.some.inj h ▸ .stop hloop
    · exact absurd h (by simp)

/-! ## Every message once -/

/-- A signal adds nothing to the channel, or the message it carries. -/
theorem channel_signal {a a' : Agent} {id : String} {m : WakuMessage}
    (h : a.step (.signal ⟨.wakuMessage id m, ""⟩ []) = some a') :
    ∃ more, a'.channel = a.channel ++ more ∧ ∀ p ∈ more, p = (id, m) := by
  obtain rfl := Option.some.inj h
  refine ⟨_, rfl, fun p hp => ?_⟩
  rcases Agent.forwarded_cases ⟨.wakuMessage id m, ""⟩ (a.verdict ⟨.wakuMessage id m, ""⟩ []) with
    hf | ⟨i, m', m'', he, hok, hf⟩
  · rw [hf] at hp
    exact absurd hp (by simp)
  · obtain ⟨i', he', -, -⟩ := Agent.verdict_eq_ok.mp hok
    obtain ⟨rfl, rfl⟩ := WakuEvent.wakuMessage.inj he'
    obtain ⟨rfl, -⟩ := WakuEvent.wakuMessage.inj he
    rw [hf] at hp
    exact List.mem_singleton.mp hp

theorem channel_record {a a' : Agent} {id : String} (h : a.step (.record id) = some a') :
    a'.channel = a.channel ∧ a'.contentTopics = a.contentTopics := by
  simp only [Agent.step] at h
  split at h
  · obtain rfl := Option.some.inj h
    exact ⟨rfl, rfl⟩
  · exact absurd h (by simp)

@[simp] theorem batch_resumed (batch : Option (List SimpleMessage)) :
    (Loop.resumed batch).batch = batch := by
  cases batch <;> rfl

/-- More messages were forwarded, and they wait behind the others. -/
theorem Accounted.append (more : List SimpleMessage) (h : s.Accounted)
    (hforwarded : s'.forwarded = s.forwarded ++ more) (hwaiting : s'.waiting = s.waiting ++ more)
    (hsent : s'.sent.count pong = s.sent.count pong) : s'.Accounted := by
  obtain ⟨done, hdone, hcount⟩ := h
  refine ⟨done, ?_, hsent.trans hcount⟩
  rw [hforwarded, hwaiting, hdone, List.append_assoc]

/-- The first of the waiting messages was looked at. -/
theorem Accounted.cons (msg : SimpleMessage) (h : s.Accounted)
    (hforwarded : s'.forwarded = s.forwarded) (hwaiting : s.waiting = msg :: s'.waiting)
    (hsent : s'.sent.count pong = s.sent.count pong + if msg.isPing then 1 else 0) :
    s'.Accounted := by
  obtain ⟨done, hdone, hcount⟩ := h
  refine ⟨done ++ [msg], ?_, ?_⟩
  · rw [hforwarded, hdone, hwaiting, List.append_assoc]
    rfl
  · rw [hsent, hcount, List.countP_append, List.countP_singleton]

/-- Nothing that is counted has changed. -/
theorem Accounted.kept (h : s.Accounted) {shared : Agent} (hshared : s'.agent.shared = shared)
    (hchannel : shared.channel = s.agent.shared.channel) (hreceived : s'.received = s.received)
    (hhand : s'.hand = s.hand) (hunseen : s'.unseen = s.unseen)
    (hsent : s'.sent.count pong = s.sent.count pong) : s'.Accounted := by
  subst hshared
  refine h.append [] ?_ ?_ hsent
  · unfold forwarded
    rw [hchannel, List.append_nil]
  · unfold waiting
    rw [hchannel, hreceived, hhand, hunseen, List.append_nil]

/-- **A step keeps account of every message.** -/
theorem accounted_step {e : Event} {r : Radio W × Outbox} (h : Step signer s e r)
    (hreceived : s.received ≤ s.agent.shared.channel.length) (ha : s.Accounted) :
    r.1.Accounted := by
  cases h with
  | @signal id m shared hshared =>
    obtain ⟨more, hmore, -⟩ := channel_signal hshared
    refine ha.append (more.filterMap fun p => decoded p.2) ?_ ?_ rfl
    · show shared.channel.filterMap _ = s.agent.shared.channel.filterMap _ ++ _
      rw [hmore, List.filterMap_append]
    · show s.unseen ++ s.hand.toList ++ (shared.channel.drop s.received).filterMap _ =
        s.waiting ++ _
      rw [hmore, List.drop_append_of_le_length hreceived, List.filterMap_append,
        ← List.append_assoc]
      rfl
  | @receive id m hhand hnext =>
    refine ha.append [] (List.append_nil _).symm ?_ rfl
    obtain ⟨hlt, hget⟩ := List.getElem?_eq_some_iff.mp hnext
    rw [List.append_nil]
    show s.unseen ++ (decoded m).toList ++
        (s.agent.shared.channel.drop (s.received + 1)).filterMap _ =
      s.unseen ++ s.hand.toList ++ (s.agent.shared.channel.drop s.received).filterMap _
    rw [hhand, List.drop_eq_getElem_cons hlt, hget, Option.toList_none, List.append_nil,
      List.append_assoc]
    congr 1
    cases hm : decoded m <;> simp [hm]
  | @radioHandler msg hhand hfree =>
    refine ha.append [] (List.append_nil _).symm ?_ rfl
    rw [List.append_nil]
    show (s.loop.batch.getD (s.messages ++ [msg])) ++ [] ++ _ =
      s.loop.batch.getD s.messages ++ s.hand.toList ++ _
    rw [hfree, hhand, List.append_nil]
    rfl
  | overflow hloop hblock =>
    exact ha.kept rfl rfl rfl rfl (by simp [unseen, hloop, Loop.batch]) rfl
  | pingBlock hloop hblock hbit =>
    exact ha.kept rfl rfl rfl rfl (by simp [unseen, hloop, Loop.batch]) rfl
  | replyBlock hloop hblock hbit =>
    exact ha.kept rfl rfl rfl rfl (by simp [unseen, hloop, Loop.batch]) rfl
  | ping hloop hsend =>
    have hcount : (s.sent ++ [ping]).count pong = s.sent.count pong := by
      rw [List.count_append, show [ping].count pong = 0 from by decide, Nat.add_zero]
    cases hsend with
    | noTopic htopics => exact ha.kept rfl rfl rfl rfl rfl rfl
    | @called shared loop out htopics hchannel hseen htopics' hbatch hloop' hlen hout =>
      have hunseen : loop.batch.getD s.messages = s.unseen := by
        rw [hbatch, unseen, hloop]
        rfl
      exact ha.kept rfl hchannel rfl rfl hunseen hcount
  | @reply _ _ _ msg rest r hloop hping hsend =>
    cases hsend with
    | noTopic htopics => exact ha.kept rfl rfl rfl rfl rfl rfl
    | @called shared loop out htopics hchannel hseen htopics' hbatch hloop' hlen hout =>
      have hforwarded : shared.channel.filterMap (fun p => decoded p.2) = s.forwarded := by
        rw [hchannel]
        rfl
      refine ha.cons msg hforwarded ?_ ?_
      · show s.unseen ++ s.hand.toList ++ _ = msg :: (loop.batch.getD s.messages ++
          s.hand.toList ++ (shared.channel.drop s.received).filterMap fun p => decoded p.2)
        rw [hbatch, hchannel, unseen, hloop]
        rfl
      · rw [hping, if_pos rfl]
        exact List.count_append
  | @passOver _ _ _ msg rest hloop hping =>
    refine ha.cons msg rfl ?_ ?_
    · unfold waiting unseen
      rw [hloop]
      rfl
    · rw [hping, if_neg Bool.false_ne_true]
      rfl
  | clear hloop =>
    exact ha.kept rfl rfl rfl rfl (by simp [unseen, hloop, Loop.batch]) rfl
  | @record _ _ _ id batch shared hloop hshared =>
    have hunseen : (Loop.resumed batch).batch.getD s.messages = s.unseen := by
      rw [batch_resumed, unseen, hloop]
      rfl
    exact ha.kept rfl (channel_record hshared).1 rfl rfl hunseen rfl
  | stop hloop =>
    exact ha.kept rfl rfl rfl rfl (by simp [unseen, hloop, Loop.batch]) rfl

/-! ## When pings are sent -/

/-- `block_number & 2 == 0`. -/
theorem land_two_eq_zero (n : Nat) : n &&& 2 = 0 ↔ n % 4 < 2 := by
  have hbit : n &&& 2 = n / 2 % 2 * 2 := by
    rw [← Nat.pow_one 2, Nat.and_two_pow, Nat.toNat_testBit]
  omega

/-- How many of the first `n` blocks are due for a ping. -/
def pingBlocks (n : Nat) : Nat := (List.range' 1 n).countP fun block => block % 4 < 2

theorem pingBlocks_succ (n : Nat) :
    pingBlocks (n + 1) = pingBlocks n + if (n + 1) &&& 2 = 0 then 1 else 0 := by
  unfold pingBlocks
  rw [List.range'_1_concat, List.countP_append, List.countP_singleton, Nat.add_comm 1 n]
  simp only [decide_eq_true_eq, land_two_eq_zero]

/-- The pings sent, and one that is about to be, are those due so far. -/
def Scheduled (s : Radio W) : Prop :=
  (∀ batch, s.loop ≠ .panicked batch) →
    s.sent.count ping + (if s.loop = .ping then 1 else 0) = pingBlocks s.blockNumber

theorem Scheduled.count (hs : s.Scheduled) (hping : s.loop ≠ .ping)
    (hpanicked : ∀ batch, s.loop ≠ .panicked batch) :
    s.sent.count ping = pingBlocks s.blockNumber := by
  have h := hs hpanicked
  rwa [if_neg hping, Nat.add_zero] at h

theorem scheduled_of_count (hping : s.loop ≠ .ping)
    (h : s.sent.count ping = pingBlocks s.blockNumber) : s.Scheduled := by
  intro _
  rwa [if_neg hping, Nat.add_zero]

theorem scheduled_step {e : Event} {r : Radio W × Outbox} (h : Step signer s e r)
    (hs : s.Scheduled) : r.1.Scheduled := by
  cases h with
  | signal hshared => exact hs
  | receive hhand hnext => exact hs
  | radioHandler hhand hfree => exact hs
  | overflow hloop hblock => exact fun hp => absurd rfl (hp none)
  | pingBlock hloop hblock hbit =>
    intro _
    rw [pingBlocks_succ, if_pos hbit, ← hs.count (by simp [hloop]) (by simp [hloop])]
    rfl
  | replyBlock hloop hblock hbit =>
    refine scheduled_of_count (by simp) ?_
    rw [pingBlocks_succ, if_neg hbit, ← hs.count (by simp [hloop]) (by simp [hloop])]
    rfl
  | ping hloop hsend =>
    cases hsend with
    | noTopic htopics => exact fun hp => absurd rfl (hp s.loop.batch)
    | called htopics hchannel hseen htopics' hbatch hloop' hlen hout =>
      refine scheduled_of_count hloop' ?_
      have hdue := hs (by simp [hloop])
      rw [if_pos hloop] at hdue
      rw [List.count_append, List.count_singleton_self]
      exact hdue
  | reply hloop hping hsend =>
    cases hsend with
    | noTopic htopics => exact fun hp => absurd rfl (hp s.loop.batch)
    | called htopics hchannel hseen htopics' hbatch hloop' hlen hout =>
      refine scheduled_of_count hloop' ?_
      rw [List.count_append, show [pong].count ping = 0 from by decide]
      exact hs.count (by simp [hloop]) (by simp [hloop])
  | passOver hloop hping =>
    exact scheduled_of_count (by simp) (hs.count (by simp [hloop]) (by simp [hloop]))
  | clear hloop =>
    exact scheduled_of_count (by simp) (hs.count (by simp [hloop]) (by simp [hloop]))
  | @record _ _ _ id batch shared hloop hshared =>
    exact scheduled_of_count (by cases batch <;> simp [Loop.resumed])
      (hs.count (by simp [hloop]) (by simp [hloop]))
  | stop hloop =>
    exact scheduled_of_count (by simp) (hs.count (by simp [hloop]) (by simp [hloop]))

/-! ## The invariant -/

structure Inv (s : Radio W) : Prop where
  shared : Agent.Inv s.agent.shared
  received : s.received ≤ s.agent.shared.channel.length
  accounted : s.Accounted
  scheduled : s.Scheduled

theorem inv_start {agent : GraphcastAgent W} (h : Agent.Inv agent.shared)
    (hchannel : agent.shared.channel = []) : Inv (start agent) where
  shared := h
  received := Nat.zero_le _
  accounted := by
    refine ⟨[], ?_, rfl⟩
    simp [forwarded, waiting, start, unseen, Loop.batch, hchannel]
  scheduled := scheduled_of_count (by simp [start]) rfl

/-- A step keeps the channel of the agent, or puts the message of a signal behind it. -/
theorem channel_step {e : Event} {r : Radio W × Outbox} (h : Step signer s e r) :
    ∃ more, r.1.agent.shared.channel = s.agent.shared.channel ++ more ∧
      ∀ p ∈ more, e = .signal p.1 p.2 := by
  have hkept : ∃ more, s.agent.shared.channel = s.agent.shared.channel ++ more ∧
      ∀ p ∈ more, e = .signal p.1 p.2 := ⟨[], (List.append_nil _).symm, by simp⟩
  have hsent : ∀ {msg batch r}, SendStep s msg batch r →
      r.1.agent.shared.channel = s.agent.shared.channel := by
    intro msg batch r hsend
    cases hsend with
    | noTopic htopics => rfl
    | called htopics hchannel => exact hchannel
  cases h with
  | signal hshared =>
    obtain ⟨more, hmore, hp⟩ := channel_signal hshared
    exact ⟨more, hmore, fun p hmem => by rw [hp p hmem]⟩
  | ping hloop hsend => exact hsent hsend ▸ hkept
  | reply hloop hping hsend => exact hsent hsend ▸ hkept
  | record hloop hshared =>
    obtain ⟨more, hmore, hp⟩ := hkept
    exact ⟨more, (channel_record hshared).1.trans hmore, hp⟩
  | _ => exact hkept

theorem shared_step {e : Event} {r : Radio W × Outbox} (h : Step signer s e r)
    (hi : Agent.Inv s.agent.shared) : Agent.Inv r.1.agent.shared := by
  have hsent : ∀ {msg batch r}, SendStep s msg batch r → Agent.Inv r.1.agent.shared := by
    intro msg batch r hsend
    cases hsend with
    | noTopic htopics => exact hi
    | @called shared loop out htopics hchannel hseen =>
      refine ⟨?_, ?_⟩
      · show (shared.channel.map Prod.fst).Nodup
        rw [hchannel]
        exact hi.distinct
      · show ∀ id ∈ shared.channel.map Prod.fst, id ∈ shared.seenMsgIds
        rw [hchannel, hseen]
        exact hi.seen
  cases h with
  | signal hshared => exact Agent.inv_step hi hshared
  | ping hloop hsend => exact hsent hsend
  | reply hloop hping hsend => exact hsent hsend
  | record hloop hshared => exact Agent.inv_step hi hshared
  | _ => exact hi

/-- The receiver takes what is there. -/
theorem received_step {e : Event} {r : Radio W × Outbox} (h : Step signer s e r)
    (hr : s.received ≤ s.agent.shared.channel.length) :
    r.1.received ≤ r.1.agent.shared.channel.length := by
  have hlen : s.received ≤ r.1.agent.shared.channel.length := by
    obtain ⟨more, hmore, -⟩ := channel_step h
    rw [hmore, List.length_append]
    omega
  cases h with
  | receive hhand hnext =>
    obtain ⟨hlt, -⟩ := List.getElem?_eq_some_iff.mp hnext
    exact hlt
  | ping hloop hsend => cases hsend <;> exact hlen
  | reply hloop hping hsend => cases hsend <;> exact hlen
  | _ => exact hlen

theorem inv_step {e : Event} {r : Radio W × Outbox} (h : Step signer s e r) (hi : Inv s) :
    Inv r.1 where
  shared := shared_step h hi.shared
  received := received_step h hi.received
  accounted := accounted_step h hi.received hi.accounted
  scheduled := scheduled_step h hi.scheduled

/-! ## What the node publishes -/

/-- The message decodes to a ping. -/
def carriesPing (p : String × WakuMessage) : Bool := (decoded p.2).any SimpleMessage.isPing

/-- **A pong answers no pong**: what is published in a step decodes to a ping only when a ping was
sent in it. -/
theorem pings_step {e : Event} {r : Radio W × Outbox} (h : Step signer s e r) :
    r.2.countP carriesPing + s.sent.count ping ≤ r.1.sent.count ping := by
  have hnone : ∀ {x : Radio W}, x.sent = s.sent →
      ([] : Outbox).countP carriesPing + s.sent.count ping ≤ x.sent.count ping := by
    intro x hx
    rw [hx, List.countP_nil, Nat.zero_add]
  cases h with
  | ping hloop hsend =>
    cases hsend with
    | noTopic htopics => exact hnone rfl
    | @called shared loop out htopics hchannel hseen htopics' hbatch hloop' hlen hout =>
      have hle : out.countP carriesPing ≤ out.length := List.countP_le_length
      rw [List.count_append, List.count_singleton_self]
      dsimp only
      omega
  | reply hloop hping hsend =>
    cases hsend with
    | noTopic htopics => exact hnone rfl
    | @called shared loop out htopics hchannel hseen htopics' hbatch hloop' hlen hout =>
      have hzero : out.countP carriesPing = 0 := by
        refine List.countP_eq_zero.mpr fun p hp => ?_
        rw [carriesPing, hout p hp]
        decide
      rw [List.count_append]
      dsimp only
      omega
  | _ => exact hnone rfl

end Radio

end PingPong

end GraphcastSdk

import GraphcastSdk.Lib.Locks
import GraphcastSdk.PingPong
import Mathlib.Data.Fintype.Card

/-!
# The locks

Source: `graphcast_agent/mod.rs`, `waku_handling.rs`, `message_typing.rs`, `examples/ping-pong`.

The functions that take a lock, each with the locks it takes: the callback of the node, the methods
of the agent that a radio calls, the nonce check, and the two threads of ping-pong, whose
`main_loop` holds `MESSAGES` while it sends. What they find under a lock, what the node answers and
what the clock reads is up to the service; what they write there is in `Agent`, `Receiver` and
`PingPong`.

* `outcome_handleSignal`, `outcome_sendMessage`, `outcome_validNonce`: with the locks left out
  these are `handleSignal`, `sendMessage` and `validNonce`.
* `no_deadlock`: whatever number of threads does whatever of this, none is blocked for good.
* `no_poison`: no thread panics under a lock of the agent or of the nonces, so their `unwrap`s do
  not panic and the branches for a poisoned lock are never taken. `MESSAGES` can be poisoned; what
  finds it so panics at once, which is left out.
-/

namespace GraphcastSdk

open Calls (Service Calling)
open Locks (Op Orders Performs withLock)

/-- The locks, in the order in which they are taken. -/
inductive Lock where
  /-- `MESSAGES` of ping-pong. -/
  | messages
  /-- The nonces of `check_message_validity`. -/
  | nonces
  | seenMsgIds
  | contentTopics
  deriving Repr, DecidableEq

namespace Lock

def rank : Lock → Nat
  | messages => 0
  | nonces => 1
  | seenMsgIds => 2
  | contentTopics => 3

theorem rank_injective : Function.Injective rank := by
  intro a b h
  cases a <;> cases b <;> first | rfl | exact absurd h (by decide)

instance : LinearOrder Lock := LinearOrder.lift' rank rank_injective

instance : Fintype Lock where
  elems := {messages, nonces, seenMsgIds, contentTopics}
  complete l := by cases l <;> decide

end Lock

/-- What is found under the locks, what the node answers, and what the clock reads. -/
structure Found where
  messages : List SimpleMessage
  nonces : NoncesMap
  seenMsgIds : Finset String
  contentTopics : List WakuContentTopic
  published : Except String String
  now : Int64

abbrev Locking (ε α : Type) := Calling (Op Lock) Found ε α

/-- The agent with these topics. -/
def GraphcastAgent.withTopics {W : Type} (self : GraphcastAgent W)
    (contentTopics : List WakuContentTopic) : GraphcastAgent W :=
  { self with shared := { self.shared with contentTopics } }

namespace Locking

variable {T W ε : Type}

/-! ## The functions -/

/-- `match_content_topic`. -/
def matchContentTopic (topic : WakuContentTopic) : Locking ε Bool :=
  withLock .contentTopics fun found =>
    pure (GraphcastSdk.matchContentTopic found.contentTopics topic)

/-- `handle_signal`. -/
def handleSignal (signal : Signal) : Locking WakuHandlingError WakuMessage :=
  match signal.event with
  | .wakuMessage msgId wakuMessage =>
    withLock .seenMsgIds fun found =>
      if msgId ∈ found.seenMsgIds then
        Calls.lift (.err (.invalidMessage ("Skip repeated message: " ++ Text.debugStr msgId)))
      else do
        let relevant ← matchContentTopic wakuMessage.contentTopic
        if !relevant then
          Calls.lift (.err (.invalidMessage
            ("Skip irrelevant content topic: " ++ wakuMessage.contentTopic.debug)))
        else pure wakuMessage
  | .unrecognized data =>
    Calls.lift (.err (.invalidMessage ("Unrecognized event!\n " ++ data)))
  | .other =>
    Calls.lift (.err (.invalidMessage ("Unrecognized signal!\n " ++ signal.serialized)))

/-- `content_topics`. -/
def contentTopics : Locking ε (List WakuContentTopic) :=
  withLock .contentTopics fun found => pure found.contentTopics

/-- `content_identifiers`. -/
def contentIdentifiers : Locking ε (List String) :=
  withLock .contentTopics fun found =>
    pure (found.contentTopics.map WakuContentTopic.contentTopicName)

/-- `update_content_topics`. -/
def updateContentTopics : Locking ε Unit := withLock .contentTopics fun _ => pure ()

/-- `Utc::now().timestamp()`. -/
def utcNow : Locking ε Int64 := do
  let found ← Calls.call .work
  pure found.now

/-- `send_message`. -/
def sendMessage (signer : Signer T W) (codec : PayloadCodec T) (self : GraphcastAgent W)
    (identifier : String) (payload : T) (nonce : UInt64) : Locking GraphcastAgentError String := do
  let topics ← contentTopics
  let prepared ← Calls.lift
    ((self.withTopics topics).prepareMessage signer identifier payload nonce)
  let currentTime ← utcNow
  let _wakuMessage ← Calls.lift
    ((prepared.2.toWaku codec prepared.1 currentTime).mapErr .wakuNodeError)
  -- `relay_publish_message`, under no lock of the agent
  let found ← Calls.call .work
  let id ← Calls.lift
    (Outcome.ofExcept (fun e => .wakuNodeError (.publishMessage e)) found.published)
  withLock .seenMsgIds fun _ => pure id

/-- `valid_nonce`. -/
def validNonce (ethers : Ethers T) (m : GraphcastMessage T) :
    Locking MessageError (GraphcastMessage T) := do
  let address ← Calls.lift (m.recoverSenderAddress ethers)
  withLock .nonces fun found => Calls.lift (m.lockedNonce address found.nonces).1

/-- `radio_handler` of ping-pong. -/
def radioHandler : Locking ε Unit := withLock .messages fun _ => pure ()

/-- `main_loop`'s way to send: to the first of the agent's topics, and an error is a line in the
log. -/
def sendFirst (signer : Signer SimpleMessage W) (agent : GraphcastAgent W) (msg : SimpleMessage) :
    Locking ε Unit := do
  let identifiers ← contentIdentifiers
  match identifiers.head? with
  | some identifier => do
    let nonce ← utcNow
    let _ ← Calls.attempt (sendMessage signer simpleCodec agent identifier msg nonce.toUInt64)
    pure ()
  | none => Calls.lift (.panic "called `Option::unwrap()` on a `None` value")

/-- The loop over `messages` in `main_loop`. -/
def reply (signer : Signer SimpleMessage W) (agent : GraphcastAgent W) (msg : SimpleMessage) :
    Locking ε Unit :=
  if msg.isPing then sendFirst signer agent pong else pure ()

/-- A turn of `main_loop`. -/
def turn (signer : Signer SimpleMessage W) (agent : GraphcastAgent W) (blockNumber : Nat) :
    Locking ε Unit :=
  if blockNumber &&& 2 = 0 then sendFirst signer agent ping
  else withLock .messages fun found => Calls.forEach (reply signer agent) found.messages

/-! ## Without the locks -/

theorem outcome_handleSignal (signal : Signal) (service : Service (Op Lock) Found)
    (made : List (Op Lock)) : (handleSignal signal service made).1 =
      (GraphcastSdk.handleSignal signal (service made (.lock .seenMsgIds)).seenMsgIds
        (service (made ++ [.lock .seenMsgIds]) (.lock .contentTopics)).contentTopics).1 := by
  unfold handleSignal GraphcastSdk.handleSignal
  cases signal.event with
  | unrecognized data => rfl
  | other => rfl
  | wakuMessage msgId m =>
    by_cases hseen : msgId ∈ (service made (.lock .seenMsgIds)).seenMsgIds
    · simp only [withLock, if_pos hseen]
      rfl
    · simp only [withLock, if_neg hseen]
      rw [Calls.bind_of_ok (show matchContentTopic m.contentTopic service _ = (.ok _, _) from rfl)]
      split
      · rfl
      · rfl

variable {signer : Signer T W} {codec : PayloadCodec T} {ethers : Ethers T}

/-- What `send_message` returns. -/
theorem result_sendMessage (self : GraphcastAgent W) (identifier : String) (payload : T)
    (nonce : UInt64) (currentTime : Int64)
    (publish : WakuMessage → String → Except String String) :
    (self.sendMessage signer codec publish identifier payload nonce currentTime).result = (do
      let prepared ← self.prepareMessage signer identifier payload nonce
      let wakuMessage ← (prepared.2.toWaku codec prepared.1 currentTime).mapErr .wakuNodeError
      Outcome.ofExcept (fun e => .wakuNodeError (.publishMessage e))
        (publish wakuMessage self.pubsubTopic)) := by
  unfold GraphcastAgent.sendMessage GraphcastMessage.sendToWaku
  cases self.prepareMessage signer identifier payload nonce with
  | err e => rfl
  | panic p => rfl
  | ok prepared =>
    cases h : prepared.2.toWaku codec prepared.1 currentTime with
    | err e => simp [h, Outcome.mapErr]
    | panic p => simp [h, Outcome.mapErr]
    | ok wakuMessage =>
      cases hp : publish wakuMessage self.pubsubTopic with
      | ok id => simp [h, hp, Outcome.mapErr, Outcome.ofExcept]
      | error e => simp [h, hp, Outcome.mapErr, Outcome.ofExcept]

/-- With the topics it finds, the clock it reads and the node's answer. -/
theorem outcome_sendMessage (agent : GraphcastAgent W) (identifier : String) (payload : T)
    (nonce : UInt64) (service : Service (Op Lock) Found) (made : List (Op Lock)) :
    (sendMessage signer codec agent identifier payload nonce service made).1 =
      ((agent.withTopics (service made (.lock .contentTopics)).contentTopics).sendMessage signer
        codec
        (fun _ _ => (service (made ++ [.lock .contentTopics, .unlock .contentTopics false, .work])
          .work).published)
        identifier payload nonce
        (service (made ++ [.lock .contentTopics, .unlock .contentTopics false])
          .work).now).result := by
  rw [result_sendMessage]
  unfold sendMessage
  rw [Calls.bind_of_ok (show contentTopics service made =
    (.ok _, made ++ [.lock .contentTopics] ++ [.unlock .contentTopics false]) from rfl),
    List.append_assoc]
  generalize agent.withTopics (service made (.lock .contentTopics)).contentTopics = self
  cases self.prepareMessage signer identifier payload nonce with
  | err e => rfl
  | panic p => rfl
  | ok prepared =>
    rw [Calls.bind_of_ok rfl, Calls.bind_of_ok (show utcNow service _ = (.ok _, _) from rfl),
      List.append_assoc]
    simp only [List.cons_append, List.nil_append, Outcome.ok_bind]
    cases (prepared.2.toWaku codec prepared.1 _).mapErr GraphcastAgentError.wakuNodeError with
    | err e => rfl
    | panic p => rfl
    | ok wakuMessage =>
      rw [Calls.bind_of_ok rfl,
        Calls.bind_of_ok (show Calls.call _ service _ = (.ok _, _) from rfl)]
      cases (service (made ++ [.lock .contentTopics, .unlock .contentTopics false, .work])
          .work).published with
      | ok id => rfl
      | error e => rfl

theorem outcome_validNonce (m : GraphcastMessage T) (service : Service (Op Lock) Found)
    (made : List (Op Lock)) : (validNonce ethers m service made).1 =
      (m.validNonce ethers (service made (.lock .nonces)).nonces).1 := by
  unfold validNonce GraphcastMessage.validNonce
  cases m.recoverSenderAddress ethers with
  | ok address => rfl
  | err e => rfl
  | panic p => rfl

/-! ## The order, and where nothing panics -/

section Order

variable {spared : Lock → Prop} {held : List Lock}

theorem calm_matchContentTopic (topic : WakuContentTopic) :
    Locks.Calm (matchContentTopic topic : Locking ε Bool) :=
  Locks.Calm.withLock fun _ => Locks.Calm.pure _

theorem orders_contentTopics (h : ∀ l ∈ held, l < .contentTopics) :
    Orders spared held (contentTopics : Locking ε _) :=
  Orders.withLock h (fun _ _ => Locks.Calm.pure _) fun _ => Orders.pure _

theorem orders_contentIdentifiers (h : ∀ l ∈ held, l < .contentTopics) :
    Orders spared held (contentIdentifiers : Locking ε _) :=
  Orders.withLock h (fun _ _ => Locks.Calm.pure _) fun _ => Orders.pure _

theorem orders_updateContentTopics : Orders spared [] (updateContentTopics : Locking ε Unit) :=
  Orders.withLock (by simp) (fun _ _ => Locks.Calm.pure ()) fun _ => Orders.pure ()

theorem orders_radioHandler : Orders spared [] (radioHandler : Locking ε Unit) :=
  Orders.withLock (by simp) (fun _ _ => Locks.Calm.pure ()) fun _ => Orders.pure ()

theorem orders_handleSignal (signal : Signal) : Orders spared [] (handleSignal signal) := by
  unfold handleSignal
  split
  · refine Orders.withLock (by simp) (fun _ found => ?_) fun found => ?_
    · split
      · exact Locks.Calm.lift rfl
      · refine Locks.Calm.bind (calm_matchContentTopic _) fun relevant => ?_
        split
        · exact Locks.Calm.lift rfl
        · exact Locks.Calm.pure _
    · split
      · exact Orders.lift _
      · refine Orders.bind (Orders.withLock (by decide) (fun _ _ => Locks.Calm.pure _)
          fun _ => Orders.pure _) fun relevant => ?_
        split
        · exact Orders.lift _
        · exact Orders.pure _
  · exact Orders.lift _
  · exact Orders.lift _

theorem orders_utcNow : Orders spared held (utcNow : Locking ε Int64) :=
  Orders.bind Orders.work fun _ => Orders.pure _

/-- A send may hold locks below those of the agent. -/
theorem orders_sendMessage (agent : GraphcastAgent W) (identifier : String) (payload : T)
    (nonce : UInt64) (h : ∀ l ∈ held, l < .seenMsgIds) :
    Orders spared held (sendMessage signer codec agent identifier payload nonce) := by
  unfold sendMessage
  refine Orders.bind (orders_contentTopics fun l hl => (h l hl).trans (by decide)) fun topics => ?_
  refine Orders.bind (Orders.lift _) fun prepared => ?_
  refine Orders.bind orders_utcNow fun currentTime => ?_
  refine Orders.bind (Orders.lift _) fun wakuMessage => ?_
  refine Orders.bind Orders.work fun found => Orders.bind (Orders.lift _) fun id => ?_
  exact Orders.withLock h (fun _ _ => Locks.Calm.pure _) fun _ => Orders.pure _

/-- Under the lock the nonce check returns, whatever it finds saved. -/
theorem isPanic_lockedNonce (m : GraphcastMessage T) (address : String) (nonces : NoncesMap) :
    (m.lockedNonce address nonces).1.isPanic = false := by
  unfold GraphcastMessage.lockedNonce
  split
  · split
    · split <;> rfl
    · rfl
  · rfl

theorem orders_validNonce (m : GraphcastMessage T) : Orders spared [] (validNonce ethers m) :=
  Orders.bind (Orders.lift _) fun _ => Orders.withLock (by simp)
    (fun _ _ => Locks.Calm.lift (isPanic_lockedNonce m _ _)) fun _ => Orders.lift _

theorem orders_sendFirst (agent : GraphcastAgent W) (msg : SimpleMessage)
    (signer : Signer SimpleMessage W) (h : ∀ l ∈ held, l < .seenMsgIds) :
    Orders spared held (sendFirst signer agent msg : Locking ε Unit) := by
  unfold sendFirst
  refine Orders.bind (orders_contentIdentifiers fun l hl => (h l hl).trans (by decide)) ?_
  intro identifiers
  split
  · refine Orders.bind orders_utcNow fun nonce => ?_
    exact Orders.bind (Orders.attempt (orders_sendMessage agent _ _ _ h)) fun _ => Orders.pure ()
  · exact Orders.lift _

theorem orders_reply (agent : GraphcastAgent W) (signer : Signer SimpleMessage W)
    (msg : SimpleMessage) :
    Orders spared [.messages] (reply signer agent msg : Locking ε Unit) := by
  unfold reply
  split
  · exact orders_sendFirst agent pong signer (by decide)
  · exact Orders.pure ()

theorem orders_turn (agent : GraphcastAgent W) (blockNumber : Nat)
    (signer : Signer SimpleMessage W) (h : ¬ spared .messages) :
    Orders spared [] (turn signer agent blockNumber : Locking ε Unit) := by
  unfold turn
  split
  · exact orders_sendFirst agent ping signer (by simp)
  · exact Orders.withLock (by simp) (fun hs => absurd hs h) fun found =>
      Orders.forEach (orders_reply agent signer) found.messages

end Order

/-! ## No deadlock -/

/-- What a thread may be at. -/
inductive Task : List (Op Lock) → Prop
  /-- The event callback, on any signal. -/
  | handleSignal {task : List (Op Lock)} (signal : Signal)
    (h : Performs (handleSignal signal) task) : Task task
  | sendMessage {task : List (Op Lock)} {T W : Type} (signer : Signer T W) (codec : PayloadCodec T)
    (agent : GraphcastAgent W) (identifier : String) (payload : T) (nonce : UInt64)
    (h : Performs (sendMessage signer codec agent identifier payload nonce) task) : Task task
  | updateContentTopics {task : List (Op Lock)}
    (h : Performs (updateContentTopics : Locking Empty Unit) task) : Task task
  | contentTopics {task : List (Op Lock)}
    (h : Performs (contentTopics : Locking Empty _) task) : Task task
  | contentIdentifiers {task : List (Op Lock)}
    (h : Performs (contentIdentifiers : Locking Empty _) task) : Task task
  | validNonce {task : List (Op Lock)} {T : Type} (ethers : Ethers T) (m : GraphcastMessage T)
    (h : Performs (validNonce ethers m) task) : Task task
  | radioHandler {task : List (Op Lock)}
    (h : Performs (radioHandler : Locking Empty Unit) task) : Task task
  | turn {task : List (Op Lock)} {W : Type} (signer : Signer SimpleMessage W)
    (agent : GraphcastAgent W) (blockNumber : Nat)
    (h : Performs (turn signer agent blockNumber : Locking Empty Unit) task) : Task task

/-- A task is in order, and panics under no lock but `MESSAGES`. -/
theorem Task.kept {task : List (Op Lock)} (h : Task task) :
    Locks.Kept (· ≠ .messages) [] task := by
  cases h with
  | handleSignal signal h => exact Locks.kept_of_performs (orders_handleSignal signal) h
  | sendMessage signer codec agent identifier payload nonce h =>
    exact Locks.kept_of_performs (orders_sendMessage agent identifier payload nonce (by simp)) h
  | updateContentTopics h => exact Locks.kept_of_performs orders_updateContentTopics h
  | contentTopics h => exact Locks.kept_of_performs (orders_contentTopics (by simp)) h
  | contentIdentifiers h => exact Locks.kept_of_performs (orders_contentIdentifiers (by simp)) h
  | validNonce ethers m h => exact Locks.kept_of_performs (orders_validNonce m) h
  | radioHandler h => exact Locks.kept_of_performs orders_radioHandler h
  | turn signer agent blockNumber h =>
    exact Locks.kept_of_performs (orders_turn agent blockNumber signer (by simp)) h

/-- **No deadlock**, in any state that any number of threads come to: as long as one is at a task,
one can go on, and however they go on, each step is one of the operations that were left. -/
theorem no_deadlock {ι : Type} [DecidableEq ι] [Fintype ι] {es : List (Locks.Event ι Lock)}
    {s : Locks.System ι Lock} (hes : ∀ i task, .start i task ∈ es → Task task)
    (hr : Run.run Locks.step (fun _ => Locks.Thread.idle) es = some s) :
    ((∃ i, (s i).rest ≠ []) → ∃ i s', Locks.step s (.go i) = some s') ∧
      (∃ es', Locks.GoesOn es' ∧ Run.run Locks.step s es' = some fun _ => Locks.Thread.idle) ∧
      ∀ es' s', Locks.GoesOn es' → Run.run Locks.step s es' = some s' →
        es'.length + Locks.remaining s' = Locks.remaining s := by
  have hi : Locks.Inv s := Locks.inv_run
    (fun e he i task h => (hes i task (h ▸ he)).kept.1.ordered) hr
  exact ⟨Locks.exists_go hi, Locks.exists_drained hi, fun es' s' hgo hrun =>
    Locks.length_add_remaining hgo hrun⟩

/-! ## No poison -/

/-- `MESSAGES` is poisoned exactly by a batch of replies that panics. -/
theorem poisons_messages {W : Type} (signer : Signer SimpleMessage W) (agent : GraphcastAgent W)
    (blockNumber : Nat) (service : Service (Op Lock) Found) :
    .unlock .messages true ∈ (turn signer agent blockNumber service [] : Outcome Empty Unit × _).2 ↔
      blockNumber &&& 2 ≠ 0 ∧
        (turn signer agent blockNumber service [] : Outcome Empty Unit × _).1.isPanic = true := by
  unfold turn
  by_cases hping : blockNumber &&& 2 = 0
  · rw [if_pos hping]
    have horders : Orders (· = .messages) [] (sendFirst signer agent ping : Locking Empty Unit) :=
      orders_sendFirst agent ping signer (by simp)
    have hkept := Locks.kept_of_performs horders ⟨service, rfl⟩
    exact iff_of_false (hkept.2 .messages rfl) fun h => h.1 hping
  · rw [if_neg hping, Locks.poisons_iff fun found =>
      Orders.forEach (orders_reply agent signer) found.messages]
    exact (and_iff_right hping).symm

/-- **No thread ever panics under a lock of the agent**, nor under that of the nonces; so none of
them is ever poisoned. `MESSAGES` is, by a batch of replies that panics and by nothing else. -/
theorem no_poison {ι : Type} [DecidableEq ι] [Fintype ι] {es : List (Locks.Event ι Lock)}
    {s : Locks.System ι Lock} (hes : ∀ i task, .start i task ∈ es → Task task)
    (hr : Run.run Locks.step (fun _ => Locks.Thread.idle) es = some s) :
    (∀ i l, .unlock l true ∈ (s i).rest → l = .messages) ∧
      ∀ (W : Type) (signer : Signer SimpleMessage W) agent blockNumber service,
        .unlock .messages true ∈
            (turn signer agent blockNumber service [] : Outcome Empty Unit × _).2 ↔
          blockNumber &&& 2 ≠ 0 ∧
            (turn signer agent blockNumber service [] :
              Outcome Empty Unit × _).1.isPanic = true := by
  refine ⟨fun i l hmem => ?_, fun W => poisons_messages⟩
  by_contra hl
  exact Locks.rest_run (fun i task h => (hes i task h).kept.2 l hl) hr i hmem

/-- A ping in `MESSAGES`, a topic, and nothing else. -/
def docFound : Found where
  messages := [ping]
  nonces := ∅
  seenMsgIds := ∅
  contentTopics := [Agent.tableMessage.contentTopic]
  published := .ok "0x01"
  now := 1688744240

/-- The callback on a message, and a batch with one reply, which the wallet does not sign. -/
def docTask : Bool → List (Op Lock)
  | true => [.lock .seenMsgIds, .lock .contentTopics, .unlock .contentTopics false,
      .unlock .seenMsgIds false]
  | false => [.lock .messages, .lock .contentTopics, .unlock .contentTopics false, .work,
      .lock .contentTopics, .unlock .contentTopics false, .unlock .messages false]

theorem task_docTask : ∀ i, Task (docTask i)
  | true => .handleSignal Agent.tableSignal ⟨fun _ _ => docFound, by decide⟩
  | false => .turn docSigner (docAgent "0xfd3082ac044a8093a40051382bc4607e3e41da56" .noCheck) 2
      ⟨fun _ _ => docFound, by decide +kernel⟩

/-- Both have started, and the callback waits for the topics, which the batch holds. -/
def docEvents : List (Locks.Event Bool Lock) :=
  [.start true (docTask true), .start false (docTask false), .go true, .go false, .go false]

theorem no_deadlock_doc :
    ∃ s, Run.run Locks.step (fun _ => Locks.Thread.idle) docEvents = some s ∧
      Locks.step s (.go true) = none ∧ ∃ i s', Locks.step s (.go i) = some s' := by
  have hstart : ∀ i task, .start i task ∈ docEvents → Task task := by
    intro i task h
    simp only [docEvents, List.mem_cons, List.not_mem_nil, or_false, Locks.Event.start.injEq,
      reduceCtorEq] at h
    rcases h with ⟨-, rfl⟩ | ⟨-, rfl⟩
    · exact task_docTask true
    · exact task_docTask false
  exact ⟨_, rfl, by decide, (no_deadlock hstart rfl).1 ⟨true, by decide⟩⟩

/-- A batch on an agent without topics, which panics. -/
def docPanic : List (Op Lock) :=
  [.lock .messages, .lock .contentTopics, .unlock .contentTopics false, .unlock .messages true]

theorem task_docPanic : Task docPanic :=
  .turn docSigner (docAgent "0xfd3082ac044a8093a40051382bc4607e3e41da56" .noCheck) 2
    ⟨fun _ _ => { docFound with contentTopics := [] }, by decide +kernel⟩

/-- It poisons `MESSAGES`, and that alone. -/
theorem no_poison_doc : ∃ s : Locks.System Unit Lock,
    Run.run Locks.step (fun _ => Locks.Thread.idle) [.start () docPanic, .go ()] = some s ∧
      .unlock .messages true ∈ (s ()).rest ∧
        ∀ l, .unlock l true ∈ (s ()).rest → l = .messages := by
  have hstart : ∀ i task, .start i task ∈ [Locks.Event.start () docPanic, .go ()] → Task task := by
    intro i task h
    rcases List.mem_cons.mp h with h | h
    · obtain ⟨-, rfl⟩ := Locks.Event.start.inj h
      exact task_docPanic
    · exact absurd (List.mem_singleton.mp h) (by simp)
  exact ⟨_, rfl, by decide, (no_poison hstart rfl).1 ()⟩

end Locking

end GraphcastSdk

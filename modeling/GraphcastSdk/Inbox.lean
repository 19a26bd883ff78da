import GraphcastSdk.Replay
import GraphcastSdk.RoundTrip

/-!
# From the sender's wallet to the receiver's verdict

The receiving side as a whole: the callback of the node puts what `handle_signal` accepts into the
channel (`Agent`); a thread takes the messages off it one by one, decodes each and calls
`check_message_validity` on what it gets; and these calls run at once over one nonces map
(`Receiver`). The events interleave as the threads do, with deliveries, duplicates, topic updates
and the agent's own sends among them.

* `accepted_in_order`: what is accepted from one sender on one identifier is in the order of the
  nonces, however the calls overlap.
* `delivered_iff`: what `send_message` publishes, delivered under a new id on a topic in force,
  reaches the checks of an idle radio as it was sent, and the exact condition under which they
  accept it, in terms of the sender's input and of the messages processed before.

Premises as in `RoundTrip`.
-/

namespace GraphcastSdk

open GraphcastMessage

/-- A radio's agent, its thread, and its checks. -/
structure Inbox (T : Type) where
  agent : Agent
  /-- How many messages of the channel the thread has taken. -/
  received : Nat
  receiver : Receiver T

/-- A call on `m` has passed its nonce check, whatever the verdict. -/
def Receiver.Locked {T : Type} (s : Receiver T) (m : GraphcastMessage T) : Prop :=
  ∃ (i : Nat) (r : Outcome MessageError (GraphcastMessage T)),
    s.calls[i]? = some ⟨m, .returned .nonce r⟩

namespace Inbox

variable {T : Type}

inductive Event (T : Type) where
  | agent (e : Agent.Event)
  /-- The thread takes the next message. -/
  | take
  /-- A step of a call, or of the clock. -/
  | check (e : Receiver.Event T)

def init (agent : Agent) (clock : Int64) : Inbox T := ⟨agent, 0, .init clock⟩

variable (codec : PayloadCodec T) (ethers : Ethers T)

/-- What the thread gets out of a message. -/
def decoded (p : String × WakuMessage) : Option (GraphcastMessage T) :=
  match decode codec p.2.payload with
  | .ok m => some m
  | .err _ => none
  | .panic _ => none

/-- The call on what a message decodes to, if it does. -/
def called (receiver : Receiver T) (m : Option (GraphcastMessage T)) : Receiver T :=
  { receiver with calls := receiver.calls ++ m.toList.map fun m => ⟨m, .awaits .sender⟩ }

def step (s : Inbox T) : Event T → Option (Inbox T)
  | .agent e => (s.agent.step e).map fun agent => { s with agent }
  | .take => s.agent.channel[s.received]?.bind fun p =>
    -- a payload that panics ends the thread
    if (decode codec p.2.payload).isPanic then none
    else some
      { s with received := s.received + 1, receiver := called s.receiver (decoded codec p) }
  | .check (.call _) => none
  | .check e => (s.receiver.step ethers e).map fun receiver => { s with receiver }

/-! ## What a step does -/

variable {codec ethers} {s s' : Inbox T}

/-- The steps, each with what makes it possible. -/
inductive Step (codec : PayloadCodec T) (ethers : Ethers T) (s : Inbox T) :
    Event T → Inbox T → Prop
  | agent {e : Agent.Event} {agent : Agent} (hagent : s.agent.step e = some agent) :
    Step codec ethers s (.agent e) { s with agent }
  | take {p : String × WakuMessage} (hp : s.agent.channel[s.received]? = some p)
    (hpanic : (decode codec p.2.payload).isPanic = false) :
    Step codec ethers s .take
      { s with received := s.received + 1, receiver := called s.receiver (decoded codec p) }
  | check {e : Receiver.Event T} {receiver : Receiver T} (he : ∀ m, e ≠ .call m)
    (hreceiver : s.receiver.step ethers e = some receiver) :
    Step codec ethers s (.check e) { s with receiver }

theorem step_eq_some {e : Event T} :
    step codec ethers s e = some s' ↔ Step codec ethers s e s' := by
  constructor
  · intro h
    cases e with
    | agent e =>
      obtain ⟨agent, hagent, rfl⟩ := Option.map_eq_some_iff.mp h
      exact .agent hagent
    | take =>
      obtain ⟨p, hp, h⟩ := Option.bind_eq_some_iff.mp h
      by_cases hpanic : (decode codec p.2.payload).isPanic = true
      · exact absurd h (by simp [hpanic])
      · rw [if_neg hpanic] at h
        exact Option.some.inj h ▸ .take hp (Bool.eq_false_iff.mpr hpanic)
    | check e =>
      cases e with
      | call m => exact absurd h (by simp [step])
      | _ =>
        obtain ⟨receiver, hreceiver, rfl⟩ := Option.map_eq_some_iff.mp h
        exact .check (by simp) hreceiver
  · intro h
    cases h with
    | agent hagent => exact Option.map_eq_some_iff.mpr ⟨_, hagent, rfl⟩
    | take hp hpanic =>
      exact Option.bind_eq_some_iff.mpr ⟨_, hp, if_neg (by simp [hpanic])⟩
    | @check e receiver he hreceiver =>
      cases e with
      | call m => exact absurd rfl (he m)
      | _ => exact Option.map_eq_some_iff.mpr ⟨_, hreceiver, rfl⟩

/-- A step takes the checks nowhere, or a step of their own. -/
theorem receiver_step {e : Event T} (h : step codec ethers s e = some s') :
    ∃ es, Run.run (Receiver.step ethers) s.receiver es = some s'.receiver := by
  cases step_eq_some.mp h with
  | agent hagent => exact ⟨[], rfl⟩
  | @take p hp hpanic =>
    cases decoded codec p with
    | none => exact ⟨[], by simp [Run.run, called]⟩
    | some m => exact ⟨[.call m], rfl⟩
  | check he hreceiver => exact ⟨_, Run.run_one hreceiver⟩

theorem receiver_run {es : List (Event T)} (h : Run.run (step codec ethers) s es = some s') :
    ∃ es', Run.run (Receiver.step ethers) s.receiver es' = some s'.receiver := by
  have hstep : ∀ (t : Inbox T) (e : Event T) (t' : Inbox T) (r : Receiver T), t.receiver = r →
      step codec ethers t e = some t' →
        ∃ es r', Run.run (Receiver.step ethers) r es = some r' ∧ t'.receiver = r' := by
    rintro t e t' - rfl ht
    obtain ⟨es, hes⟩ := receiver_step ht
    exact ⟨es, _, hes, rfl⟩
  obtain ⟨es', r, hr, rfl⟩ := Run.run_simulation hstep rfl h
  exact ⟨es', hr⟩

/-! ## In the order of their nonces -/

/-- What is accepted has at least the nonce of what was accepted of its pair before. -/
theorem nonce_le_of_accepted {i j : Nat} {m m' : GraphcastMessage T} {address : String}
    (hid : m.identifier = m'.identifier) (hrec : m.recoverSenderAddress ethers = .ok address)
    (hrec' : m'.recoverSenderAddress ethers = .ok address) :
    ∀ {r r' : Receiver T} {es : List (Receiver.Event T)}, Receiver.Marked ethers r →
      Run.run (Receiver.step ethers) r es = some r' → r.Accepted i m → r'.Accepted j m' →
        ¬ r.Accepted j m' → m.nonce ≤ m'.nonce
  | r, r', [], _, h, _, hj, hnew => by
    obtain rfl := Option.some.inj h
    exact absurd hj hnew
  | r, r', e :: es, hm, h, hi, hj, hnew => by
    obtain ⟨r₁, h₁, h₂⟩ := Run.run_cons h
    by_cases hj₁ : r₁.Accepted j m'
    · rcases Receiver.accepted_step h₁ hj₁ with hold | ⟨-, -, hok, -⟩
      · exact absurd hold hnew
      · -- the mark of the pair is at least the nonce accepted before, and at most the new one
        obtain ⟨-, address', hrec₁, w, hw, hle⟩ := validNonce_eq_ok.mp hok
        obtain ⟨address'', w', hrec₂, hw', hle'⟩ := hm i m hi
        obtain rfl := Outcome.ok.inj (hrec'.symm.trans hrec₁)
        obtain rfl := Outcome.ok.inj (hrec.symm.trans hrec₂)
        rw [hid, hw] at hw'
        exact hle'.trans (Option.some.inj hw' ▸ hle)
    · exact nonce_le_of_accepted hid hrec hrec' (Receiver.marked_step hm h₁) h₂
        (Receiver.returned_step h₁ hi) hj hj₁

/-- **What a radio accepts from one sender on one identifier is in the order of the nonces**,
however the calls overlap. -/
theorem accepted_in_order (codec : PayloadCodec T) (ethers : Ethers T) {agent : Agent}
    {clock : Int64} {es es' : List (Event T)} {s s' : Inbox T}
    (hr : Run.run (step codec ethers) (init agent clock) es = some s)
    (hr' : Run.run (step codec ethers) s es' = some s') {i j : Nat} {m m' : GraphcastMessage T}
    (hi : s.receiver.Accepted i m) (hj : s'.receiver.Accepted j m')
    (hnew : ¬ s.receiver.Accepted j m') (hid : m.identifier = m'.identifier) {address : String}
    (hrec : m.recoverSenderAddress ethers = .ok address)
    (hrec' : m'.recoverSenderAddress ethers = .ok address) : m.nonce ≤ m'.nonce := by
  obtain ⟨es₁, h₁⟩ := receiver_run hr
  obtain ⟨es₂, h₂⟩ := receiver_run hr'
  have hm : Receiver.Marked ethers s.receiver :=
    Run.run_invariant (fun _ _ _ hm h => Receiver.marked_step hm h) Receiver.marked_init h₁
  exact nonce_le_of_accepted hid hrec hrec' hm h₂ hi hj hnew

/-! ## The verdict on a delivery -/

/-- A call that is past its nonce check was so before the step, or passes it now. -/
theorem locked_step {r r' : Receiver T} {e : Receiver.Event T} (h : r.step ethers e = some r')
    {m : GraphcastMessage T} (hm : r'.Locked m) :
    r.Locked m ∨ ∃ i, e = .nonce i ∧ r.calls[i]? = some ⟨m, .awaits .nonce⟩ := by
  obtain ⟨i, x, hi⟩ := hm
  cases Receiver.call_step h hi with
  | kept hi => exact Or.inl ⟨i, x, hi⟩
  | made he hst => exact absurd hst (by simp)
  | sender y he hi hst => cases y <;> exact absurd hst (by simp [Stage.after])
  | time he hi hst =>
    cases hv : m.validTime r.clock <;> exact absurd hst (by simp [hv, Stage.after])
  | nonce he hi hst hn => exact Or.inr ⟨i, he, hi⟩

theorem locked_mono {r r' : Receiver T} {e : Receiver.Event T} (h : r.step ethers e = some r')
    {m : GraphcastMessage T} (hm : r.Locked m) : r'.Locked m := by
  obtain ⟨i, x, hi⟩ := hm
  exact ⟨i, x, Receiver.returned_step h hi⟩

theorem locked_nonce {r : Receiver T} {i : Nat} {m : GraphcastMessage T}
    {verdict : Outcome MessageError (GraphcastMessage T)} {nonces : NoncesMap}
    (hi : r.calls[i]? = some ⟨m, .awaits .nonce⟩) :
    ({ r with nonces, calls := r.calls.set i ⟨m, .after .nonce verdict⟩ } :
      Receiver T).Locked m := by
  obtain ⟨hlt, -⟩ := List.getElem?_eq_some_iff.mp hi
  refine ⟨i, verdict, ?_⟩
  rw [List.getElem?_set_self hlt, Receiver.after_nonce]

/-- The map is that of the calls that are past their nonce check. -/
theorem locked_run {clock : Int64} {es : List (Receiver.Event T)} {r : Receiver T}
    (hr : Run.run (Receiver.step ethers) (.init clock) es = some r) :
    ∃ locked, r.nonces = validNonces ethers ∅ locked ∧ ∀ m, m ∈ locked ↔ r.Locked m := by
  refine Run.run_invariant
    (P := fun r => ∃ locked, r.nonces = validNonces ethers ∅ locked ∧ ∀ m, m ∈ locked ↔ r.Locked m)
    ?_ ⟨[], rfl, fun m => ?_⟩ hr
  · rintro r e r' ⟨locked, hnonces, hlocked⟩ h
    -- the calls that were past the check still are
    have hother : r'.nonces = r.nonces → (∀ i, e ≠ .nonce i) →
        ∃ locked, r'.nonces = validNonces ethers ∅ locked ∧ ∀ m, m ∈ locked ↔ r'.Locked m := by
      intro hkept he
      refine ⟨locked, hkept.trans hnonces, fun m => ?_⟩
      rw [hlocked]
      refine ⟨locked_mono h, fun hm => ?_⟩
      rcases locked_step h hm with hm | ⟨i, hnonce, -⟩
      · exact hm
      · exact absurd hnonce (he i)
    cases Receiver.step_eq_some.mp h with
    | tick ht => exact hother rfl (by simp)
    | call => exact hother rfl (by simp)
    | sender hi => exact hother rfl (by simp)
    | time hi => exact hother rfl (by simp)
    | @nonce i m hi =>
      refine ⟨locked ++ [m], by rw [validNonces_snoc, ← hnonces], fun m' => ?_⟩
      rw [List.mem_append, List.mem_singleton, hlocked]
      constructor
      · rintro (hm | rfl)
        · exact locked_mono h hm
        · exact locked_nonce hi
      · intro hm
        rcases locked_step h hm with hm | ⟨j, hj, hm⟩
        · exact Or.inl hm
        · obtain rfl := Receiver.Event.nonce.inj hj
          exact Or.inr (Call.mk.inj (Option.some.inj (hm.symm.trans hi))).1
  · refine ⟨fun hm => absurd hm (by simp), ?_⟩
    rintro ⟨i, x, hi⟩
    exact absurd hi (by simp [Receiver.init])

/-- **The nonce check by the calls before it**: one of the pair is past it, and none with a greater
nonce. -/
theorem validNonce_locked {clock : Int64} {es : List (Receiver.Event T)} {r : Receiver T}
    (hr : Run.run (Receiver.step ethers) (.init clock) es = some r) {m : GraphcastMessage T}
    {address : String} (hrec : m.recoverSenderAddress ethers = .ok address) :
    (m.validNonce ethers r.nonces).1 = .ok m ↔
      (∃ m', r.Locked m' ∧ IsFrom ethers (m.identifier, address) m') ∧
        ∀ m', r.Locked m' → IsFrom ethers (m.identifier, address) m' → m'.nonce ≤ m.nonce := by
  obtain ⟨locked, hnonces, hlocked⟩ := locked_run hr
  have hok : (m.validNonce ethers r.nonces).1 = .ok m ↔
      (m.validNonce ethers r.nonces).1.isOk = true := by
    rw [Outcome.isOk_iff]
    exact ⟨fun h => ⟨m, h⟩, fun ⟨m', h⟩ => (validNonce_eq_ok.mp h).1 ▸ h⟩
  rw [hok, hnonces, validNonce_history]
  simp only [hrec, Outcome.ok.injEq, exists_eq_left', hlocked]

/-- A message under a new id, on a topic in force, is the next call of a radio that is idle. -/
theorem run_delivery {id : String} {w : WakuMessage} {m : GraphcastMessage T}
    (hdecode : decode codec w.payload = .ok m) (serialized : String)
    (hid : id ∉ s.agent.seenMsgIds)
    (htopic : s.agent.contentTopics = [] ∨ w.contentTopic ∈ s.agent.contentTopics)
    (hidle : s.received = s.agent.channel.length) :
    ∃ s', Run.run (step codec ethers) s
        [.agent (.signal ⟨.wakuMessage id w, serialized⟩ []), .take] = some s' ∧
      s'.receiver = called s.receiver (some m) := by
  have hverdict : s.agent.verdict ⟨.wakuMessage id w, serialized⟩ [] = .ok w :=
    Agent.verdict_eq_ok.mpr ⟨id, rfl, hid, htopic⟩
  obtain ⟨agent, hagent, hchannel⟩ : ∃ agent,
      s.agent.step (.signal ⟨.wakuMessage id w, serialized⟩ []) = some agent ∧
        agent.channel = s.agent.channel ++ [(id, w)] := by
    refine ⟨_, rfl, ?_⟩
    rw [hverdict]
    rfl
  have hnext : agent.channel[s.received]? = some (id, w) := by
    rw [hchannel, hidle, List.getElem?_concat_length]
  have hdecoded : decoded codec (id, w) = some m := by
    unfold decoded
    rw [hdecode]
  refine ⟨⟨agent, s.received + 1, called s.receiver (decoded codec (id, w))⟩, ?_,
    congrArg (called s.receiver) hdecoded⟩
  simp only [Run.run, step_eq_some.mpr (Step.agent hagent), Option.bind_some]
  rw [step_eq_some.mpr (Step.take hnext (by rw [hdecode]; rfl))]
  rfl

section Delivery

variable {W : Type} {u : Text.Unicode} {keys : Keys W} {signer : Signer T W}

/-- What `send_message` publishes decodes to the message of its arguments, signed by the wallet. -/
theorem published_decodes (hsign : SignsBack signer ethers) (hprint : PrintsAlike keys ethers)
    (hcodec : codec.RoundTrips) {waku : Outcome GraphcastAgentError Unit}
    {config : GraphcastAgentConfig} {agent : GraphcastAgent W}
    (hagent : GraphcastAgent.new u keys signer waku config = .ok agent) {shared : Agent}
    {publish : WakuMessage → String → Except String String} {identifier : String} {payload : T}
    {nonce : UInt64} {currentTime : Int64} {w : WakuMessage} {pubsubTopic : String}
    (hw : (w, pubsubTopic) ∈ (GraphcastAgent.sendMessage signer codec publish
      { agent with shared } identifier payload nonce currentTime).published) :
    ∃ m, decode codec w.payload = .ok m ∧ m.identifier = identifier ∧ m.nonce = nonce ∧
      m.payload = payload ∧ m.graphAccount = u.toLowercase config.graphAccount ∧
      m.recoverSenderAddress ethers =
        .ok (walletAddress keys signer agent.graphcastIdentity.wallet) := by
  obtain ⟨hwallet, -⟩ := GraphcastAgent.identity_of_new hagent
  obtain ⟨m, hprepared, hwaku, -⟩ := GraphcastAgent.mem_published_sendMessage hw
  obtain ⟨-, hm⟩ := GraphcastAgent.prepareMessage_eq_ok.mp hprepared
  obtain ⟨hlen, hbytes⟩ := toWaku_eq_ok.mp hwaku
  obtain ⟨haccount, hrec⟩ := GraphcastAgent.buildMessage_spec hsign.signsAs hprint hagent hwallet
    (m := m) hm
  obtain ⟨sig, -, hfields⟩ := build_eq_ok.mp (Outcome.mapErr_eq_ok.mp hm)
  refine ⟨m, ?_, ?_, ?_, ?_, haccount, hrec⟩
  · rw [hbytes]
    exact decode_encodeRaw hcodec hlen
  · rw [hfields]
  · rw [hfields]
  · rw [hfields]

/-- **From the sender's wallet to the receiver's verdict.** What `send_message` publishes, when it
is delivered under a new id on a topic in force, is called on as it was sent; and from then on,
with nothing in between, it is accepted iff the sender's identity verifies, its nonce is young
enough, and of the messages past their nonce check some are of the sender and the identifier, and
these have no greater nonce. -/
theorem delivered_iff (hsign : SignsBack signer ethers) (hprint : PrintsAlike keys ethers)
    (hcodec : codec.RoundTrips) {waku : Outcome GraphcastAgentError Unit}
    {config : GraphcastAgentConfig} {agent : GraphcastAgent W}
    (hagent : GraphcastAgent.new u keys signer waku config = .ok agent) {shared : Agent}
    {publish : WakuMessage → String → Except String String} {identifier : String} {payload : T}
    {nonce : UInt64} {currentTime : Int64} {w : WakuMessage} {pubsubTopic : String}
    (hw : (w, pubsubTopic) ∈ (GraphcastAgent.sendMessage signer codec publish
      { agent with shared } identifier payload nonce currentTime).published)
    {radioName : String} {seenMsgIds : Finset String} {contentTopics : List WakuContentTopic}
    {clock : Int64} {es : List (Event T)} (hr : Run.run (step codec ethers)
      (init (Agent.init radioName seenMsgIds contentTopics) clock) es = some s)
    {id : String} (serialized : String) (hid : id ∉ s.agent.seenMsgIds)
    (htopic : s.agent.contentTopics = [] ∨ w.contentTopic ∈ s.agent.contentTopics)
    (hidle : s.received = s.agent.channel.length) :
    let account := u.toLowercase config.graphAccount
    let address := walletAddress keys signer agent.graphcastIdentity.wallet
    ∃ m s', Run.run (step codec ethers) s
        [.agent (.signal ⟨.wakuMessage id w, serialized⟩ []), .take] = some s' ∧
      s'.receiver = called s.receiver (some m) ∧ m.identifier = identifier ∧ m.nonce = nonce ∧
      m.payload = payload ∧ m.graphAccount = account ∧
      ∀ (web : Subgraphs) (F : Type) [F32 F] callbook localSenderId idValidation,
        (checkMessageValidity ethers web F m s'.receiver.nonces s'.receiver.clock callbook
            localSenderId idValidation).1 = .ok m ↔
          (idValidation ≠ .noCheck → address ≠ localSenderId ∧ ∃ a,
            (⟨address, account⟩ : Account).verify web F callbook.graphNetwork
              callbook.graphcastRegistry idValidation = .ok a) ∧
          (nonce ≤ s.receiver.clock.toUInt64 ∧
            s.receiver.clock.toUInt64 - nonce < msgReplayLimit) ∧
          (∃ m', s.receiver.Locked m' ∧ IsFrom ethers (identifier, address) m') ∧
          ∀ m', s.receiver.Locked m' → IsFrom ethers (identifier, address) m' →
            m'.nonce ≤ nonce := by
  intro account address
  obtain ⟨m, hdecode, rfl, rfl, rfl, haccount, hrec⟩ :=
    published_decodes hsign hprint hcodec hagent hw
  obtain ⟨s', hrun, hreceiver⟩ := run_delivery hdecode serialized hid htopic hidle
  obtain ⟨es', hr'⟩ := receiver_run hr
  refine ⟨m, s', hrun, hreceiver, rfl, rfl, rfl, haccount, ?_⟩
  intro web F _ callbook localSenderId idValidation
  have hkept : s'.receiver.nonces = s.receiver.nonces ∧ s'.receiver.clock = s.receiver.clock := by
    rw [hreceiver]
    exact ⟨rfl, rfl⟩
  rw [hkept.1, hkept.2, checkMessageValidity_eq_ok, validSender_eq_ok, validTime_eq_ok,
    validNonce_locked hr' hrec, haccount]
  simp only [true_and, hrec, Outcome.ok.injEq, exists_eq_left']
  rfl

end Delivery

/-! ## The documented message, delivered again and again -/

def docSent : GraphcastMessage SimpleMessage :=
  docMessage "0xfd3082ac044a8093a40051382bc4607e3e41da56"

def docWaku (m : GraphcastMessage SimpleMessage) : WakuMessage where
  payload := m.encodeRaw simpleCodec
  contentTopic := ⟨"test_radio", "0", "some_subgraph_hash", .proto⟩
  version := 2
  timestamp := 1688744240
  metadata := []
  ephemeral := true

/-- A radio on the message's topic, as it starts some seconds later. -/
def docInbox : Inbox SimpleMessage :=
  init (Agent.init "test_radio" ∅ (buildContentTopics "test_radio" "0" ["some_subgraph_hash"]))
    1688744250

/-- `m` comes under `id` and passes the sender check of call `i`, which it leads to. -/
def docDelivery (m : GraphcastMessage SimpleMessage) (id : String) (i : Nat) :
    List (Event SimpleMessage) :=
  [.agent (.signal ⟨.wakuMessage id (docWaku m), ""⟩ []), .take, .check (.sender i (.ok m)),
    .check (.time i), .check (.nonce i)]

/-- The same signed payload, with a later nonce. -/
def docLater : GraphcastMessage SimpleMessage := { docSent with nonce := 1688744245 }

/-- The later one is accepted after the other. -/
theorem accepted_in_order_doc : ∃ s s', Run.run (step simpleCodec docEthers) docInbox
      (docDelivery docSent "0x01" 0 ++ docDelivery docSent "0x02" 1) = some s ∧
    Run.run (step simpleCodec docEthers) s (docDelivery docLater "0x03" 2) = some s' ∧
    docSent.nonce ≤ docLater.nonce := by
  have hrun : ((Run.run (step simpleCodec docEthers) docInbox (docDelivery docSent "0x01" 0 ++
      docDelivery docSent "0x02" 1)).bind fun s => (Run.run (step simpleCodec docEthers) s
        (docDelivery docLater "0x03" 2)).map fun s' =>
          (s.receiver.calls[1]?, s.receiver.calls[2]?, s'.receiver.calls[2]?)) =
      some (some ⟨docSent, .returned .nonce (.ok docSent)⟩, none,
        some ⟨docLater, .returned .nonce (.ok docLater)⟩) := by
    decide +kernel
  obtain ⟨s, hs, hnext⟩ := Option.bind_eq_some_iff.mp hrun
  obtain ⟨s', hs', heq⟩ := Option.map_eq_some_iff.mp hnext
  simp only [Prod.mk.injEq] at heq
  obtain ⟨h₁, h₂, hlater⟩ := heq
  refine ⟨s, s', hs, hs', accepted_in_order simpleCodec docEthers hs hs' h₁ hlater ?_ rfl
    (show docSent.recoverSenderAddress docEthers =
      .ok "0xfd3082ac044a8093a40051382bc4607e3e41da56" by decide +kernel) (by decide +kernel)⟩
  rw [Receiver.Accepted, h₂]
  simp

/-- Accepted when it comes again. -/
theorem delivered_iff_doc : ∃ s m s', Run.run (step simpleCodec docEthers) docInbox
      (docDelivery docSent "0x01" 0) = some s ∧
    Run.run (step simpleCodec docEthers) s
      [.agent (.signal ⟨.wakuMessage "0x02" (docWaku docSent), ""⟩ []), .take] = some s' ∧
    (checkMessageValidity docEthers
      (Account.knowsOnly "0xfd3082ac044a8093a40051382bc4607e3e41da56") Unit m
      s'.receiver.nonces s'.receiver.clock ⟨"registry", "network"⟩ "" .graphcastRegistered).1 =
        .ok m := by
  have hrun : (Run.run (step simpleCodec docEthers) docInbox (docDelivery docSent "0x01" 0)).map
      (fun s => (((s.agent.seenMsgIds, s.agent.contentTopics), s.received, s.agent.channel.length),
        s.receiver.clock, s.receiver.calls)) =
      some ((({"0x01"}, [(docWaku docSent).contentTopic]), 1, 1), 1688744250,
        [⟨docSent, .returned .nonce (docSent.validNonce docEthers ∅).1⟩]) := by
    decide +kernel
  obtain ⟨s, hs, heq⟩ := Option.map_eq_some_iff.mp hrun
  simp only [Prod.mk.injEq] at heq
  obtain ⟨⟨⟨hseen, htopics⟩, hreceived, hchannel⟩, hclock, hcalls⟩ := heq
  have hw : (docWaku docSent, "/waku/2/graphcast-v0-test_namespace_in_pubsub_topic/proto") ∈
      ((docAgent "0xfd3082ac044a8093a40051382bc4607e3e41da56" .noCheck).sendMessage docSigner
        simpleCodec (fun _ _ => .ok "0x01") "some_subgraph_hash" ping 1688744240
        1688744240).published := by
    decide +kernel
  obtain ⟨m, s', hs', -, -, -, -, -, hiff⟩ := delivered_iff signsBack_docSigner (fun _ => rfl)
    roundTrips_simpleCodec (docAgent_new "0xfd3082ac044a8093a40051382bc4607e3e41da56" .noCheck)
    hw hs "" (show "0x02" ∉ s.agent.seenMsgIds by rw [hseen]; decide)
    (Or.inr (by rw [htopics]; exact List.mem_singleton_self _)) (hreceived.trans hchannel.symm)
  refine ⟨s, m, s', hs, hs', (hiff _ Unit _ _ _).mpr ⟨fun _ => ?_, ?_, ⟨docSent, ?_⟩, ?_⟩⟩
  · exact ⟨by decide +kernel, Outcome.isOk_iff.mp (by decide +kernel)⟩
  · rw [hclock]
    decide
  · exact ⟨⟨0, _, by rw [hcalls]; rfl⟩, by decide +kernel⟩
  · rintro m' ⟨i, r, hi⟩ -
    rw [hcalls] at hi
    obtain ⟨rfl, -⟩ := Call.mk.inj (List.mem_singleton.mp (List.mem_of_getElem? hi))
    exact le_refl _

end Inbox

end GraphcastSdk

import GraphcastSdk.PingPong
import Mathlib.Algebra.BigOperators.Group.Finset.Basic
import Mathlib.Algebra.Order.BigOperators.Group.Finset

/-!
# A network of ping-pong radios

Any number of radios, each on an agent that `GraphcastAgent::new` made. What a node publishes is on
the wire for good: it reaches every radio, its sender included, any number of times, in any order
or never. Others put messages on the wire as they like, and the ids are whatever the nodes make of
the messages.

* `forwarded_once`: a radio is handed a message at most once, and looks at what it was handed in
  order and once; it has sent one pong for each ping it looked at.
* `no_amplification`: so the radios send at most one pong each for a ping, and a pong causes no
  message at all. However the network repeats them, `n` radios send at most `n` pongs for each ping
  that was sent.
* `pings_on_schedule`: pings are sent on the blocks that leave 0 or 1 modulo 4. The comment in
  `main_loop` has the even ones.

`main_loop` makes none of the checks of `check_message_validity`, so nothing is said of senders.
-/

namespace GraphcastSdk

/-- An agent starts with no message seen or forwarded. -/
theorem GraphcastAgent.shared_of_new {T W : Type} {u : Text.Unicode} {keys : Keys W}
    {signer : Signer T W} {waku : Outcome GraphcastAgentError Unit} {config : GraphcastAgentConfig}
    {agent : GraphcastAgent W} (h : GraphcastAgent.new u keys signer waku config = .ok agent) :
    agent.shared = Agent.init config.radioName ∅
      (buildContentTopics config.radioName "0" config.subtopics) := by
  unfold GraphcastAgent.new at h
  obtain ⟨x, -, h⟩ := Outcome.bind_eq_ok.mp h
  obtain ⟨_, -, h⟩ := Outcome.bind_eq_ok.mp h
  obtain rfl := Outcome.ok.inj h
  rfl

namespace PingPong

structure Network (ι W : Type) where
  radios : ι → Radio W
  wire : Outbox
  /-- What others put on the wire. -/
  outside : Outbox

namespace Network

variable {ι W : Type} (signer : Signer SimpleMessage W)

def start (agents : ι → GraphcastAgent W) : Network ι W := ⟨fun r => .start (agents r), [], []⟩

inductive Event (ι : Type) where
  /-- A step of radio `r`; a signal brings it a message of the wire. -/
  | radio (r : ι) (e : Radio.Event)
  | outside (id : String) (m : WakuMessage)

/-- What a step of a radio takes from the wire. -/
def delivers : Radio.Event → Option (String × WakuMessage)
  | .signal id m => some (id, m)
  | .receive => none
  | .radioHandler => none
  | .mainLoop _ _ _ => none
  | .stop => none

def step [DecidableEq ι] (s : Network ι W) : Event ι → Option (Network ι W)
  | .radio r e =>
    if ∀ p ∈ delivers e, p ∈ s.wire then
      ((s.radios r).step signer e).map fun x =>
        { s with radios := Function.update s.radios r x.1, wire := s.wire ++ x.2 }
    else none
  | .outside id m =>
    some { s with wire := s.wire ++ [(id, m)], outside := s.outside ++ [(id, m)] }

/-- The ids under which pings are on the wire. -/
def pingIds (s : Network ι W) : Finset String :=
  ((s.wire.filter Radio.carriesPing).map Prod.fst).toFinset

/-- The pings that radios sent, and those of others. -/
def pings [Fintype ι] (s : Network ι W) : Nat :=
  ∑ r, (s.radios r).sent.count ping + s.outside.countP Radio.carriesPing

/-! ## The invariant -/

variable {signer} {s s' : Network ι W}

/-- The steps, each with what makes it possible. -/
inductive Step [DecidableEq ι] (signer : Signer SimpleMessage W) (s : Network ι W) :
    Event ι → Network ι W → Prop
  | radio {r : ι} {e : Radio.Event} {x : Radio W × Outbox} (hwire : ∀ p ∈ delivers e, p ∈ s.wire)
    (h : Radio.Step signer (s.radios r) e x) :
    Step signer s (.radio r e)
      { s with radios := Function.update s.radios r x.1, wire := s.wire ++ x.2 }
  | outside {id : String} {m : WakuMessage} :
    Step signer s (.outside id m)
      { s with wire := s.wire ++ [(id, m)], outside := s.outside ++ [(id, m)] }

theorem step_of_step [DecidableEq ι] {e : Event ι} (h : step signer s e = some s') :
    Step signer s e s' := by
  cases e with
  | radio r e =>
    simp only [step] at h
    split at h
    · rename_i hwire
      obtain ⟨x, hx, rfl⟩ := Option.map_eq_some_iff.mp h
      exact .radio hwire (Radio.step_of_step hx)
    · exact absurd h (by simp)
  | outside id m => exact Option.some.inj h ▸ .outside

structure Inv [Fintype ι] (s : Network ι W) : Prop where
  radios : ∀ r, (s.radios r).Inv
  delivered : ∀ r, ∀ p ∈ (s.radios r).agent.shared.channel, p ∈ s.wire
  pings : s.wire.countP Radio.carriesPing ≤ s.pings

theorem inv_start [Fintype ι] {agents : ι → GraphcastAgent W}
    (h : ∀ r, ∃ radioName topics, (agents r).shared = Agent.init radioName ∅ topics) :
    Inv (start agents) where
  radios r := by
    obtain ⟨radioName, topics, hr⟩ := h r
    refine Radio.inv_start ?_ ?_
    · rw [hr]
      exact Agent.inv_init
    · rw [hr]
      rfl
  delivered r p hp := by
    obtain ⟨radioName, topics, hr⟩ := h r
    have hp : p ∈ (agents r).shared.channel := hp
    rw [hr] at hp
    exact absurd hp (by simp [Agent.init])
  pings := Nat.zero_le _

/-- A step of one radio moves its share of a sum. -/
theorem sum_update [DecidableEq ι] [Fintype ι] (radios : ι → Radio W) (r : ι) (x : Radio W)
    (f : Radio W → Nat) : ∑ r', f (Function.update radios r x r') + f (radios r) =
      ∑ r', f (radios r') + f x := by
  have hothers : ∑ r' ∈ Finset.univ.erase r, f (Function.update radios r x r') =
      ∑ r' ∈ Finset.univ.erase r, f (radios r') := by
    refine Finset.sum_congr rfl fun r' hr' => ?_
    rw [Function.update_of_ne (Finset.ne_of_mem_erase hr')]
  rw [← Finset.add_sum_erase _ _ (Finset.mem_univ r), hothers, Function.update_self,
    ← Finset.add_sum_erase _ (fun r' => f (radios r')) (Finset.mem_univ r)]
  omega

theorem inv_step [DecidableEq ι] [Fintype ι] {e : Event ι} (hi : Inv s)
    (h : step signer s e = some s') : Inv s' := by
  cases step_of_step h with
  | @radio r e x hwire hx =>
    refine ⟨fun r' => ?_, fun r' p hp => ?_, ?_⟩
    · show (Function.update s.radios r x.1 r').Inv
      by_cases hr : r' = r
      · subst hr
        rw [Function.update_self]
        exact Radio.inv_step hx (hi.radios r')
      · rw [Function.update_of_ne hr]
        exact hi.radios r'
    · have hp : p ∈ (Function.update s.radios r x.1 r').agent.shared.channel := hp
      refine List.mem_append_left _ ?_
      by_cases hr : r' = r
      · subst hr
        rw [Function.update_self] at hp
        obtain ⟨more, hmore, he⟩ := Radio.channel_step hx
        rw [hmore] at hp
        rcases List.mem_append.mp hp with hp | hp
        · exact hi.delivered r' p hp
        · exact hwire p (by rw [he p hp]; rfl)
      · rw [Function.update_of_ne hr] at hp
        exact hi.delivered r' p hp
    · have hpings := hi.pings
      have hsent := Radio.pings_step hx
      have hsum := sum_update s.radios r x.1 fun x => x.sent.count ping
      simp only [Network.pings, List.countP_append] at hpings hsum ⊢
      omega
  | @outside id m =>
    refine ⟨hi.radios, fun r p hp => List.mem_append_left _ (hi.delivered r p hp), ?_⟩
    have hpings := hi.pings
    simp only [Network.pings, List.countP_append] at hpings ⊢
    omega

section Run

variable [DecidableEq ι] [Fintype ι] {u : Text.Unicode} {keys : Keys W}
  {waku : ι → Outcome GraphcastAgentError Unit} {config : ι → GraphcastAgentConfig}
  {agents : ι → GraphcastAgent W} {es : List (Event ι)}

theorem inv_run (hagents : ∀ r, GraphcastAgent.new u keys signer (waku r) (config r) =
    .ok (agents r)) (hr : Run.run (step signer) (start agents) es = some s) : Inv s :=
  Run.run_invariant (fun _ _ _ hi h => inv_step hi h)
    (inv_start fun r => ⟨_, _, GraphcastAgent.shared_of_new (hagents r)⟩) hr

/-- **Every message once, in order, and one pong for each ping.** -/
theorem forwarded_once (hagents : ∀ r, GraphcastAgent.new u keys signer (waku r) (config r) =
    .ok (agents r)) (hr : Run.run (step signer) (start agents) es = some s) (r : ι) :
    ((s.radios r).agent.shared.channel.map Prod.fst).Nodup ∧
    (∀ p ∈ (s.radios r).agent.shared.channel, p ∈ s.wire) ∧
    ∃ done, (s.radios r).forwarded = done ++ (s.radios r).waiting ∧
      (s.radios r).sent.count pong = done.countP SimpleMessage.isPing :=
  have hi := inv_run hagents hr
  ⟨(hi.radios r).shared.distinct, hi.delivered r, (hi.radios r).accounted⟩

omit [DecidableEq ι] in
/-- The pongs of one radio, by the ids of the pings on the wire. -/
theorem pongs_le (hi : Inv s) (r : ι) : (s.radios r).sent.count pong ≤ s.pingIds.card := by
  obtain ⟨done, hdone, hcount⟩ := (hi.radios r).accounted
  have hforwarded : (s.radios r).forwarded.countP SimpleMessage.isPing =
      ((s.radios r).agent.shared.channel.filter Radio.carriesPing).length := by
    rw [← List.countP_eq_length_filter]
    unfold Radio.forwarded
    rw [List.countP_filterMap]
    refine congrArg (List.countP · _) (funext fun p => ?_)
    unfold Radio.carriesPing
    cases decoded p.2 <;> rfl
  have hdistinct : (((s.radios r).agent.shared.channel.filter
      Radio.carriesPing).map Prod.fst).Nodup :=
    (hi.radios r).shared.distinct.sublist (List.Sublist.map _ List.filter_sublist)
  calc (s.radios r).sent.count pong
      = done.countP SimpleMessage.isPing := hcount
    _ ≤ (s.radios r).forwarded.countP SimpleMessage.isPing := by
        rw [hdone, List.countP_append]
        exact Nat.le_add_right _ _
    _ = (((s.radios r).agent.shared.channel.filter
          Radio.carriesPing).map Prod.fst).toFinset.card := by
        rw [hforwarded, List.toFinset_card_of_nodup hdistinct, List.length_map]
    _ ≤ s.pingIds.card := by
        refine Finset.card_le_card fun id hid => ?_
        obtain ⟨p, hp, rfl⟩ := List.mem_map.mp (List.mem_toFinset.mp hid)
        obtain ⟨hchannel, hping⟩ := List.mem_filter.mp hp
        exact List.mem_toFinset.mpr (List.mem_map_of_mem
          (List.mem_filter.mpr ⟨hi.delivered r p hchannel, hping⟩))

/-- **No amplification.** Each radio sends at most one pong for a ping on the wire, and there are
no more of these than were sent: a pong causes no message. -/
theorem no_amplification (hagents : ∀ r, GraphcastAgent.new u keys signer (waku r) (config r) =
    .ok (agents r)) (hr : Run.run (step signer) (start agents) es = some s) :
    (∀ r, (s.radios r).sent.count pong ≤ s.pingIds.card) ∧ s.pingIds.card ≤ s.pings ∧
      ∑ r, (s.radios r).sent.count pong ≤ Fintype.card ι * s.pings := by
  have hi := inv_run hagents hr
  have hids : s.pingIds.card ≤ s.pings := by
    refine le_trans ?_ hi.pings
    rw [List.countP_eq_length_filter, ← List.length_map (f := Prod.fst)]
    exact List.toFinset_card_le _
  refine ⟨pongs_le hi, hids, ?_⟩
  calc ∑ r, (s.radios r).sent.count pong
      ≤ ∑ _r : ι, s.pings := Finset.sum_le_sum fun r _ => (pongs_le hi r).trans hids
    _ = Fintype.card ι * s.pings := Finset.sum_const_nat fun _ _ => rfl

/-- **The schedule.** As long as `main_loop` has not panicked, the pings of a radio are those due on
its blocks so far, the last one perhaps not sent yet. -/
theorem pings_on_schedule (hagents : ∀ r, GraphcastAgent.new u keys signer (waku r) (config r) =
    .ok (agents r)) (hr : Run.run (step signer) (start agents) es = some s) {r : ι}
    (hpanicked : ∀ batch, (s.radios r).loop ≠ .panicked batch) :
    (s.radios r).sent.count ping + (if (s.radios r).loop = .ping then 1 else 0) =
      (List.range' 1 (s.radios r).blockNumber).countP fun block => block % 4 < 2 :=
  ((inv_run hagents hr).radios r).scheduled hpanicked

end Run

/-! ## One ping answered -/

/-- Somebody else's ping, for the documented agent. -/
def outsidePing : WakuMessage where
  payload := graphAccountMessage.encodeRaw simpleCodec
  contentTopic := ⟨"test_radio", "0", "some_subgraph_hash", .proto⟩
  version := 2
  timestamp := 1688744240
  metadata := []
  ephemeral := true

/-- It reaches radio `true`, which sends its own ping on its first block and replies on its
second. -/
def exchange : List (Event Bool) :=
  [.outside "0x02" outsidePing, .radio true (.signal "0x02" outsidePing), .radio true .receive,
    .radio true .radioHandler] ++
    List.replicate 5 (.radio true (.mainLoop (fun _ _ => .ok "0x01") 1688744240 1688744240))

/-- Two radios on the documented agent. -/
def docAgents (_ : Bool) : GraphcastAgent Unit :=
  docAgent "0xfd3082ac044a8093a40051382bc4607e3e41da56" .noCheck

theorem docAgents_new (r : Bool) : GraphcastAgent.new asciiTables docKeys docSigner (.ok ())
    (docConfig "0xfd3082ac044a8093a40051382bc4607e3e41da56" .noCheck) = .ok (docAgents r) :=
  docAgent_new _ _

theorem exchange_run : ∃ s, Run.run (step docSigner) (start docAgents) exchange = some s ∧
    (s.radios true).sent = [ping, pong] ∧ (s.radios true).loop = .replies [] := by
  have hrun : (Run.run (step docSigner) (start docAgents) exchange).map (fun s =>
      ((s.radios true).sent, (s.radios true).loop)) = some ([ping, pong], .replies []) := by
    decide +kernel
  obtain ⟨s, hs, heq⟩ := Option.map_eq_some_iff.mp hrun
  exact ⟨s, hs, Prod.mk.inj heq⟩

theorem forwarded_once_exchange :
    ∃ s, Run.run (step docSigner) (start docAgents) exchange = some s ∧
      ∃ done, (s.radios true).forwarded = done ++ (s.radios true).waiting ∧
        done.countP SimpleMessage.isPing = 1 := by
  obtain ⟨s, hs, hsent, -⟩ := exchange_run
  obtain ⟨-, -, done, hdone, hcount⟩ := forwarded_once docAgents_new hs true
  refine ⟨s, hs, done, hdone, ?_⟩
  rw [← hcount, hsent]
  decide

theorem no_amplification_exchange :
    ∃ s, Run.run (step docSigner) (start docAgents) exchange = some s ∧
      (s.radios true).sent.count pong ≤ s.pingIds.card ∧ s.pingIds.card ≤ s.pings := by
  obtain ⟨s, hs, -⟩ := exchange_run
  obtain ⟨hpongs, hids, -⟩ := no_amplification docAgents_new hs
  exact ⟨s, hs, hpongs true, hids⟩

theorem pings_on_schedule_exchange :
    ∃ s, Run.run (step docSigner) (start docAgents) exchange = some s ∧
      1 = (List.range' 1 (s.radios true).blockNumber).countP fun block => block % 4 < 2 := by
  obtain ⟨s, hs, hsent, hloop⟩ := exchange_run
  have hdue := pings_on_schedule docAgents_new hs (r := true) (by simp [hloop])
  rw [hsent, hloop] at hdue
  exact ⟨s, hs, hdue⟩

end Network

end PingPong

end GraphcastSdk

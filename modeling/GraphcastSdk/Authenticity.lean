import GraphcastSdk.Replay

/-!
# Authenticity against an attacker on the network

Honest senders, an attacker and one receiver. Honest senders emit what `build` makes. The attacker
sees everything in flight and emits any message it can assemble, also from observed parts; the
network delivers whatever is in flight, in any order and any number of times. The receiver runs
its checks concurrently (`Receiver`), and the subgraphs may answer each sender check differently.

`build` signs the payload and nothing else, so a signature binds the payload to its signer and
leaves the identifier, the nonce and the graph account open.

* `accepted_authentic`: an accepted message that recovers to an honest sender carries a payload
  this sender signed, and its graph account is one the validation mode vouches for.
* `inv_receiver`: whatever the attacker emits, saved nonces stay at or below the clock.
* `accepted_tampered`: its other fields need not be those of any message the sender built.

Premises: a built message recovers to its signer (`SignsAs`, the assertion of `test_signature`);
the attacker cannot sign for an honest sender (`Unforged`).
-/

namespace GraphcastSdk

open GraphcastMessage

/-- Built messages with their wallets, the messages in flight, and the receiver. -/
structure Exchange (T W : Type) where
  built : List (W × GraphcastMessage T)
  wire : List (GraphcastMessage T)
  receiver : Receiver T

namespace Exchange

variable {T W : Type}

def init (clock : Int64) : Exchange T W := ⟨[], [], .init clock⟩

inductive Event (T W : Type) where
  /-- An honest sender builds a message and emits it. -/
  | build (wallet : W) (identifier graphAccount : String) (nonce : UInt64) (payload : T)
  /-- The attacker emits `m`. -/
  | inject (m : GraphcastMessage T)
  /-- The `i`-th message in flight reaches the receiver, and stays in flight. -/
  | deliver (i : Nat)
  | tick (t : Int64)
  /-- The sender check of call `i`, against the subgraphs as they answer it. -/
  | sender (i : Nat) (web : Subgraphs)
  | time (i : Nat)
  | nonce (i : Nat)

variable (ethers : Ethers T) (signer : Signer T W)

/-- A sender's address, as `recover_sender_address` prints it. -/
def senderAddress (wallet : W) : String := ethers.lowerHex (signer.address wallet)

/-- A built message recovers to the address of its wallet. -/
def SignsAs : Prop :=
  ∀ wallet identifier graphAccount nonce payload m,
    GraphcastMessage.build signer wallet identifier graphAccount nonce payload = .ok m →
      m.recoverSenderAddress ethers = .ok (senderAddress ethers signer wallet)

/-- The address belongs to an honest sender. -/
def Honest (address : String) : Prop := ∃ wallet, senderAddress ethers signer wallet = address

/-- The honest sender at `address` built `m`. -/
def Built (s : Exchange T W) (address : String) (m : GraphcastMessage T) : Prop :=
  ∃ wallet, (wallet, m) ∈ s.built ∧ senderAddress ethers signer wallet = address

/-- If `m` recovers to an honest sender, then this sender signed its payload. -/
def Authentic (s : Exchange T W) (m : GraphcastMessage T) : Prop :=
  ∀ address, m.recoverSenderAddress ethers = .ok address → Honest ethers signer address →
    ∃ m', Built ethers signer s address m' ∧ m'.payload = m.payload

/-- The attacker emits nothing that recovers to an honest sender on a payload it never signed. -/
def Unforged (s : Exchange T W) (e : Event T W) : Prop :=
  ∀ m, e = .inject m → Authentic ethers signer s m

variable (F : Type) [F32 F] (callbook : CallBook) (localSenderId : String)
  (idValidation : IdentityValidation)

/-- The receiver's sender check on `m`. -/
def checkSender (m : GraphcastMessage T) (web : Subgraphs) :
    Outcome MessageError (GraphcastMessage T) :=
  m.validSender ethers web F callbook.graphcastRegistry callbook.graphNetwork localSenderId
    idValidation

/-- The receiver takes a step. -/
def receive (s : Exchange T W) (e : Receiver.Event T) : Option (Exchange T W) :=
  (s.receiver.step ethers e).map fun receiver => { s with receiver }

def step (s : Exchange T W) : Event T W → Option (Exchange T W)
  | .build wallet identifier graphAccount nonce payload =>
    match GraphcastMessage.build signer wallet identifier graphAccount nonce payload with
    | .ok m => some { s with built := s.built ++ [(wallet, m)], wire := s.wire ++ [m] }
    | .err _ => some s
    | .panic _ => some s
  | .inject m => some { s with wire := s.wire ++ [m] }
  | .deliver i =>
    match s.wire[i]? with
    | some m => s.receive ethers (.call m)
    | none => none
  | .tick t => s.receive ethers (.tick t)
  | .sender i web =>
    match s.receiver.calls[i]? with
    | some call => s.receive ethers
        (.sender i (checkSender ethers F callbook localSenderId idValidation call.msg web))
    | none => none
  | .time i => s.receive ethers (.time i)
  | .nonce i => s.receive ethers (.nonce i)

/-! ## What a step does -/

variable {ethers signer F callbook localSenderId idValidation} {s s' : Exchange T W}

/-- The steps, with those of the receiver as steps of its machine. -/
inductive Step (ethers : Ethers T) (signer : Signer T W) (F : Type) [F32 F] (callbook : CallBook)
    (localSenderId : String) (idValidation : IdentityValidation) (s : Exchange T W) :
    Event T W → Exchange T W → Prop
  | build {wallet : W} {identifier graphAccount : String} {nonce : UInt64} {payload : T}
    {m : GraphcastMessage T}
    (hm : GraphcastMessage.build signer wallet identifier graphAccount nonce payload = .ok m) :
    Step ethers signer F callbook localSenderId idValidation s
      (.build wallet identifier graphAccount nonce payload)
      { s with built := s.built ++ [(wallet, m)], wire := s.wire ++ [m] }
  | unsigned {wallet : W} {identifier graphAccount : String} {nonce : UInt64} {payload : T} :
    Step ethers signer F callbook localSenderId idValidation s
      (.build wallet identifier graphAccount nonce payload) s
  | inject {m : GraphcastMessage T} :
    Step ethers signer F callbook localSenderId idValidation s (.inject m)
      { s with wire := s.wire ++ [m] }
  | deliver {i : Nat} {m : GraphcastMessage T} {r : Receiver T} (hm : m ∈ s.wire)
    (hr : s.receiver.step ethers (.call m) = some r) :
    Step ethers signer F callbook localSenderId idValidation s (.deliver i)
      { s with receiver := r }
  | sender {i : Nat} {web : Subgraphs} {call : Call T} {r : Receiver T}
    (hi : s.receiver.calls[i]? = some call)
    (hr : s.receiver.step ethers (.sender i
      (checkSender ethers F callbook localSenderId idValidation call.msg web)) = some r) :
    Step ethers signer F callbook localSenderId idValidation s (.sender i web)
      { s with receiver := r }
  | other {e : Event T W} {e' : Receiver.Event T} {r : Receiver T}
    (he : (∀ m, e' ≠ .call m) ∧ ∀ i result, e' ≠ .sender i result)
    (hr : s.receiver.step ethers e' = some r) :
    Step ethers signer F callbook localSenderId idValidation s e { s with receiver := r }

theorem step_eq_some {e : Event T W}
    (h : step ethers signer F callbook localSenderId idValidation s e = some s') :
    Step ethers signer F callbook localSenderId idValidation s e s' := by
  cases e with
  | build wallet identifier graphAccount nonce payload =>
    simp only [step] at h
    split at h
    · rename_i m hm
      exact Option.some.inj h ▸ .build hm
    · exact Option.some.inj h ▸ .unsigned
    · exact Option.some.inj h ▸ .unsigned
  | inject m => exact Option.some.inj h ▸ .inject
  | deliver i =>
    simp only [step] at h
    split at h
    · rename_i m hm
      obtain ⟨r, hr, rfl⟩ := Option.map_eq_some_iff.mp h
      exact .deliver (List.mem_of_getElem? hm) hr
    · exact absurd h (by simp)
  | sender i web =>
    simp only [step] at h
    split at h
    · rename_i call hi
      obtain ⟨r, hr, rfl⟩ := Option.map_eq_some_iff.mp h
      exact .sender hi hr
    · exact absurd h (by simp)
  | tick t =>
    obtain ⟨r, hr, rfl⟩ := Option.map_eq_some_iff.mp h
    exact .other (by simp) hr
  | time i =>
    obtain ⟨r, hr, rfl⟩ := Option.map_eq_some_iff.mp h
    exact .other (by simp) hr
  | nonce i =>
    obtain ⟨r, hr, rfl⟩ := Option.map_eq_some_iff.mp h
    exact .other (by simp) hr

/-! ## The receiver in the exchange -/

/-- A step of the exchange is a step of the receiver or leaves it alone. -/
theorem receiver_step {e : Event T W}
    (h : step ethers signer F callbook localSenderId idValidation s e = some s') :
    ∃ es, Run.run (Receiver.step ethers) s.receiver es = some s'.receiver := by
  cases step_eq_some h with
  | build hm => exact ⟨[], rfl⟩
  | unsigned => exact ⟨[], rfl⟩
  | inject => exact ⟨[], rfl⟩
  | deliver hm hr => exact ⟨_, Run.run_one hr⟩
  | sender hi hr => exact ⟨_, Run.run_one hr⟩
  | other he hr => exact ⟨_, Run.run_one hr⟩

/-- The receiver of an exchange runs as a receiver does, whatever the attacker emits. -/
theorem receiver_run {clock : Int64} {es : List (Event T W)}
    (hr : Run.run (step ethers signer F callbook localSenderId idValidation) (init clock) es =
      some s) : ∃ es', Run.run (Receiver.step ethers) (.init clock) es' = some s.receiver := by
  have hsim : ∀ (t : Exchange T W) e t' r, t.receiver = r →
      step ethers signer F callbook localSenderId idValidation t e = some t' →
        ∃ es r', Run.run (Receiver.step ethers) r es = some r' ∧ t'.receiver = r' := by
    rintro t e t' r rfl h
    obtain ⟨es, hes⟩ := receiver_step h
    exact ⟨es, t'.receiver, hes, rfl⟩
  obtain ⟨es', r, hr', rfl⟩ := Run.run_simulation hsim rfl hr
  exact ⟨es', hr'⟩

/-- So no attacker locks a sender out: saved nonces stay at or below the clock, and a message that
carries the current time is accepted (`Receiver.no_lockout`). -/
theorem inv_receiver {clock : Int64} (h0 : 0 ≤ clock) {es : List (Event T W)}
    (hr : Run.run (step ethers signer F callbook localSenderId idValidation) (init clock) es =
      some s) : Receiver.Inv s.receiver := by
  obtain ⟨es', hr'⟩ := receiver_run hr
  exact Receiver.inv_run h0 hr'

/-! ## The invariant -/

/-- The call is past its sender check. -/
def pastSender : Stage T → Bool
  | .awaits .sender | .returned .sender _ => false
  | .awaits .time | .awaits .nonce | .returned .time _ | .returned .nonce _ => true

/-- Everything in flight and under check is authentic, and a call past its sender check passed it
against subgraphs that were `consulted` for it. -/
structure Inv (ethers : Ethers T) (signer : Signer T W) (F : Type) [F32 F] (callbook : CallBook)
    (localSenderId : String) (idValidation : IdentityValidation)
    (consulted : Nat → Subgraphs → Prop) (s : Exchange T W) : Prop where
  wire : ∀ m ∈ s.wire, Authentic ethers signer s m
  calls : ∀ (i : Nat) (call : Call T), s.receiver.calls[i]? = some call →
    Authentic ethers signer s call.msg
  checked : ∀ (i : Nat) (call : Call T), s.receiver.calls[i]? = some call →
    pastSender call.stage = true → ∃ web, consulted i web ∧
      checkSender ethers F callbook localSenderId idValidation call.msg web = .ok call.msg

variable {consulted : Nat → Subgraphs → Prop}

theorem inv_init {clock : Int64} :
    Inv ethers signer F callbook localSenderId idValidation consulted (init clock) where
  wire m hm := absurd hm (by simp [init])
  calls i call hi := absurd hi (by simp [init, Receiver.init])
  checked i call hi := absurd hi (by simp [init, Receiver.init])

/-- What senders built stays built. -/
theorem Authentic.mono {m : GraphcastMessage T} (h : Authentic ethers signer s m)
    (hle : ∀ x ∈ s.built, x ∈ s'.built) : Authentic ethers signer s' m := by
  intro address hrec hh
  obtain ⟨m', ⟨wallet, hm', ha⟩, hp⟩ := h address hrec hh
  exact ⟨m', ⟨wallet, hle _ hm', ha⟩, hp⟩

/-- A receiver's step keeps the invariant when the call it makes is authentic, and the sender
check it records was made. -/
theorem inv_receive {e : Receiver.Event T} {r : Receiver T}
    (hi : Inv ethers signer F callbook localSenderId idValidation consulted s)
    (h : s.receiver.step ethers e = some r)
    (hcall : ∀ m, e = .call m → Authentic ethers signer s m)
    (hsender : ∀ i result call, e = .sender i result → s.receiver.calls[i]? = some call →
      ∃ web, consulted i web ∧
        result = checkSender ethers F callbook localSenderId idValidation call.msg web) :
    Inv ethers signer F callbook localSenderId idValidation consulted
      { s with receiver := r } := by
  refine ⟨hi.wire, fun i call hc => ?_, fun i call hc hpast => ?_⟩
  · cases Receiver.call_step h hc with
    | kept hc => exact hi.calls i call hc
    | made he hst => exact hcall call.msg he
    | sender result he hc hst => exact hi.calls i ⟨call.msg, .awaits .sender⟩ hc
    | time he hc hst => exact hi.calls i ⟨call.msg, .awaits .time⟩ hc
    | nonce he hc hst hn => exact hi.calls i ⟨call.msg, .awaits .nonce⟩ hc
  · cases Receiver.call_step h hc with
    | kept hc => exact hi.checked i call hc hpast
    | made he hst =>
      rw [hst] at hpast
      exact absurd hpast (by simp [pastSender])
    | sender result he hc hst =>
      -- the only way past the sender check is to pass it
      obtain ⟨web, hweb, hres⟩ := hsender i result _ he hc
      cases hr : result with
      | ok m =>
        rw [hr] at hres
        have hm := (validSender_eq_ok.mp hres.symm).1
        exact ⟨web, hweb, hm ▸ hres.symm⟩
      | err x =>
        rw [hst, hr] at hpast
        exact absurd hpast (by simp [Stage.after, pastSender])
      | panic x =>
        rw [hst, hr] at hpast
        exact absurd hpast (by simp [Stage.after, pastSender])
    | time he hc hst => exact hi.checked i ⟨call.msg, .awaits .time⟩ hc rfl
    | nonce he hc hst hn => exact hi.checked i ⟨call.msg, .awaits .nonce⟩ hc rfl

theorem inv_step (hs : SignsAs ethers signer) {e : Event T W}
    (hi : Inv ethers signer F callbook localSenderId idValidation consulted s)
    (hu : Unforged ethers signer s e) (hq : ∀ i web, e = .sender i web → consulted i web)
    (h : step ethers signer F callbook localSenderId idValidation s e = some s') :
    Inv ethers signer F callbook localSenderId idValidation consulted s' := by
  cases step_eq_some h with
  | @build wallet identifier graphAccount nonce payload m hm =>
    have hle : ∀ x ∈ s.built, x ∈ s.built ++ [(wallet, m)] := fun x hx =>
      List.mem_append_left _ hx
    refine ⟨fun m' hm' => ?_, fun i call hc => (hi.calls i call hc).mono hle, hi.checked⟩
    rcases List.mem_append.mp hm' with hm' | hm'
    · exact (hi.wire m' hm').mono hle
    · obtain rfl := List.mem_singleton.mp hm'
      intro address hrec _
      have hself := hs wallet identifier graphAccount nonce payload m' hm
      refine ⟨m', ⟨wallet, List.mem_append_right _ (List.mem_singleton_self _), ?_⟩, rfl⟩
      exact Outcome.ok.inj (hself.symm.trans hrec)
  | unsigned => exact hi
  | inject =>
    refine ⟨fun m' hm' => ?_, hi.calls, hi.checked⟩
    rcases List.mem_append.mp hm' with hm' | hm'
    · exact hi.wire m' hm'
    · obtain rfl := List.mem_singleton.mp hm'
      exact hu m' rfl
  | deliver hm hr =>
    refine inv_receive hi hr (fun m' he => ?_) fun i result call he => absurd he (by simp)
    obtain rfl := Receiver.Event.call.inj he
    exact hi.wire _ hm
  | @sender i web call r hc hr =>
    refine inv_receive hi hr (fun m' he => absurd he (by simp)) fun j result call' he hc' => ?_
    obtain ⟨rfl, rfl⟩ := Receiver.Event.sender.inj he
    obtain rfl := Option.some.inj (hc.symm.trans hc')
    exact ⟨web, hq _ web rfl, rfl⟩
  | other he hr =>
    exact inv_receive hi hr (fun m' h => absurd h (he.1 m')) fun i result call h =>
      absurd h (he.2 i result)

/-- **Authenticity of accepted messages.** The payload of an accepted message that recovers to an
honest sender is one that this sender signed in a message it built; and under any mode but
`NoCheck` the signer is not the local sender, and the subgraphs consulted for the call vouch for
the graph account that the message names. -/
theorem accepted_authentic (hs : SignsAs ethers signer) {clock : Int64}
    {es : List (Event T W)}
    (hr : Run.run (step ethers signer F callbook localSenderId idValidation) (init clock) es =
      some s)
    (hu : Run.AlongRun (step ethers signer F callbook localSenderId idValidation)
      (Unforged ethers signer) (init clock) es)
    {i : Nat} {m : GraphcastMessage T} {address : String} (ha : s.receiver.Accepted i m)
    (hrec : m.recoverSenderAddress ethers = .ok address) (hh : Honest ethers signer address) :
    (∃ m', Built ethers signer s address m' ∧ m'.payload = m.payload) ∧
    (idValidation ≠ .noCheck → address ≠ localSenderId ∧
      ∃ web, .sender i web ∈ es ∧ (Account.FiltersAccounts web callbook.graphNetwork →
        Vouches web F callbook.graphNetwork callbook.graphcastRegistry address m.graphAccount
          idValidation)) := by
  have hinv : Inv ethers signer F callbook localSenderId idValidation
      (fun i web => .sender i web ∈ es) s := by
    refine Run.run_invariant_of (C := fun t e => Unforged ethers signer t e ∧ e ∈ es)
      (fun t e t' hi hc h => inv_step hs hi hc.1 (fun i web he => he ▸ hc.2) h) inv_init ?_ hr
    refine Run.alongRun_of_split hr fun es₁ e es₂ s₁ s₂ hes h₁ _ _ => ?_
    rw [hes] at hu
    exact ⟨hu.at_split h₁, hes ▸ by simp⟩
  refine ⟨hinv.calls i _ ha address hrec hh, fun hmode => ?_⟩
  obtain ⟨web, hweb, hok⟩ := hinv.checked i _ ha rfl
  obtain ⟨-, hverify⟩ := validSender_eq_ok.mp hok
  obtain ⟨address', hrec', hne, a, hv⟩ := hverify hmode
  obtain rfl := Outcome.ok.inj (hrec.symm.trans hrec')
  exact ⟨hne, web, hweb, fun hf => verify_vouches hf hv⟩

/-! ## The fields that are not signed -/

/-- The main indexer's wallet, which signs `ping` as recorded. -/
def goerliSigner : Signer SimpleMessage Unit where
  signTypedData _ payload :=
    if payload = ping then .ok pingSignature else .error "not recorded"
  signatureToString sig := if sig = pingSignature then pingSignatureText else ""
  address _ := 0xe9a1cabd57700b17945fd81feefba82340d9568f#160

/-- Every message of the main indexer is `ping` under its recorded signature. -/
theorem build_goerliSigner {identifier graphAccount : String} {nonce : UInt64}
    {payload : SimpleMessage} {m : GraphcastMessage SimpleMessage}
    (h : GraphcastMessage.build goerliSigner () identifier graphAccount nonce payload = .ok m) :
    m = ⟨identifier, nonce, graphAccount, ping, pingSignatureText⟩ := by
  obtain ⟨sig, hsig, rfl⟩ := build_eq_ok.mp h
  simp only [goerliSigner] at hsig
  split at hsig
  · rename_i hp
    obtain rfl := Except.ok.inj hsig
    rw [hp]
    rfl
  · exact absurd hsig (by simp)

theorem signsAs_goerliSigner : SignsAs goerliEthers goerliSigner := by
  intro wallet identifier graphAccount nonce payload m h
  obtain rfl := build_goerliSigner h
  have hping : graphAccountMessage.recoverSenderAddress goerliEthers =
      .ok (senderAddress goerliEthers goerliSigner ()) := by decide +kernel
  exact hping

/-- The sender builds the recorded message; the attacker emits `m`, which arrives twice and is
checked at once each time. -/
def attack (m : GraphcastMessage SimpleMessage) : List (Event SimpleMessage Unit) :=
  [.build () "ping-pong-content-topic" "0xe9a1cabd57700b17945fd81feefba82340d9568f" 1688744240 ping,
    .inject m,
    .deliver 1, .sender 0 goerliSubgraphs, .time 0, .nonce 0,
    .deliver 1, .sender 1 goerliSubgraphs, .time 1, .nonce 1]

/-- The attacker forges nothing when `m` carries the payload that was signed. -/
theorem unforged_attack {m : GraphcastMessage SimpleMessage} (hm : m.payload = ping)
    {callbook : CallBook} {localSenderId : String} {idValidation : IdentityValidation}
    {clock : Int64} :
    Run.AlongRun (step goerliEthers goerliSigner Unit callbook localSenderId idValidation)
      (Unforged goerliEthers goerliSigner) (init clock) (attack m) := by
  have hbuild : GraphcastMessage.build goerliSigner () "ping-pong-content-topic"
      "0xe9a1cabd57700b17945fd81feefba82340d9568f" 1688744240 ping = .ok graphAccountMessage := by
    decide +kernel
  refine ⟨fun m' he => absurd he (by simp), fun s hs => ⟨?_, fun s' _ => ?_⟩⟩
  · intro m' he address _ hh
    obtain rfl := Event.inject.inj he
    obtain ⟨wallet, ha⟩ := hh
    simp only [step, hbuild, Option.some.injEq] at hs
    subst hs
    exact ⟨graphAccountMessage, ⟨wallet, List.mem_append_right _ (List.mem_singleton_self _), ha⟩,
      hm.symm⟩
  · refine Run.alongRun_of_forall fun t e he m' hinj => ?_
    subst hinj
    exact absurd he (by simp)

/-- The recorded message under another identifier and with a later nonce. -/
def tampered : GraphcastMessage SimpleMessage :=
  { graphAccountMessage with identifier := "another-topic", nonce := 1688744300 }

/-- And under another graph account. -/
def misattributed : GraphcastMessage SimpleMessage :=
  { tampered with graphAccount := "0x6121d1036d7016b125f019268b0406a4c15bb99d" }

/-- **The attacker passes signed payloads off under fields of its own**: under `Indexer` another
identifier and nonce, under `ValidAddress` another graph account too. -/
theorem accepted_tampered :
    (∃ s, Run.run (step goerliEthers goerliSigner Unit ⟨"registry", "network"⟩ "" .indexer)
        (init 1688744300) (attack tampered) = some s ∧
      Run.AlongRun (step goerliEthers goerliSigner Unit ⟨"registry", "network"⟩ "" .indexer)
        (Unforged goerliEthers goerliSigner) (init 1688744300) (attack tampered) ∧
      s.receiver.Accepted 1 tampered ∧
      tampered.recoverSenderAddress goerliEthers =
        .ok (senderAddress goerliEthers goerliSigner ()) ∧
      ∀ address m', Built goerliEthers goerliSigner s address m' →
        m'.identifier ≠ tampered.identifier ∧ m'.nonce ≠ tampered.nonce) ∧
    ∃ s, Run.run (step goerliEthers goerliSigner Unit ⟨"registry", "network"⟩ "" .validAddress)
        (init 1688744300) (attack misattributed) = some s ∧
      Run.AlongRun (step goerliEthers goerliSigner Unit ⟨"registry", "network"⟩ "" .validAddress)
        (Unforged goerliEthers goerliSigner) (init 1688744300) (attack misattributed) ∧
      s.receiver.Accepted 1 misattributed ∧
      misattributed.recoverSenderAddress goerliEthers =
        .ok (senderAddress goerliEthers goerliSigner ()) ∧
      ∀ address m', Built goerliEthers goerliSigner s address m' →
        m'.identifier ≠ misattributed.identifier ∧ m'.nonce ≠ misattributed.nonce ∧
          m'.graphAccount ≠ misattributed.graphAccount := by
  have hindexer : (Run.run (step goerliEthers goerliSigner Unit ⟨"registry", "network"⟩ ""
      .indexer) (init 1688744300) (attack tampered)).map
        (fun s => (s.built, s.receiver.calls[1]?)) =
      some ([((), graphAccountMessage)], some ⟨tampered, .returned .nonce (.ok tampered)⟩) := by
    decide +kernel
  have hvalid : (Run.run (step goerliEthers goerliSigner Unit ⟨"registry", "network"⟩ ""
      .validAddress) (init 1688744300) (attack misattributed)).map
        (fun s => (s.built, s.receiver.calls[1]?)) =
      some ([((), graphAccountMessage)],
        some ⟨misattributed, .returned .nonce (.ok misattributed)⟩) := by
    decide +kernel
  obtain ⟨s, hs, heq⟩ := Option.map_eq_some_iff.mp hindexer
  obtain ⟨hb, hacc⟩ := Prod.mk.inj heq
  obtain ⟨t, ht, heq⟩ := Option.map_eq_some_iff.mp hvalid
  obtain ⟨hbt, hacct⟩ := Prod.mk.inj heq
  refine ⟨⟨s, hs, unforged_attack rfl, hacc, by decide +kernel, ?_⟩,
    t, ht, unforged_attack rfl, hacct, by decide +kernel, ?_⟩
  · rintro address m' ⟨wallet, hm, -⟩
    rw [hb] at hm
    obtain rfl := (Prod.mk.inj (List.mem_singleton.mp hm)).2
    decide
  · rintro address m' ⟨wallet, hm, -⟩
    rw [hbt] at hm
    obtain rfl := (Prod.mk.inj (List.mem_singleton.mp hm)).2
    decide

/-- The tampered message still carries what the main indexer signed, under the account that the
subgraphs have for it. -/
theorem accepted_authentic_tampered :
    (∃ s, Run.run (step goerliEthers goerliSigner Unit ⟨"registry", "network"⟩ "" .indexer)
        (init 1688744300) (attack tampered) = some s ∧
      ∃ m', Built goerliEthers goerliSigner s (senderAddress goerliEthers goerliSigner ()) m' ∧
        m'.payload = tampered.payload) ∧
    senderAddress goerliEthers goerliSigner () ≠ "" ∧
    Vouches goerliSubgraphs Unit "network" "registry"
      (senderAddress goerliEthers goerliSigner ()) tampered.graphAccount .indexer := by
  have hrun : (Run.run (step goerliEthers goerliSigner Unit ⟨"registry", "network"⟩ "" .indexer)
      (init 1688744300) (attack tampered)).map (fun s => s.receiver.calls[1]?) =
      some (some ⟨tampered, .returned .nonce (.ok tampered)⟩) := by
    decide +kernel
  obtain ⟨s, hs, hacc⟩ := Option.map_eq_some_iff.mp hrun
  obtain ⟨hpayload, hidentity⟩ := accepted_authentic signsAs_goerliSigner hs
    (unforged_attack rfl) hacc (by decide +kernel) ⟨(), rfl⟩
  obtain ⟨hne, web, hweb, hvouches⟩ := hidentity (by decide)
  -- the attack has one sender check for the second delivery
  obtain rfl : web = goerliSubgraphs := by simpa [attack] using hweb
  exact ⟨⟨s, hs, hpayload⟩, hne, hvouches (filtersAccounts_goerliSubgraphs "network")⟩

end Exchange

end GraphcastSdk

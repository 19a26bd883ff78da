import GraphcastSdk.Account
import GraphcastSdk.Lib.HighWater
import GraphcastSdk.Lib.Prelude

/-!
# Graphcast messages and their checks (`graphcast_agent/message_typing.rs`)

`GraphcastMessage` with `build` and the receiver's checks: `valid_sender`, `valid_time`,
`valid_nonce`, and `check_message_validity`, which runs them in this order. The radio's payload
type `T` and the wallets `W` are arbitrary.

`ethers` is a parameter: `Ethers` for what a receiver calls (EIP-712 encoding of the payload,
parsing a signature, recovering its address) and `Signer` for what a sender calls. The nonces map
is passed in and out of the calls that lock it.

Each check has one specification: `validSender_eq_ok`, `validTime_eq_ok`, and for the nonce check
`validNonce_eq_ok` (its verdict) with `saved_validNonce` and `validNonce_unrecovered` (its
effect): over the register view `saved` of the map it offers the nonce under the message's
identifier and recovered address. `checkMessageValidity_eq_ok` puts them together.
-/

namespace GraphcastSdk

/-- `MSG_REPLAY_LIMIT`. -/
def msgReplayLimit : UInt64 := 3600000

/-- `type NoncesMap`: identifier, then sender address, then nonce. -/
abbrev NoncesMap := HashMap String (HashMap String UInt64)

/-! ## What is used of `ethers` -/

/-- An address. -/
abbrev H160 := BitVec 160

/-- An EIP-712 digest, `[u8; 32]`. -/
abbrev Digest := BitVec 256

/-- `ethers_core::types::Signature`. -/
structure Signature where
  r : BitVec 256
  s : BitVec 256
  v : UInt64
  deriving Repr, DecidableEq

/-- The receiver's side. -/
structure Ethers (T : Type) where
  /-- `payload.encode_eip712()`. -/
  encodeEip712 : T → Except String Digest
  /-- `Signature::from_str`. -/
  signatureFromStr : String → Except String Signature
  /-- `sig.recover(digest)`. -/
  recover : Signature → Digest → Except String H160
  /-- `format!("{addr:#x}")`. -/
  lowerHex : H160 → String

/-- The sender's side. -/
structure Signer (T W : Type) where
  /-- `wallet.sign_typed_data(&payload)`. -/
  signTypedData : W → T → Except String Signature
  /-- `sig.to_string()`. -/
  signatureToString : Signature → String
  /-- `wallet.address()`. -/
  address : W → H160

/-! ## Messages -/

structure GraphcastMessage (T : Type) where
  /-- Graph identifier for the entity the radio is communicating about -/
  identifier : String
  /-- nonce cached to check against the next incoming message -/
  nonce : UInt64
  /-- Graph account sender -/
  graphAccount : String
  /-- content to share about the identified entity -/
  payload : T
  /-- signature over radio payload -/
  signature : String
  deriving Repr, DecidableEq

namespace GraphcastMessage

variable {T W : Type}

/-- `GraphcastMessage::new`. -/
def new (identifier : String) (nonce : UInt64) (graphAccount : String) (payload : T)
    (signature : String) : Outcome MessageError (GraphcastMessage T) :=
  .ok { identifier, nonce, graphAccount, payload, signature }

/-- `build`: sign the payload alone, then assemble the message. -/
def build (signer : Signer T W) (wallet : W) (identifier graphAccount : String) (nonce : UInt64)
    (payload : T) : Outcome MessageError (GraphcastMessage T) := do
  let sig ← Outcome.ofExcept (fun _ => .signing) (signer.signTypedData wallet payload)
  new identifier nonce graphAccount payload (signer.signatureToString sig)

variable (ethers : Ethers T)

/-- `recover_sender_address`. -/
def recoverSenderAddress (self : GraphcastMessage T) : Outcome MessageError String :=
  match ethers.encodeEip712 self.payload with
  | .error _ => .panic "Could not encode payload using EIP712"
  | .ok signedData => do
    let sig ← Outcome.ofExcept .invalidFields (ethers.signatureFromStr self.signature)
    let addr ← Outcome.ofExcept .invalidFields (ethers.recover sig signedData)
    pure (ethers.lowerHex addr)

/-- `remote_account`. -/
def remoteAccount (self : GraphcastMessage T) (localSenderId : String) :
    Outcome MessageError Account := do
  let a ← self.recoverSenderAddress ethers
  if a ≠ localSenderId then pure ⟨a, self.graphAccount⟩
  else .err (.invalidFields "Message is from self, drop message")

section Sender

variable (web : Subgraphs) (F : Type) [F32 F]

/-- `valid_sender`. -/
def validSender (self : GraphcastMessage T)
    (registrySubgraph networkSubgraph localSenderId : String) (idValidation : IdentityValidation) :
    Outcome MessageError (GraphcastMessage T) :=
  if idValidation = .noCheck then .ok self
  else do
    let account ← self.remoteAccount ethers localSenderId
    let _ ← account.verify web F networkSubgraph registrySubgraph idValidation
    pure self

end Sender

/-- `valid_time`, at the clock reading `currentTime` (`Utc::now().timestamp()`). -/
def validTime (self : GraphcastMessage T) (currentTime : Int64) :
    Outcome MessageError (GraphcastMessage T) :=
  match checkedSub currentTime.toUInt64 self.nonce with
  | some messageAge =>
    if 0 ≤ messageAge ∧ messageAge < msgReplayLimit then .ok self
    else .err (.invalidFields
      s!"Message timestamp {messageAge} outside acceptable range {msgReplayLimit}, drop message")
  | none => .err (.invalidFields "Error calculating message age, possible underflow.")

end GraphcastMessage

/-- `prepare_nonces`. -/
def prepareNonces (noncesPerSubgraph : HashMap String UInt64) (address : String) (nonce : UInt64) :
    HashMap String UInt64 :=
  noncesPerSubgraph.insert address nonce

namespace GraphcastMessage

variable {T : Type} (ethers : Ethers T)

/-- `valid_nonce` while it holds the lock, for the recovered address. -/
def lockedNonce (self : GraphcastMessage T) (address : String) (nonces : NoncesMap) :
    Outcome MessageError (GraphcastMessage T) × NoncesMap :=
  match nonces.lookup self.identifier with
  | some noncesPerSubgraph =>
    match noncesPerSubgraph.lookup address with
    | some nonce =>
      if nonce > self.nonce then
        (.err (.invalidFields (s!"Invalid nonce for subgraph {self.identifier} and address " ++
          s!"{address}! Received nonce - {self.nonce} is smaller than currently saved one - " ++
          s!"{nonce}, skipping message...")), nonces)
      else
        (.ok self, nonces.insert self.identifier
          (prepareNonces noncesPerSubgraph address self.nonce))
    | none =>
      (.err (.invalidFields (s!"No saved nonce for address {address} on topic " ++
        s!"{self.identifier}, saving this one and skipping message...")),
        nonces.insert self.identifier (prepareNonces noncesPerSubgraph address self.nonce))
  | none =>
    (.err (.invalidFields (s!"First time receiving message for subgraph {self.identifier}. " ++
      "Saving sender and nonce, skipping message...")),
      nonces.insert self.identifier (prepareNonces ∅ address self.nonce))

/-- `valid_nonce`. -/
def validNonce (self : GraphcastMessage T) (nonces : NoncesMap) :
    Outcome MessageError (GraphcastMessage T) × NoncesMap :=
  match self.recoverSenderAddress ethers with
  | .ok address => self.lockedNonce address nonces
  | .err e => (.err e, nonces)
  | .panic p => (.panic p, nonces)

end GraphcastMessage

/-- `callbook::CallBook`, its subgraph endpoints. -/
structure CallBook where
  graphcastRegistry : String
  graphNetwork : String
  deriving Repr, DecidableEq

/-- `check_message_validity`, with nothing else running between its checks: the clock reads
`currentTime` and the map holds `nonces`. -/
def checkMessageValidity {T : Type} (ethers : Ethers T) (web : Subgraphs) (F : Type) [F32 F]
    (graphcastMessage : GraphcastMessage T) (nonces : NoncesMap) (currentTime : Int64)
    (callbook : CallBook) (localSenderId : String) (idValidation : IdentityValidation) :
    Outcome MessageError (GraphcastMessage T) × NoncesMap :=
  match (do
    let m ← graphcastMessage.validSender ethers web F callbook.graphcastRegistry
      callbook.graphNetwork localSenderId idValidation
    m.validTime currentTime) with
  | .ok m =>
    let (r, nonces) := m.validNonce ethers nonces
    (do let _ ← r; pure graphcastMessage, nonces)
  | .err e => (.err e, nonces)
  | .panic p => (.panic p, nonces)

namespace GraphcastMessage

variable {T : Type} {ethers : Ethers T} {self r : GraphcastMessage T}

/-- What is built keeps every argument in its place. -/
theorem build_eq_ok {W : Type} {signer : Signer T W} {wallet : W}
    {identifier graphAccount : String} {nonce : UInt64} {payload : T} {m : GraphcastMessage T} :
    build signer wallet identifier graphAccount nonce payload = .ok m ↔
      ∃ sig, signer.signTypedData wallet payload = .ok sig ∧
        m = ⟨identifier, nonce, graphAccount, payload, signer.signatureToString sig⟩ := by
  unfold build new
  simp only [Outcome.bind_eq_ok, Outcome.ofExcept_eq_ok, Outcome.ok.injEq, eq_comm (b := m)]

/-! ## The sender check -/

theorem remoteAccount_eq_ok {localSenderId : String} {account : Account} :
    self.remoteAccount ethers localSenderId = .ok account ↔
      ∃ s, self.recoverSenderAddress ethers = .ok s ∧ s ≠ localSenderId ∧
        account = ⟨s, self.graphAccount⟩ := by
  unfold remoteAccount
  rw [Outcome.bind_eq_ok]
  constructor
  · rintro ⟨s, hs, h⟩
    split at h
    · rename_i hne
      exact ⟨s, hs, hne, (Outcome.ok.inj h).symm⟩
    · exact absurd h (by simp)
  · rintro ⟨s, hs, hne, rfl⟩
    exact ⟨s, hs, by rw [if_pos hne]; rfl⟩

/-- What the sender check accepts: anything without a check, else a foreign signer whose account
verifies. -/
theorem validSender_eq_ok {web : Subgraphs} {F : Type} [F32 F]
    {registrySubgraph networkSubgraph localSenderId : String} {idValidation : IdentityValidation} :
    self.validSender ethers web F registrySubgraph networkSubgraph localSenderId idValidation =
        .ok r ↔
      r = self ∧ (idValidation ≠ .noCheck → ∃ s, self.recoverSenderAddress ethers = .ok s ∧
        s ≠ localSenderId ∧ ∃ a, (⟨s, self.graphAccount⟩ : Account).verify web F networkSubgraph
          registrySubgraph idValidation = .ok a) := by
  unfold validSender
  split
  · rename_i hm
    constructor
    · intro h
      exact ⟨(Outcome.ok.inj h).symm, fun hc => absurd hm hc⟩
    · rintro ⟨rfl, -⟩
      rfl
  · rename_i hm
    rw [Outcome.bind_eq_ok]
    constructor
    · rintro ⟨account, hacc, h⟩
      obtain ⟨s, hs, hne, rfl⟩ := remoteAccount_eq_ok.mp hacc
      obtain ⟨a, ha, h⟩ := Outcome.bind_eq_ok.mp h
      exact ⟨(Outcome.ok.inj h).symm, fun _ => ⟨s, hs, hne, a, ha⟩⟩
    · rintro ⟨rfl, h⟩
      obtain ⟨s, hs, hne, a, ha⟩ := h hm
      exact ⟨_, remoteAccount_eq_ok.mpr ⟨s, hs, hne, rfl⟩, Outcome.bind_eq_ok.mpr ⟨a, ha, rfl⟩⟩

/-! ## The time check -/

/-- What the time check accepts: a nonce at most the clock, and less than the limit behind it. -/
theorem validTime_eq_ok {currentTime : Int64} :
    self.validTime currentTime = .ok r ↔
      r = self ∧ self.nonce ≤ currentTime.toUInt64 ∧
        currentTime.toUInt64 - self.nonce < msgReplayLimit := by
  unfold validTime
  split
  · rename_i messageAge h
    obtain ⟨hle, rfl⟩ := checkedSub_eq_some.mp h
    split
    · rename_i hage
      constructor
      · intro h
        exact ⟨(Outcome.ok.inj h).symm, hle, hage.2⟩
      · rintro ⟨rfl, -, -⟩
        rfl
    · rename_i hage
      constructor
      · intro h
        exact absurd h (by simp)
      · rintro ⟨-, -, hlt⟩
        exact absurd ⟨UInt64.zero_le, hlt⟩ hage
  · rename_i h
    constructor
    · intro h
      exact absurd h (by simp)
    · rintro ⟨-, hle, -⟩
      rw [checkedSub, if_pos hle] at h
      exact absurd h (by simp)

end GraphcastMessage

/-! ## The nonce check -/

/-- The nonce saved for an identifier and a sender address. -/
def saved (nonces : NoncesMap) (p : String × String) : Option UInt64 :=
  (nonces.lookup p.1).bind fun noncesPerSubgraph => noncesPerSubgraph.lookup p.2

theorem saved_empty : saved ∅ = fun _ => none := by
  funext p
  simp [saved]

/-- Saving a nonce rebuilds the identifier's map and changes one entry. -/
theorem saved_insert {nonces : NoncesMap} {identifier : String}
    {noncesPerSubgraph : HashMap String UInt64}
    (h : ∀ a, noncesPerSubgraph.lookup a = saved nonces (identifier, a)) (address : String)
    (nonce : UInt64) :
    saved (nonces.insert identifier (prepareNonces noncesPerSubgraph address nonce)) =
      Function.update (saved nonces) (identifier, address) (some nonce) := by
  funext ⟨i, a⟩
  unfold saved prepareNonces
  rw [HashMap.lookup_insert_ite]
  by_cases hi : i = identifier
  · subst hi
    rw [if_pos rfl, Option.bind_some, HashMap.lookup_insert_ite, h]
    by_cases ha : a = address
    · subst ha
      rw [if_pos rfl, Function.update_self]
    · rw [if_neg ha, Function.update_of_ne (by simp [ha])]
      rfl
  · rw [if_neg hi, Function.update_of_ne (by simp [hi])]

namespace GraphcastMessage

variable {T : Type} {ethers : Ethers T} {self r : GraphcastMessage T} {nonces : NoncesMap}

/-- **While it holds the lock, the nonce check offers the nonce to the map.** -/
theorem saved_lockedNonce (address : String) :
    saved (self.lockedNonce address nonces).2 =
      HighWater.offer (saved nonces) (self.identifier, address) self.nonce := by
  unfold lockedNonce HighWater.offer
  split
  · rename_i noncesPerSubgraph hi
    have hper : ∀ a, noncesPerSubgraph.lookup a = saved nonces (self.identifier, a) := by
      intro a
      simp only [saved, hi, Option.bind_some]
    split
    · rename_i nonce ha
      have hs : saved nonces (self.identifier, address) = some nonce := by rw [← hper, ha]
      split
      · rename_i hgt
        rw [hs]
        simp only [HighWater.raise]
        rw [max_eq_left (le_of_lt hgt), ← hs, Function.update_eq_self]
      · rename_i hngt
        rw [saved_insert hper, hs]
        simp only [HighWater.raise]
        rw [max_eq_right (not_lt.mp hngt)]
    · rename_i ha
      have hs : saved nonces (self.identifier, address) = none := by rw [← hper, ha]
      rw [saved_insert hper, hs]
      rfl
  · rename_i hi
    have hs : ∀ a, saved nonces (self.identifier, a) = none := by
      intro a
      simp only [saved, hi, Option.bind_none]
    rw [saved_insert (fun a => by rw [hs, Finmap.lookup_empty]), hs]
    rfl

/-- While it holds the lock, the nonce check accepts a nonce at least the one saved. -/
theorem lockedNonce_eq_ok {address : String} :
    (self.lockedNonce address nonces).1 = .ok r ↔
      r = self ∧ ∃ w, saved nonces (self.identifier, address) = some w ∧ w ≤ self.nonce := by
  unfold lockedNonce saved
  split
  · rename_i noncesPerSubgraph hi
    rw [hi, Option.bind_some]
    split
    · rename_i nonce ha
      rw [ha]
      split
      · rename_i hgt
        constructor
        · intro h
          exact absurd h (by simp)
        · rintro ⟨-, w, hw, hle⟩
          obtain rfl := Option.some.inj hw
          exact absurd hgt (not_lt.mpr hle)
      · rename_i hngt
        constructor
        · intro h
          exact ⟨(Outcome.ok.inj h).symm, nonce, rfl, not_lt.mp hngt⟩
        · rintro ⟨rfl, -⟩
          rfl
    · rename_i ha
      simp [ha]
  · rename_i hi
    simp [hi]

theorem validNonce_recovered {address : String}
    (h : self.recoverSenderAddress ethers = .ok address) :
    self.validNonce ethers nonces = self.lockedNonce address nonces := by
  unfold validNonce
  rw [h]

/-- A message whose signature does not recover leaves the map alone. -/
theorem validNonce_unrecovered (h : ∀ address, self.recoverSenderAddress ethers ≠ .ok address) :
    (self.validNonce ethers nonces).2 = nonces := by
  unfold validNonce
  split
  · rename_i address ha
    exact absurd ha (h address)
  · rfl
  · rfl

/-- **What the nonce check accepts.** -/
theorem validNonce_eq_ok :
    (self.validNonce ethers nonces).1 = .ok r ↔
      r = self ∧ ∃ address, self.recoverSenderAddress ethers = .ok address ∧
        ∃ w, saved nonces (self.identifier, address) = some w ∧ w ≤ self.nonce := by
  constructor
  · intro h
    cases hrec : self.recoverSenderAddress ethers with
    | ok address =>
      rw [validNonce_recovered hrec] at h
      obtain ⟨hr, hw⟩ := lockedNonce_eq_ok.mp h
      exact ⟨hr, address, rfl, hw⟩
    | err e => simp [validNonce, hrec] at h
    | panic p => simp [validNonce, hrec] at h
  · rintro ⟨hr, address, hrec, hw⟩
    rw [validNonce_recovered hrec]
    exact lockedNonce_eq_ok.mpr ⟨hr, hw⟩

end GraphcastMessage

section CheckMessageValidity

variable {T : Type} {ethers : Ethers T} {web : Subgraphs} {F : Type} [F32 F]
  {m r : GraphcastMessage T} {nonces : NoncesMap} {currentTime : Int64} {callbook : CallBook}
  {localSenderId : String} {idValidation : IdentityValidation}

/-- The checks in their order: a check that returns a value hands over to the next one, and the
nonce check alone touches the map. -/
theorem checkMessageValidity_eq :
    checkMessageValidity ethers web F m nonces currentTime callbook localSenderId idValidation =
      match m.validSender ethers web F callbook.graphcastRegistry callbook.graphNetwork
        localSenderId idValidation with
      | .ok _ =>
        match m.validTime currentTime with
        | .ok _ => m.validNonce ethers nonces
        | .err e => (.err e, nonces)
        | .panic p => (.panic p, nonces)
      | .err e => (.err e, nonces)
      | .panic p => (.panic p, nonces) := by
  unfold checkMessageValidity
  cases hsender : m.validSender ethers web F callbook.graphcastRegistry callbook.graphNetwork
    localSenderId idValidation with
  | err e => rfl
  | panic p => rfl
  | ok m₁ =>
    obtain rfl := (GraphcastMessage.validSender_eq_ok.mp hsender).1
    rw [Outcome.ok_bind]
    cases htime : m₁.validTime currentTime with
    | err e => rfl
    | panic p => rfl
    | ok m₂ =>
      obtain rfl := (GraphcastMessage.validTime_eq_ok.mp htime).1
      refine Prod.ext ?_ rfl
      -- an accepted message is returned as it came
      cases hnonce : (m₂.validNonce ethers nonces).1 with
      | err e => simp [hnonce]
      | panic p => simp [hnonce]
      | ok m₃ =>
        obtain rfl := (GraphcastMessage.validNonce_eq_ok.mp hnonce).1
        simp [hnonce]

/-- **`check_message_validity` accepts what the three checks accept.** -/
theorem checkMessageValidity_eq_ok :
    (checkMessageValidity ethers web F m nonces currentTime callbook localSenderId
        idValidation).1 = .ok r ↔
      r = m ∧ m.validSender ethers web F callbook.graphcastRegistry callbook.graphNetwork
          localSenderId idValidation = .ok m ∧
        m.validTime currentTime = .ok m ∧ (m.validNonce ethers nonces).1 = .ok m := by
  rw [checkMessageValidity_eq]
  constructor
  · intro h
    split at h
    · rename_i m₁ hsender
      obtain rfl := (GraphcastMessage.validSender_eq_ok.mp hsender).1
      split at h
      · rename_i m₂ htime
        obtain rfl := (GraphcastMessage.validTime_eq_ok.mp htime).1
        obtain rfl := (GraphcastMessage.validNonce_eq_ok.mp h).1
        exact ⟨rfl, hsender, htime, h⟩
      · exact absurd h (by simp)
      · exact absurd h (by simp)
    · exact absurd h (by simp)
    · exact absurd h (by simp)
  · rintro ⟨rfl, hsender, htime, hnonce⟩
    simp only [hsender, htime, hnonce]

end CheckMessageValidity

/-! ## The recorded message of the tests -/

/-- `tests::SimpleMessage`. -/
structure SimpleMessage where
  identifier : String
  content : String
  deriving Repr, DecidableEq

/-- The payload that was signed. -/
def ping : SimpleMessage := ⟨"table", "Ping"⟩

/-- The signature "generated from goerli main indexer account". -/
def pingSignature : Signature where
  r := 0xa68733f919065a7eab215add3b0dc9cfb2d63b00fcd310803e8ee2dc9cf034af#256
  s := 0x03f6fa4ba431e3d6167156d604e1dea2136bb3fea6d290ac6db980b30f790acb#256
  v := 28

def pingSignatureText : String :=
  "a68733f919065a7eab215add3b0dc9cfb2d63b00fcd310803e8ee2dc9cf034af" ++
    "03f6fa4ba431e3d6167156d604e1dea2136bb3fea6d290ac6db980b30f790acb1c"

/-- `tests::graph_account_message`. -/
def graphAccountMessage : GraphcastMessage SimpleMessage where
  identifier := "ping-pong-content-topic"
  nonce := 1688744240
  graphAccount := "0xe9a1cabd57700b17945fd81feefba82340d9568f"
  payload := ping
  signature := pingSignatureText

/-- `ethers` as far as the recorded message goes: the digest of `ping` is `1`, and nothing but its
signature recovers. -/
def goerliEthers : Ethers SimpleMessage where
  encodeEip712 payload := .ok (if payload = ping then 1 else 0)
  signatureFromStr text :=
    if text = pingSignatureText then .ok pingSignature else .error "invalid signature"
  recover sig digest :=
    if sig = pingSignature ∧ digest = 1 then .ok 0xe9a1cabd57700b17945fd81feefba82340d9568f#160
    else .error "signature error"
  lowerHex addr :=
    "0x" ++ String.ofList
      ((List.range 40).map fun i => Nat.digitChar (addr.toNat >>> (4 * (39 - i)) % 16))

/-- `test_validate_graph_network`: the message recovers to the account it names. -/
example : graphAccountMessage.recoverSenderAddress goerliEthers =
    .ok "0xe9a1cabd57700b17945fd81feefba82340d9568f" := by
  decide +kernel

end GraphcastSdk

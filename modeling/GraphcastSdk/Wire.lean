import GraphcastSdk.Lib.Proto3Append
import GraphcastSdk.RoundTrip

/-!
# Bytes behind a message (`graphcast_agent/message_typing.rs`)

`RoundTrip` is about bytes that `send_message` made. Here somebody has put more bytes behind bytes
that decode:

* `decode_append_encodeRaw`: the fields of another message replace those they name, and its payload
  is merged into the one there;
* `restamped_accepted`: the signature covers the payload alone, so whoever passes bytes on can give
  them an identifier, a graph account and the receiver's time for a nonce. They are of the same
  signer still, and the sender and nonce checks decide whether they are accepted as fresh.
-/

namespace GraphcastSdk

namespace GraphcastMessage

variable {T : Type} {codec : PayloadCodec T}

theorem decode_eq_ok {bs : Proto3.Bytes} {m : GraphcastMessage T} :
    decode codec bs = .ok m ↔ Proto3.merge (mergeField codec) (initial codec) bs = .ok m :=
  Outcome.mapErr_eq_ok

/-! ## The fields of a message are read locally -/

/-- The tags that `GraphcastMessage` declares. -/
def declaredTags : List Nat := [1, 2, 3, 4, 5]

theorem mergeField_of_unknown (m : GraphcastMessage T) (tag : Nat) (wireType : Proto3.WireType)
    (bs : Proto3.Bytes) (h : tag ∉ declaredTags) : mergeField codec m tag wireType bs = (do
      let rest ← Proto3.skipField recursionLimit tag wireType bs
      pure (m, rest)) := by
  unfold mergeField
  split
  · exact absurd (by simp [declaredTags]) h
  · exact absurd (by simp [declaredTags]) h
  · exact absurd (by simp [declaredTags]) h
  · exact absurd (by simp [declaredTags]) h
  · exact absurd (by simp [declaredTags]) h
  · rfl

theorem local_mergeField (codec : PayloadCodec T) (m : GraphcastMessage T) (tag : Nat)
    (wireType : Proto3.WireType) : Proto3.Local (mergeField codec m tag wireType) := by
  by_cases htag : tag ∈ declaredTags
  · simp only [declaredTags, List.mem_cons, List.not_mem_nil, or_false] at htag
    rcases htag with rfl | rfl | rfl | rfl | rfl
    · exact ((Proto3.local_readString wireType).bind fun identifier =>
        Proto3.local_pure { m with identifier }).mapErr _
    · -- the payload's own reader sees the delimited bytes alone
      have hnext : ∀ bytes : Proto3.Bytes, Proto3.Local fun rest => (do
          let payload ← codec.merge m.payload bytes
          pure ({ m with payload }, rest)) := by
        intro bytes
        cases codec.merge m.payload bytes with
        | ok payload => exact Proto3.local_pure { m with payload }
        | err e => exact fun _ _ _ h => absurd h (by simp)
        | panic p => exact fun _ _ _ h => absurd h (by simp)
      exact ((Proto3.local_readMessage wireType).bind hnext).mapErr _
    · exact ((Proto3.local_readUint64 wireType).bind fun nonce =>
        Proto3.local_pure { m with nonce }).mapErr _
    · exact ((Proto3.local_readString wireType).bind fun graphAccount =>
        Proto3.local_pure { m with graphAccount }).mapErr _
    · exact ((Proto3.local_readString wireType).bind fun signature =>
        Proto3.local_pure { m with signature }).mapErr _
  · have h : mergeField codec m tag wireType = _ :=
      funext fun bs => mergeField_of_unknown m tag wireType bs htag
    rw [h]
    exact (Proto3.localSkip_skipField recursionLimit tag wireType).reads m

/-! ## Bytes behind a message -/

variable {m : GraphcastMessage T} {bs : Proto3.Bytes}

/-- A message after the fields of another were merged into it: what that one left out stays. -/
def overridden (m m₂ : GraphcastMessage T) (payload : T) : GraphcastMessage T where
  identifier := if m₂.identifier = "" then m.identifier else m₂.identifier
  nonce := if m₂.nonce = 0 then m.nonce else m₂.nonce
  graphAccount := if m₂.graphAccount = "" then m.graphAccount else m₂.graphAccount
  payload := payload
  signature := if m₂.signature = "" then m.signature else m₂.signature

/-- The fields of `m₂`, merged into `m`. -/
theorem merge_encodeRaw {m₂ : GraphcastMessage T} {payload : T}
    (hpayload : codec.merge m.payload (codec.encode m₂.payload) = .ok payload)
    (hlen : (m₂.encodeRaw codec).length < 2 ^ 63) :
    Proto3.merge (mergeField codec) m (m₂.encodeRaw codec) = .ok (m.overridden m₂ payload) := by
  unfold encodeRaw at hlen ⊢
  simp only [List.length_append] at hlen
  have hlocal := local_mergeField codec
  simp only [List.append_assoc]
  rw [Proto3.merge_append hlocal (Proto3.merge_encodeString
    { m with identifier := m₂.identifier } (by decide) (by decide) (by omega)
    fun bs hbs => by simp [mergeField, hbs, Outcome.mapErr])]
  generalize hm₁ : (if m₂.identifier = "" then m else { m with identifier := m₂.identifier }) = m₁
  have hpayload₁ : m₁.payload = m.payload := by
    subst hm₁
    split <;> rfl
  rw [Proto3.merge_append hlocal (Proto3.merge_encodeDelimited { m₁ with payload }
    (by decide) (by decide) (by omega)
    fun bs hbs => by simp [mergeField, hbs, Outcome.mapErr, hpayload₁, hpayload])]
  rw [Proto3.merge_append hlocal (Proto3.merge_encodeUint64
    { m₁ with payload, nonce := m₂.nonce } (by decide) (by decide)
    fun bs hbs => by simp [mergeField, hbs, Outcome.mapErr])]
  generalize hm₃ : (if m₂.nonce = 0 then { m₁ with payload } else
    { m₁ with payload, nonce := m₂.nonce }) = m₃
  rw [Proto3.merge_append hlocal (Proto3.merge_encodeString
    { m₃ with graphAccount := m₂.graphAccount } (by decide) (by decide) (by omega)
    fun bs hbs => by simp [mergeField, hbs, Outcome.mapErr])]
  generalize hm₄ : (if m₂.graphAccount = "" then m₃ else
    { m₃ with graphAccount := m₂.graphAccount }) = m₄
  rw [Proto3.merge_encodeString { m₄ with signature := m₂.signature } (by decide) (by decide)
    (by omega) fun bs hbs => by simp [mergeField, hbs, Outcome.mapErr]]
  subst hm₁ hm₃ hm₄
  unfold overridden
  split_ifs <;> rfl

/-- **The last field of a kind counts.** Behind bytes that decode, another message's encoding
replaces the fields it names, and its payload is merged into the one there. -/
theorem decode_append_encodeRaw (hm : decode codec bs = .ok m) {m₂ : GraphcastMessage T}
    {payload : T} (hpayload : codec.merge m.payload (codec.encode m₂.payload) = .ok payload)
    (hlen : (m₂.encodeRaw codec).length < 2 ^ 63) :
    decode codec (bs ++ m₂.encodeRaw codec) = .ok (m.overridden m₂ payload) := by
  rw [decode_eq_ok] at hm ⊢
  rw [Proto3.merge_append (local_mergeField codec) hm]
  exact merge_encodeRaw hpayload hlen

/-- A second identifier behind the recorded message, and nothing else. -/
theorem decode_append_encodeRaw_goerli :
    decode simpleCodec (graphAccountMessage.encodeRaw simpleCodec ++
      (⟨"table", 0, "", ⟨"", ""⟩, ""⟩ : GraphcastMessage SimpleMessage).encodeRaw simpleCodec) =
        .ok { graphAccountMessage with identifier := "table" } :=
  decode_append_encodeRaw (decode_encodeRaw roundTrips_simpleCodec (by decide +kernel)) rfl
    (by decide +kernel)

/-! ## What passing bytes on can change -/

/-- Fields that give a message an identifier, a nonce and a graph account. -/
def restamp (identifier : String) (nonce : UInt64) (graphAccount : String) : Proto3.Bytes :=
  Proto3.encodeString 1 identifier ++ Proto3.encodeUint64 3 nonce ++
    Proto3.encodeString 4 graphAccount

theorem decode_restamp (hm : decode codec bs = .ok m) {identifier graphAccount : String}
    {nonce : UInt64} (hidentifier : identifier ≠ "") (haccount : graphAccount ≠ "")
    (hnonce : nonce ≠ 0) (hlen : (restamp identifier nonce graphAccount).length < 2 ^ 63) :
    decode codec (bs ++ restamp identifier nonce graphAccount) =
      .ok { m with identifier, nonce, graphAccount } := by
  unfold restamp at hlen ⊢
  simp only [List.length_append] at hlen
  have hlocal := local_mergeField codec
  rw [decode_eq_ok] at hm ⊢
  simp only [List.append_assoc]
  rw [Proto3.merge_append hlocal hm, Proto3.merge_append hlocal (Proto3.merge_encodeString
      { m with identifier } (by decide) (by decide) (by omega)
      fun bs hbs => by simp [mergeField, hbs, Outcome.mapErr]), if_neg hidentifier,
    Proto3.merge_append hlocal (Proto3.merge_encodeUint64
      { m with identifier, nonce } (by decide) (by decide)
      fun bs hbs => by simp [mergeField, hbs, Outcome.mapErr]), if_neg hnonce,
    Proto3.merge_encodeString { m with identifier, nonce, graphAccount } (by decide) (by decide)
      (by omega) fun bs hbs => by simp [mergeField, hbs, Outcome.mapErr], if_neg haccount]

/-- The recovered address depends on the payload and the signature alone. -/
theorem recoverSenderAddress_congr {ethers : Ethers T} {m' : GraphcastMessage T}
    (hpayload : m'.payload = m.payload) (hsignature : m'.signature = m.signature) :
    m'.recoverSenderAddress ethers = m.recoverSenderAddress ethers := by
  unfold recoverSenderAddress
  rw [hpayload, hsignature]

/-- **Bytes that are passed on can be made fresh.** Somebody else's bytes of any age, with an
identifier, the receiver's time and a graph account put behind them, still decode, and to a message
of the same signer. It is accepted exactly when the signer's account with that graph account passes
the sender check (which is left out without validation) and the receiver has saved a nonce of the
signer on that identifier that is not above its own time. -/
theorem restamped_accepted {ethers : Ethers T} (web : Subgraphs) (F : Type) [F32 F]
    (callbook : CallBook) (localSenderId : String) (idValidation : IdentityValidation)
    (nonces : NoncesMap) {currentTime : Int64} (hm : decode codec bs = .ok m) {address : String}
    (hrec : m.recoverSenderAddress ethers = .ok address) {identifier graphAccount : String}
    (hidentifier : identifier ≠ "") (haccount : graphAccount ≠ "") (htime : currentTime ≠ 0)
    (hlen : (restamp identifier currentTime.toUInt64 graphAccount).length < 2 ^ 63) :
    ∃ m', decode codec (bs ++ restamp identifier currentTime.toUInt64 graphAccount) = .ok m' ∧
      m' = { m with identifier, nonce := currentTime.toUInt64, graphAccount } ∧
      ((checkMessageValidity ethers web F m' nonces currentTime callbook localSenderId
          idValidation).1 = .ok m' ↔
        (idValidation ≠ .noCheck → address ≠ localSenderId ∧ ∃ a,
          (⟨address, graphAccount⟩ : Account).verify web F callbook.graphNetwork
            callbook.graphcastRegistry idValidation = .ok a) ∧
        ∃ w, saved nonces (identifier, address) = some w ∧ w ≤ currentTime.toUInt64) := by
  have hnonce : currentTime.toUInt64 ≠ 0 := fun h => htime (congrArg UInt64.toInt64 h)
  refine ⟨_, decode_restamp hm hidentifier haccount hnonce hlen, rfl, ?_⟩
  generalize hm' : ({ m with identifier, nonce := currentTime.toUInt64, graphAccount } :
    GraphcastMessage T) = m'
  have hrec' : m'.recoverSenderAddress ethers = .ok address := by
    subst hm'
    exact (recoverSenderAddress_congr rfl rfl).trans hrec
  have hfields : m'.identifier = identifier ∧ m'.nonce = currentTime.toUInt64 ∧
      m'.graphAccount = graphAccount := by
    subst hm'
    exact ⟨rfl, rfl, rfl⟩
  obtain ⟨rfl, hn, rfl⟩ := hfields
  have hfresh : m'.validTime currentTime = .ok m' := by
    refine validTime_eq_ok.mpr ⟨rfl, le_of_eq hn, ?_⟩
    rw [hn, UInt64.sub_self]
    decide
  rw [checkMessageValidity_eq_ok, validSender_eq_ok, validNonce_eq_ok]
  simp only [true_and, hfresh, hrec', Outcome.ok.injEq, exists_eq_left', hn]

/-- The recorded message, months later and on another identifier. -/
theorem restamped_accepted_goerli :
    ∃ m', decode simpleCodec (graphAccountMessage.encodeRaw simpleCodec ++
        restamp "table" 1700000000 "0xe9a1cabd57700b17945fd81feefba82340d9568f") = .ok m' ∧
      (checkMessageValidity goerliEthers goerliSubgraphs Unit m' ((∅ : NoncesMap).insert "table"
        (prepareNonces ∅ "0xe9a1cabd57700b17945fd81feefba82340d9568f" 1699999999)) 1700000000
        ⟨"registry", "network"⟩ "" .indexer).1 = .ok m' := by
  obtain ⟨m', hdecode, -, haccepted⟩ := restamped_accepted goerliSubgraphs Unit
    ⟨"registry", "network"⟩ "" .indexer ((∅ : NoncesMap).insert "table"
      (prepareNonces ∅ "0xe9a1cabd57700b17945fd81feefba82340d9568f" 1699999999))
    (decode_encodeRaw roundTrips_simpleCodec (by decide +kernel))
    (show graphAccountMessage.recoverSenderAddress goerliEthers =
      .ok "0xe9a1cabd57700b17945fd81feefba82340d9568f" by decide +kernel)
    (show "table" ≠ "" by decide)
    (show "0xe9a1cabd57700b17945fd81feefba82340d9568f" ≠ "" by decide)
    (show (1700000000 : Int64) ≠ 0 by decide) (by decide +kernel)
  refine ⟨m', hdecode, haccepted.mpr ⟨fun _ => ⟨by decide, ?_⟩, 1699999999, by decide +kernel,
    by decide⟩⟩
  exact Outcome.isOk_iff.mp (by decide +kernel)

end GraphcastMessage

end GraphcastSdk

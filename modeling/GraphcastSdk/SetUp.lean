import GraphcastSdk.Amounts
import GraphcastSdk.Authenticity
import GraphcastSdk.Identity

/-!
# What the set-up check says of the messages sent

`validate_set_up` verifies the configured account to "check if messages sent by configured wallet
and graph_account will pass the configured id validation". It verifies the `graph_account` as
written, and the messages carry it in lower case, so receivers verify another account whenever the
two differ.

* `verify_isOk_iff_of_looksUpNetwork`, `verify_isOk_iff_of_not`: what a verdict rests on when the
  mode looks the account up on the network, and when it does not.
* `graphAccount_eq_iff`: which accounts in ASCII are sent as they are configured.
* `validateSetUp_eq_ok`: what makes the set-up itself fail; no verdict does.
* `verifyLocal_agrees_iff`: the check agrees with the receivers iff the configured account is in
  lower case already, the mode reads no subgraph, or the subgraphs happen to treat the two
  spellings alike (`TreatsAlike`). Whatever the subgraphs answer, it agrees in the first two cases
  alone.
* `checksummed_disagrees`: a checksummed account fails the check and passes at the receivers.

Premises: a built message recovers to its signer (`SignsAs`), whose address prints alike on both
sides (`PrintsAlike`).
-/

namespace GraphcastSdk

namespace Account

variable (web : Subgraphs) (F : Type) [F32 F] (networkSubgraph registrySubgraph : String)

/-- The network's first answer is the account itself, with an operator to name when the agent is
someone else. -/
def Listed (self : Account) : Prop :=
  ∃ x, NetworkAnswers web networkSubgraph self.agent self.account x ∧ x.id = self.account ∧
    (self.agent = self.account ∨ x.operators ≠ [])

/-- The account meets the stake requirement, where the mode has one. -/
def Staked (self : Account) (mode : IdentityValidation) : Prop :=
  mode.checksIndexer = true → ReportsStake web F networkSubgraph self.account

variable {web F networkSubgraph registrySubgraph} {self : Account} {mode : IdentityValidation}

theorem listed_iff : Listed web networkSubgraph self ↔
    ∃ a, self.accountFromNetwork web networkSubgraph = .ok a ∧ a.account = self.account := by
  unfold Listed accountFromNetwork
  constructor
  · rintro ⟨x, hx, hid, hop⟩
    have hag : ∃ agent, agentOf self.agent self.account x = some agent := by
      unfold agentOf
      split
      · exact ⟨_, rfl⟩
      · rename_i hne
        rcases hop with heq | hop
        · exact absurd heq hne
        · obtain ⟨o, os, ho⟩ := List.exists_cons_of_ne_nil hop
          exact ⟨o.id, by rw [ho]; rfl⟩
    obtain ⟨agent, hag⟩ := hag
    exact ⟨⟨agent, self.account⟩,
      (queryGraphAccount_eq_ok web).mpr ⟨x, hx, hid.symm, hag⟩, rfl⟩
  · rintro ⟨a, ha, hacc⟩
    obtain ⟨x, hx, hid, hag⟩ := (queryGraphAccount_eq_ok web).mp ha
    refine ⟨x, hx, hid.symm.trans hacc, ?_⟩
    unfold agentOf at hag
    split at hag
    · rename_i heq
      exact Or.inl heq
    · refine Or.inr fun hnil => ?_
      rw [hnil] at hag
      exact absurd hag (by simp)

/-- Where the network is asked, the verdict is its own. -/
theorem verify_isOk_iff_of_looksUpNetwork (hl : LooksUpNetwork web registrySubgraph self mode) :
    (self.verify web F networkSubgraph registrySubgraph mode).isOk = true ↔
      Listed web networkSubgraph self ∧ Staked web F networkSubgraph self mode := by
  rw [Outcome.isOk_iff, listed_iff]
  constructor
  · rintro ⟨a, ha⟩
    obtain ⟨hr, hacc, hs⟩ := verify_eq_ok.mp ha
    exact ⟨⟨a, (resolve_of_looksUpNetwork hl).mp hr, hacc⟩, hs⟩
  · rintro ⟨⟨a, ha, hacc⟩, hs⟩
    exact ⟨a, verify_eq_ok.mpr ⟨(resolve_of_looksUpNetwork hl).mpr ha, hacc, hs⟩⟩

/-- Elsewhere the registry decides, for a mode that asks a subgraph at all. -/
theorem verify_isOk_iff_of_not (hl : ¬ LooksUpNetwork web registrySubgraph self mode)
    (hno : mode ≠ .noCheck) (hva : mode ≠ .validAddress) :
    (self.verify web F networkSubgraph registrySubgraph mode).isOk = true ↔
      RegistryNames web registrySubgraph self.agent self.account ∧
        Staked web F networkSubgraph self mode := by
  rw [Outcome.isOk_iff]
  constructor
  · rintro ⟨a, ha⟩
    obtain ⟨hr, hacc, hs⟩ := verify_eq_ok.mp ha
    have hreg := (resolve_of_not_looksUpNetwork hl hno hva).mp hr
    exact ⟨hacc ▸ (accountFromRegistry_eq_ok.mp hreg).2, hs⟩
  · rintro ⟨hr, hs⟩
    have hreg : self.accountFromRegistry web registrySubgraph = .ok self :=
      accountFromRegistry_eq_ok.mpr ⟨rfl, hr⟩
    exact ⟨self, verify_eq_ok.mpr
      ⟨(resolve_of_not_looksUpNetwork hl hno hva).mpr hreg, rfl, hs⟩⟩

/-! ## Two spellings of one account -/

section TwoAccounts

variable (web F networkSubgraph registrySubgraph)

/-- What the subgraphs answer about `agent` does not tell `account` from `account'`: the registry,
where it decides, has neither for the agent (or not with the stake it takes), and the network,
where it is asked, has both or neither. -/
structure TreatsAlike (agent account account' : String) (mode : IdentityValidation) : Prop where
  network : LooksUpNetwork web registrySubgraph ⟨agent, account⟩ mode →
    (Listed web networkSubgraph ⟨agent, account⟩ ∧
        Staked web F networkSubgraph ⟨agent, account⟩ mode ↔
      Listed web networkSubgraph ⟨agent, account'⟩ ∧
        Staked web F networkSubgraph ⟨agent, account'⟩ mode)
  registry : ¬ LooksUpNetwork web registrySubgraph ⟨agent, account⟩ mode →
    ∀ spelling, spelling = account ∨ spelling = account' →
      RegistryNames web registrySubgraph agent spelling →
        ¬ Staked web F networkSubgraph ⟨agent, spelling⟩ mode

end TwoAccounts

variable {agent account account' : String}

theorem verify_isOk_of_validAddress :
    (self.verify web F networkSubgraph registrySubgraph .validAddress).isOk = true :=
  Outcome.isOk_iff.mpr ⟨self, (verify_eq_ok_of_unchecked rfl).mpr ⟨rfl, rfl⟩⟩

/-- Different accounts of one agent verify alike iff the subgraphs do not tell them apart. -/
theorem verify_alike_iff (hne : account ≠ account') (hno : mode ≠ .noCheck)
    (hva : mode ≠ .validAddress) :
    (((⟨agent, account⟩ : Account).verify web F networkSubgraph registrySubgraph mode).isOk = true ↔
      ((⟨agent, account'⟩ : Account).verify web F networkSubgraph registrySubgraph mode).isOk =
        true) ↔
      TreatsAlike web F networkSubgraph registrySubgraph agent account account' mode := by
  by_cases hl : LooksUpNetwork web registrySubgraph ⟨agent, account⟩ mode
  · have hl' : LooksUpNetwork web registrySubgraph ⟨agent, account'⟩ mode := hl
    rw [verify_isOk_iff_of_looksUpNetwork hl, verify_isOk_iff_of_looksUpNetwork hl']
    exact ⟨fun h => ⟨fun _ => h, fun hn => absurd hl hn⟩, fun h => h.network hl⟩
  · have hl' : ¬ LooksUpNetwork web registrySubgraph ⟨agent, account'⟩ mode := hl
    rw [verify_isOk_iff_of_not hl hno hva, verify_isOk_iff_of_not hl' hno hva]
    constructor
    · intro h
      refine ⟨fun hn => absurd hn hl, fun _ spelling hs hr hst => ?_⟩
      -- the registry has one account for the agent
      rcases hs with rfl | rfl
      · exact hne (registryNames_unique hr (h.mp ⟨hr, hst⟩).1)
      · exact hne (registryNames_unique (h.mpr ⟨hr, hst⟩).1 hr)
    · intro h
      constructor
      · rintro ⟨hr, hst⟩
        exact absurd hst (h.registry hl account (Or.inl rfl) hr)
      · rintro ⟨hr, hst⟩
        exact absurd hst (h.registry hl account' (Or.inr rfl) hr)

/-- Two spellings verify alike iff they are one, or nobody is asked, or nobody tells them apart. -/
theorem verify_spellings_iff (hno : mode ≠ .noCheck) :
    (((⟨agent, account⟩ : Account).verify web F networkSubgraph registrySubgraph mode).isOk = true ↔
      ((⟨agent, account'⟩ : Account).verify web F networkSubgraph registrySubgraph mode).isOk =
        true) ↔
      account' = account ∨ mode = .validAddress ∨
        TreatsAlike web F networkSubgraph registrySubgraph agent account account' mode := by
  by_cases heq : account' = account
  · rw [heq]
    exact ⟨fun _ => Or.inl rfl, fun _ => Iff.rfl⟩
  · by_cases hva : mode = .validAddress
    · subst hva
      refine ⟨fun _ => Or.inr (Or.inl rfl), fun _ => ?_⟩
      exact iff_of_true verify_isOk_of_validAddress verify_isOk_of_validAddress
    · rw [verify_alike_iff (Ne.symm heq) hno hva]
      simp only [heq, hva, false_or]

/-! ### Services that tell them apart -/

/-- The registry has every agent under `account`, and the network has this account alone, staked
as much as it asks for. -/
def knowsOnly (account : String) : Subgraphs where
  setGraphcastIds _ v := .ok ⟨some ⟨[⟨account, v.address⟩]⟩, none⟩
  graphAccount _ v :=
    .ok ⟨some ⟨if v.accountAddr = account then
      [⟨account, v.operatorAddr.map GraphAccount.Operator.mk, []⟩] else []⟩, none⟩
  indexerStatus _ _ := .ok ⟨some ⟨some ⟨"0", some []⟩, ⟨"0"⟩⟩, none⟩

/-- `0.0` parses, and is at least itself. -/
def ZeroMeetsZero (F : Type) [F32 F] : Prop :=
  ∃ x : F, F32.parse "0.0" = .ok x ∧ F32.ge x x = true

theorem registryNames_knowsOnly :
    RegistryNames (knowsOnly account) registrySubgraph agent account :=
  ⟨_, _, _, rfl, rfl, rfl, rfl⟩

theorem listed_knowsOnly {spelling : String} :
    Listed (knowsOnly account) networkSubgraph ⟨agent, spelling⟩ ↔ spelling = account := by
  constructor
  · rintro ⟨x, ⟨response, data, hr, -, hd, hx⟩, -, -⟩
    obtain rfl := Except.ok.inj hr
    obtain rfl := Option.some.inj hd
    by_contra hne
    have hnil : (if (graphAccountVariables agent spelling).accountAddr = account then
        [(⟨account, (graphAccountVariables agent spelling).operatorAddr.map
          GraphAccount.Operator.mk, []⟩ : GraphAccount.GraphAccounts)] else []) = [] := if_neg hne
    simp only [hnil] at hx
    exact absurd hx (by simp)
  · rintro rfl
    refine ⟨_, ⟨_, _, rfl, rfl, rfl, by simp only [graphAccountVariables, if_true]; rfl⟩, rfl, ?_⟩
    by_cases hself : agent = spelling
    · exact Or.inl hself
    · exact Or.inr (by simp [hself])

theorem reportsStake_knowsOnly (hz : ZeroMeetsZero F) {spelling : String} :
    ReportsStake (knowsOnly account) F networkSubgraph spelling := by
  obtain ⟨x, hx, hge⟩ := hz
  have hzero : grtGweiStringToF32 F "0" = .ok x := by
    unfold grtGweiStringToF32
    rw [show (addDecimal "0" : Outcome QueryError String) = .ok "0.0" from rfl, Outcome.ok_bind, hx]
    rfl
  refine ⟨_, _, some ⟨x, []⟩, x, rfl, rfl, rfl, ?_, hzero, hge⟩
  simp only [indexerOf, usableIndexer, hzero]
  rfl

theorem not_treatsAlike_knowsOnly (hz : ZeroMeetsZero F) (hne : account ≠ account') :
    ¬ TreatsAlike (knowsOnly account') F networkSubgraph registrySubgraph agent account account'
      mode := by
  intro h
  have hst : ∀ a, Staked (knowsOnly account') F networkSubgraph a mode := fun _ _ =>
    reportsStake_knowsOnly hz
  by_cases hl : LooksUpNetwork (knowsOnly account') registrySubgraph ⟨agent, account⟩ mode
  · exact hne (listed_knowsOnly.mp ((h.network hl).mpr ⟨listed_knowsOnly.mpr rfl, hst _⟩).1)
  · exact h.registry hl account' (Or.inr rfl) registryNames_knowsOnly (hst _)

end Account

/-! ## The check and the messages -/

section SetUp

variable {T W : Type} {u : Text.Unicode} {keys : Keys W} {signer : Signer T W} {ethers : Ethers T}

variable (ethers signer) in
/-- The signatures of `signer` survive their printing and recover to its addresses. -/
structure SignsBack : Prop where
  /-- `Signature::from_str` reads what `to_string` prints. -/
  parses : ∀ wallet payload sig, signer.signTypedData wallet payload = .ok sig →
    ethers.signatureFromStr (signer.signatureToString sig) = .ok sig
  /-- `recover` inverts `sign_typed_data`, which encodes the payload as the receiver does. -/
  recovers : ∀ wallet payload sig, signer.signTypedData wallet payload = .ok sig →
    ∃ digest, ethers.encodeEip712 payload = .ok digest ∧
      ethers.recover sig digest = .ok (signer.address wallet)

theorem SignsBack.signsAs (h : SignsBack signer ethers) : Exchange.SignsAs ethers signer := by
  intro wallet identifier graphAccount nonce payload m hm
  obtain ⟨sig, hsig, rfl⟩ := GraphcastMessage.build_eq_ok.mp hm
  obtain ⟨digest, hd, hr⟩ := h.recovers wallet payload sig hsig
  unfold GraphcastMessage.recoverSenderAddress
  simp only [hd, h.parses wallet payload sig hsig, hr, Outcome.ofExcept, Outcome.ok_bind]
  rfl

/-- A message names the configured account in lower case, and recovers to the wallet's address. -/
theorem GraphcastAgent.buildMessage_spec (hs : Exchange.SignsAs ethers signer)
    (hp : PrintsAlike keys ethers) {waku : Outcome GraphcastAgentError Unit}
    {config : GraphcastAgentConfig} {agent : GraphcastAgent W}
    (hagent : GraphcastAgent.new u keys signer waku config = .ok agent) {wallet : W}
    (hw : buildWallet keys config.walletKey = .ok wallet) {identifier : String} {payload : T}
    {nonce : UInt64} {m : GraphcastMessage T}
    (hm : agent.buildMessage signer identifier payload nonce = .ok m) :
    m.graphAccount = u.toLowercase config.graphAccount ∧
      m.recoverSenderAddress ethers = .ok (walletAddress keys signer wallet) := by
  obtain ⟨hwallet, hacc⟩ := identity_of_new hagent
  obtain rfl := Except.ok.inj (hw.symm.trans hwallet)
  have hbuild := Outcome.mapErr_eq_ok.mp hm
  obtain ⟨sig, -, rfl⟩ := GraphcastMessage.build_eq_ok.mp hbuild
  refine ⟨hacc, ?_⟩
  rw [hs _ _ _ _ _ _ hbuild, walletAddress, hp]
  rfl

/-- An account in ASCII is sent as it is configured iff it has no capital letter. -/
theorem GraphcastAgent.graphAccount_eq_iff {waku : Outcome GraphcastAgentError Unit}
    {config : GraphcastAgentConfig} {agent : GraphcastAgent W}
    (hagent : GraphcastAgent.new u keys signer waku config = .ok agent)
    (h : Text.IsAscii config.graphAccount) :
    agent.graphcastIdentity.graphAccount = config.graphAccount ↔
      ∀ c ∈ config.graphAccount.toList, c.isUpper = false := by
  rw [(identity_of_new hagent).2, u.toLowercase_eq_self_iff h]

variable {F : Type} [F32 F]

/-- **The set-up check rejects no identity**: it fails for a key that makes no wallet, or a graph
node that does not serve its statuses, and otherwise what `verify` returned is only logged. -/
theorem GraphcastAgentConfig.validateSetUp_eq_ok {web : Subgraphs} {node : GraphNode}
    {config : GraphcastAgentConfig} :
    config.validateSetUp keys signer web F node = .ok () ↔
      ∃ wallet, buildWallet keys config.walletKey = .ok wallet ∧
        (config.verifyLocal keys signer web F wallet).isPanic = false ∧
        ∀ url, config.graphNodeEndpoint = some url →
          (getIndexingStatuses node url).isOk = true := by
  unfold validateSetUp configuredWallet
  simp only [Outcome.bind_eq_ok, Outcome.ofExcept_eq_ok]
  refine exists_congr fun wallet => and_congr_right fun _ => ?_
  cases config.verifyLocal keys signer web F wallet <;> cases config.graphNodeEndpoint <;>
    simp [Outcome.bind_eq_ok, Outcome.mapErr_eq_ok, Outcome.isOk_iff]

/-- A checking receiver verifies the signer it recovers, with the account the message names. -/
theorem GraphcastMessage.validSender_isOk_iff {web : Subgraphs} {m : GraphcastMessage T}
    {registrySubgraph networkSubgraph localSenderId address : String} {mode : IdentityValidation}
    (hrec : m.recoverSenderAddress ethers = .ok address) (hmode : mode ≠ .noCheck)
    (hl : localSenderId ≠ address) :
    (m.validSender ethers web F registrySubgraph networkSubgraph localSenderId mode).isOk = true ↔
      ((⟨address, m.graphAccount⟩ : Account).verify web F networkSubgraph registrySubgraph
        mode).isOk = true := by
  simp only [Outcome.isOk_iff, validSender_eq_ok]
  constructor
  · rintro ⟨_, -, h⟩
    obtain ⟨s, hs, -, hv⟩ := h hmode
    obtain rfl := Outcome.ok.inj (hrec.symm.trans hs)
    exact hv
  · intro hv
    exact ⟨m, rfl, fun _ => ⟨address, hrec, hl.symm, hv⟩⟩

variable (F)

/-- **The set-up check agrees with the receivers iff the configured account is in lower case, the
mode reads no subgraph, or the subgraphs treat the two spellings alike.** -/
theorem verifyLocal_agrees_iff (hs : Exchange.SignsAs ethers signer) (hp : PrintsAlike keys ethers)
    {waku : Outcome GraphcastAgentError Unit} {config : GraphcastAgentConfig}
    {agent : GraphcastAgent W} (hagent : GraphcastAgent.new u keys signer waku config = .ok agent)
    {wallet : W} (hw : buildWallet keys config.walletKey = .ok wallet) {identifier : String}
    {payload : T} {nonce : UInt64} {m : GraphcastMessage T}
    (hm : agent.buildMessage signer identifier payload nonce = .ok m)
    (hmode : config.idValidation ≠ .noCheck) {localSenderId : String}
    (hl : localSenderId ≠ walletAddress keys signer wallet) :
    let agrees (web : Subgraphs) : Prop :=
      (config.verifyLocal keys signer web F wallet).isOk = true ↔
        (m.validSender ethers web F config.registrySubgraph config.networkSubgraph localSenderId
          config.idValidation).isOk = true
    (∀ web, agrees web ↔
      u.toLowercase config.graphAccount = config.graphAccount ∨
        config.idValidation = .validAddress ∨
        Account.TreatsAlike web F config.networkSubgraph config.registrySubgraph
          (walletAddress keys signer wallet) config.graphAccount
          (u.toLowercase config.graphAccount) config.idValidation) ∧
    (Account.ZeroMeetsZero F → ((∀ web, agrees web) ↔
      u.toLowercase config.graphAccount = config.graphAccount ∨
        config.idValidation = .validAddress)) := by
  intro agrees
  obtain ⟨hacc, hrec⟩ := agent.buildMessage_spec hs hp hagent hw hm
  have hweb : ∀ web, agrees web ↔
      u.toLowercase config.graphAccount = config.graphAccount ∨
        config.idValidation = .validAddress ∨
        Account.TreatsAlike web F config.networkSubgraph config.registrySubgraph
          (walletAddress keys signer wallet) config.graphAccount
          (u.toLowercase config.graphAccount) config.idValidation := by
    intro web
    show (_ ↔ _) ↔ _
    rw [GraphcastMessage.validSender_isOk_iff hrec hmode hl, hacc]
    exact Account.verify_spellings_iff hmode
  refine ⟨hweb, fun hz => ⟨fun h => ?_, fun h web => (hweb web).mpr ?_⟩⟩
  · by_cases hlow : u.toLowercase config.graphAccount = config.graphAccount
    · exact Or.inl hlow
    · rcases (hweb _).mp (h (Account.knowsOnly (u.toLowercase config.graphAccount))) with
        hlow' | hva | halike
      · exact absurd hlow' hlow
      · exact Or.inr hva
      · exact absurd halike (Account.not_treatsAlike_knowsOnly hz (Ne.symm hlow))
  · rcases h with hlow | hva
    · exact Or.inl hlow
    · exact Or.inr (Or.inl hva)

end SetUp

/-! ## A checksummed account -/

theorem signsBack_docSigner : SignsBack docSigner docEthers := by
  have hsigned : ∀ {wallet payload sig}, docSigner.signTypedData wallet payload = .ok sig →
      payload = ping ∧ sig = docSignature := by
    intro wallet payload sig h
    simp only [docSigner] at h
    split at h
    · rename_i hp
      exact ⟨hp, (Except.ok.inj h).symm⟩
    · exact absurd h (by simp)
  refine ⟨fun wallet payload sig h => ?_, fun wallet payload sig h => ?_⟩
  · obtain ⟨rfl, rfl⟩ := hsigned h
    rfl
  · obtain ⟨rfl, rfl⟩ := hsigned h
    exact ⟨_, rfl, rfl⟩

/-- Under a checksummed account, the documented configuration fails its own check against a
registry that has the account, while receivers accept its messages. -/
theorem checksummed_disagrees :
    Exchange.SignsAs docEthers docSigner ∧ PrintsAlike docKeys docEthers ∧
      ∃ agent m, GraphcastAgent.new asciiTables docKeys docSigner (.ok ())
          (docConfig "0xfd3082Ac044A8093a40051382Bc4607E3e41da56" .graphcastRegistered) =
            .ok agent ∧
        agent.buildMessage docSigner "some_subgraph_hash" ping 1688744240 = .ok m ∧
        ((docConfig "0xfd3082Ac044A8093a40051382Bc4607E3e41da56" .graphcastRegistered).verifyLocal
          docKeys docSigner (Account.knowsOnly "0xfd3082ac044a8093a40051382bc4607e3e41da56") Unit
          ()).isOk = false ∧
        (m.validSender docEthers (Account.knowsOnly "0xfd3082ac044a8093a40051382bc4607e3e41da56")
          Unit "https://api.thegraph.com/subgraphs/name/hopeyen/gossip-registry-test"
          "https://gateway.testnet.thegraph.com/network" "" .graphcastRegistered).isOk = true := by
  refine ⟨signsBack_docSigner.signsAs, fun _ => rfl, _, _, docAgent_new _ _,
    docAgent_buildMessage _ _, ?_, ?_⟩
  · decide +kernel
  · decide +kernel

theorem zeroMeetsZero_value : Account.ZeroMeetsZero FloatText.Value :=
  ⟨.finite 0, by decide +kernel, by decide +kernel⟩

/-- The same account in lower case, with these subgraphs and with any. -/
theorem verifyLocal_agrees_iff_lowercase :
    (((docConfig "0xfd3082ac044a8093a40051382bc4607e3e41da56" .indexer).verifyLocal docKeys
        docSigner goerliSubgraphs Unit ()).isOk = true ↔
      ((docMessage "0xfd3082ac044a8093a40051382bc4607e3e41da56").validSender docEthers
        goerliSubgraphs Unit
        "https://api.thegraph.com/subgraphs/name/hopeyen/gossip-registry-test"
        "https://gateway.testnet.thegraph.com/network" "" .indexer).isOk = true) ∧
    ∀ web, (((docConfig "0xfd3082ac044a8093a40051382bc4607e3e41da56" .indexer).verifyLocal docKeys
        docSigner web FloatText.Value ()).isOk = true ↔
      ((docMessage "0xfd3082ac044a8093a40051382bc4607e3e41da56").validSender docEthers
        web FloatText.Value
        "https://api.thegraph.com/subgraphs/name/hopeyen/gossip-registry-test"
        "https://gateway.testnet.thegraph.com/network" "" .indexer).isOk = true) := by
  have hlow : asciiTables.toLowercase "0xfd3082ac044a8093a40051382bc4607e3e41da56" =
      "0xfd3082ac044a8093a40051382bc4607e3e41da56" := by decide +kernel
  have hagent := docAgent_new "0xfd3082ac044a8093a40051382bc4607e3e41da56" .indexer
  have hw : buildWallet docKeys
      (docConfig "0xfd3082ac044a8093a40051382bc4607e3e41da56" .indexer).walletKey = .ok () := by
    decide
  have hother : "" ≠ walletAddress docKeys docSigner () := by decide +kernel
  exact ⟨((verifyLocal_agrees_iff Unit signsBack_docSigner.signsAs (fun _ => rfl) hagent hw
      (docAgent_buildMessage _ _) (by decide) hother).1 goerliSubgraphs).mpr (Or.inl hlow),
    ((verifyLocal_agrees_iff FloatText.Value signsBack_docSigner.signsAs (fun _ => rfl) hagent hw
      (docAgent_buildMessage _ _) (by decide) hother).2 zeroMeetsZero_value).mpr (Or.inl hlow)⟩

end GraphcastSdk

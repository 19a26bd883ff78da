import GraphcastSdk.Graphql.ClientGraphNode
import GraphcastSdk.Modes

/-!
# Responses that report errors

A response may carry `data` and `errors` side by side. The network-subgraph clients look at
`errors` first (`checkErrors`); the registry client and the two graph node clients look at `data`
alone.

* `reported_errors_refused_iff`: which of the queries refuse a response that reports errors, and
  when the others do; and when `Account::verify` accepts an account on the strength of one.
* `never_panics_iff`: the network-subgraph clients index the `errors` list they are given, so they
  panic on the empty one and on nothing else.
-/

namespace GraphcastSdk

variable {web : Subgraphs} {node : GraphNode} {F : Type} [F32 F] {url : String}

/-! ## The clients that check `errors` -/

section Checked

variable {operator account subgraphId : String} {response : Response GraphAccount.ResponseData}

theorem isErr_queryGraphAccount
    (hr : web.graphAccount url (graphAccountVariables operator account) = .ok response)
    (he : response.ReportsErrors) : (queryGraphAccount web url operator account).isErr = true := by
  unfold queryGraphAccount
  rw [hr]
  exact isErr_of_reportsErrors he _

theorem isErr_ownerData (hr : web.graphAccount url ⟨[], account⟩ = .ok response)
    (he : response.ReportsErrors) : (ownerData web url account).isErr = true := by
  unfold ownerData
  rw [hr]
  exact isErr_of_reportsErrors he _

theorem isErr_queryNetworkSubgraph {response : Response IndexerStatus.ResponseData}
    (hr : web.indexerStatus url ⟨account⟩ = .ok response) (he : response.ReportsErrors) :
    (queryNetworkSubgraph web F url account).isErr = true := by
  unfold queryNetworkSubgraph
  rw [hr]
  exact isErr_of_reportsErrors he _

theorem isPanic_queryGraphAccount
    (hr : web.graphAccount url (graphAccountVariables operator account) = .ok response) :
    (queryGraphAccount web url operator account).isPanic = true ↔ response.errors = some [] := by
  have hmatched : ∀ data : GraphAccount.ResponseData,
      (matchedAgent operator account data).isPanic = false := by
    intro data
    unfold matchedAgent
    split <;> simp
  unfold queryGraphAccount
  rw [hr]
  refine isPanic_of_checked (Outcome.isPanic_bind_of_not (Outcome.isPanic_okOr _ _) ?_)
  refine fun data _ => Outcome.isPanic_bind_of_not (hmatched data) fun agent _ => ?_
  exact Outcome.isPanic_bind_of_not (Outcome.isPanic_okOr _ _) fun _ _ => rfl

theorem isPanic_ownerData (hr : web.graphAccount url ⟨[], account⟩ = .ok response) :
    (ownerData web url account).isPanic = true ↔ response.errors = some [] := by
  unfold ownerData
  rw [hr]
  exact isPanic_of_checked (Outcome.isPanic_okOr _ _)

/-- What reads the owner's data without panicking panics when getting it does. -/
theorem isPanic_of_ownerData {β : Type} {k : GraphAccount.ResponseData → Outcome QueryError β}
    (hr : web.graphAccount url ⟨[], account⟩ = .ok response)
    (hk : ∀ data, (k data).isPanic = false) :
    (ownerData web url account >>= k).isPanic = true ↔ response.errors = some [] := by
  rw [Outcome.isPanic_bind, isPanic_ownerData hr]
  simp [hk]

theorem isPanic_ownedSubgraphs (hr : web.graphAccount url ⟨[], account⟩ = .ok response) :
    (ownedSubgraphs web url account).isPanic = true ↔ response.errors = some [] :=
  isPanic_of_ownerData hr fun _ => Outcome.isPanic_okOr _ _

theorem isPanic_subgraphHashById (hr : web.graphAccount url ⟨[], account⟩ = .ok response) :
    (subgraphHashById web url account subgraphId).isPanic = true ↔ response.errors = some [] := by
  refine isPanic_of_ownerData hr fun data => ?_
  refine Outcome.isPanic_bind_of_not (Outcome.isPanic_okOr _ _) fun acc _ => ?_
  refine Outcome.isPanic_bind_of_not (Outcome.isPanic_okOr _ _) fun subgraph _ => ?_
  exact Outcome.isPanic_bind_of_not (Outcome.isPanic_okOr _ _) fun _ _ => rfl

end Checked

/-- The token amounts of a response, where it has them, are ASCII. -/
def AsciiAmounts (response : Response IndexerStatus.ResponseData) : Prop :=
  ∀ data, response.data = some data → Text.IsAscii data.graphNetwork.minimumIndexerStake ∧
    ∀ x, data.indexer = some x → Text.IsAscii x.stakedTokens

theorem isPanic_queryNetworkSubgraph {account : String}
    {response : Response IndexerStatus.ResponseData}
    (hr : web.indexerStatus url ⟨account⟩ = .ok response) (ha : AsciiAmounts response) :
    (queryNetworkSubgraph web F url account).isPanic = true ↔ response.errors = some [] := by
  unfold queryNetworkSubgraph
  rw [hr]
  refine isPanic_of_checked (Outcome.isPanic_bind_of_not (Outcome.isPanic_okOr _ _) ?_)
  intro data hd
  obtain ⟨hmin, hstake⟩ := ha data (Outcome.okOr_eq_ok.mp hd)
  have hindexer : (indexerOf F data).isPanic = false := by
    unfold indexerOf
    split
    · rename_i x hx
      have hp := isPanic_grtGweiStringToF32 (F := F) (hstake x hx)
      unfold usableIndexer
      split
      · rfl
      · rfl
      · rename_i p hp'
        rw [hp'] at hp
        exact absurd hp (by simp)
    · rfl
  refine Outcome.isPanic_bind_of_not hindexer fun indexer _ => ?_
  exact Outcome.isPanic_bind_of_not (isPanic_grtGweiStringToF32 hmin) fun _ _ => rfl

/-! ## The clients that do not -/

theorem isErr_queryRegistry {agent : String} {response : Response SetGraphcastIds.ResponseData}
    (hr : web.setGraphcastIds url ⟨agent⟩ = .ok response) :
    (queryRegistry web url agent).isErr = true ↔
      response.data.bind (fun data => data.graphcastIds.head?) = none := by
  unfold queryRegistry
  rw [hr]
  cases hd : response.data with
  | none => simp [Outcome.ofExcept, hd]
  | some data => simp [Outcome.ofExcept, hd]

theorem isErr_getIndexingStatuses {response : Response IndexingStatuses.ResponseData}
    (hr : node.indexingStatuses url = .ok response) :
    (getIndexingStatuses node url).isErr = true ↔ response.data = none := by
  unfold getIndexingStatuses
  rw [hr]
  simp [Outcome.ofExcept]

/-- A block number past the `i64` range panics before any request. -/
theorem isErr_queryGraphNodeNetworkBlockHash {network : String} {blockNumber : UInt64}
    {response : Response BlockHashFromNumber.ResponseData}
    (hr : ∀ number, tryIntoI64 blockNumber = some number →
      node.blockHashFromNumber url ⟨network, number⟩ = .ok response) :
    (queryGraphNodeNetworkBlockHash node url network blockNumber).isErr = true ↔
      blockNumber.toNat < 2 ^ 63 ∧
        response.data.bind BlockHashFromNumber.ResponseData.blockHashFromNumber = none := by
  unfold queryGraphNodeNetworkBlockHash unwrapI64
  by_cases hn : blockNumber.toNat < 2 ^ 63
  · have hsome : tryIntoI64 blockNumber = some blockNumber.toInt64 := if_pos hn
    simp only [hsome, Outcome.ok_bind, hr _ hsome, Outcome.ofExcept, hn, true_and]
    cases response.data with
    | none => simp [Outcome.okOr]
    | some data => simp [Outcome.okOr_eq_ok, Outcome.isErr_bind]
  · have hnone : tryIntoI64 blockNumber = none := if_neg hn
    simp only [hnone, Outcome.panic_bind, Outcome.isErr_panic, hn, false_and, Bool.false_eq_true]

/-! ## What `verify` rests on -/

namespace Account

variable (web F) (networkSubgraph registrySubgraph : String) (self : Account)
  (mode : IdentityValidation)

/-- The registry's response for the agent reports errors. -/
def RegistryErrors : Prop :=
  ∃ response, web.setGraphcastIds registrySubgraph ⟨self.agent⟩ = .ok response ∧
    response.ReportsErrors

/-- The network's response for the agent and the account does. -/
def NetworkErrors : Prop :=
  ∃ response, web.graphAccount networkSubgraph (graphAccountVariables self.agent self.account) =
    .ok response ∧ response.ReportsErrors

/-- The network's response for the account's stake does. -/
def StakeErrors : Prop :=
  ∃ response, web.indexerStatus networkSubgraph ⟨self.account⟩ = .ok response ∧
    response.ReportsErrors

/-- The mode takes the account from the registry, which has a record for the agent. -/
def LooksUpRegistry : Prop :=
  (mode = .graphcastRegistered ∨ mode = .registeredIndexer ∨ mode = .indexer ∨
    mode = .subgraphStaker) ∧ ∃ indexer, RegistryNames web registrySubgraph self.agent indexer

/-- One of the responses that an accepting verdict rests on reports errors. -/
def RestsOnErrors : Prop :=
  LooksUpRegistry web registrySubgraph self mode ∧ RegistryErrors web registrySubgraph self ∨
    LooksUpNetwork web registrySubgraph self mode ∧ NetworkErrors web networkSubgraph self ∨
      mode.checksIndexer = true ∧ StakeErrors web networkSubgraph self

/-- The registry reports errors and names the claimed account all the same, and the stake check,
if the mode has one, passes. -/
def VouchedDespiteErrors : Prop :=
  LooksUpRegistry web registrySubgraph self mode ∧ RegistryErrors web registrySubgraph self ∧
    RegistryNames web registrySubgraph self.agent self.account ∧
      (mode.checksIndexer = true → ReportsStake web F networkSubgraph self.account)

variable {web F networkSubgraph registrySubgraph self mode}

/-- An error-free stake report is not one with errors. -/
theorem not_stakeErrors (h : ReportsStake web F networkSubgraph self.account) :
    ¬ StakeErrors web networkSubgraph self := by
  rintro ⟨response, hr, e, es, he⟩
  obtain ⟨response', -, -, -, hr', he', -⟩ := h
  obtain rfl := Except.ok.inj (hr.symm.trans hr')
  exact absurd (he.symm.trans he') (by simp)

/-- The network lookup fails on reported errors. -/
theorem not_networkErrors {a : Account} (h : self.accountFromNetwork web networkSubgraph = .ok a) :
    ¬ NetworkErrors web networkSubgraph self := by
  rintro ⟨response, hr, he⟩
  have hisErr := isErr_queryGraphAccount hr he
  unfold accountFromNetwork at h
  rw [h] at hisErr
  exact absurd hisErr (by simp)

/-- A mode that takes the account from the registry finds the registry's answer. -/
theorem resolve_of_looksUpRegistry {a : Account}
    (hl : LooksUpRegistry web registrySubgraph self mode) :
    self.resolve web networkSubgraph registrySubgraph mode = .ok a ↔
      self.accountFromRegistry web registrySubgraph = .ok a := by
  obtain ⟨hm, hi⟩ := hl
  have hmode : mode ≠ .graphNetworkAccount ∧ mode ≠ .noCheck ∧ mode ≠ .validAddress := by
    rcases hm with rfl | rfl | rfl | rfl <;> decide
  refine resolve_of_not_looksUpNetwork ?_ hmode.2.1 hmode.2.2
  rintro (hnet | ⟨-, hno⟩)
  · exact hmode.1 hnet
  · exact hno hi

/-- **`verify` accepts on the strength of reported errors only through the registry.** -/
theorem verify_restsOnErrors_iff :
    ((∃ a, self.verify web F networkSubgraph registrySubgraph mode = .ok a) ∧
        RestsOnErrors web networkSubgraph registrySubgraph self mode) ↔
      VouchedDespiteErrors web F networkSubgraph registrySubgraph self mode := by
  constructor
  · rintro ⟨⟨a, ha⟩, he⟩
    obtain ⟨hr, hacc, hs⟩ := verify_eq_ok.mp ha
    rcases he with ⟨hl, he⟩ | ⟨hl, he⟩ | ⟨hc, he⟩
    · have hreg := (resolve_of_looksUpRegistry hl).mp hr
      exact ⟨hl, he, hacc ▸ (accountFromRegistry_eq_ok.mp hreg).2, hs⟩
    · -- a verdict that rests on the network lookup rests on a response without errors
      exact absurd he (not_networkErrors ((resolve_of_looksUpNetwork hl).mp hr))
    · exact absurd he (not_stakeErrors (hs hc))
  · rintro ⟨hl, he, hn, hs⟩
    have hreg : self.accountFromRegistry web registrySubgraph = .ok self :=
      accountFromRegistry_eq_ok.mpr ⟨rfl, hn⟩
    exact ⟨⟨self, verify_eq_ok.mpr ⟨(resolve_of_looksUpRegistry hl).mpr hreg, rfl, hs⟩⟩,
      Or.inl ⟨hl, he⟩⟩

end Account

/-! ## The queries together -/

/-- **Reported errors.** The network-subgraph queries refuse a response that reports errors. The
registry query refuses it only for want of a first record, the status query for want of data, the
block hash query for want of a hash and within the `i64` range; and `verify` accepts an account on
the strength of one exactly when the registry still names the account. -/
theorem reported_errors_refused_iff (web : Subgraphs) (node : GraphNode) (F : Type) [F32 F]
    (url registrySubgraph : String) :
    (∀ agent response, web.setGraphcastIds url ⟨agent⟩ = .ok response → response.ReportsErrors →
      ((queryRegistry web url agent).isErr = true ↔
        response.data.bind (fun data => data.graphcastIds.head?) = none)) ∧
    (∀ operator account response,
      web.graphAccount url (graphAccountVariables operator account) = .ok response →
        response.ReportsErrors → (queryGraphAccount web url operator account).isErr = true) ∧
    (∀ account subgraphId response, web.graphAccount url ⟨[], account⟩ = .ok response →
      response.ReportsErrors → (ownedSubgraphs web url account).isErr = true ∧
        (subgraphHashById web url account subgraphId).isErr = true) ∧
    (∀ account response, web.indexerStatus url ⟨account⟩ = .ok response →
      response.ReportsErrors → (queryNetworkSubgraph web F url account).isErr = true) ∧
    (∀ response, node.indexingStatuses url = .ok response → response.ReportsErrors →
      ((getIndexingStatuses node url).isErr = true ↔ response.data = none)) ∧
    (∀ network blockNumber response,
      (∀ number, tryIntoI64 blockNumber = some number →
        node.blockHashFromNumber url ⟨network, number⟩ = .ok response) →
        response.ReportsErrors →
          ((queryGraphNodeNetworkBlockHash node url network blockNumber).isErr = true ↔
            blockNumber.toNat < 2 ^ 63 ∧
              response.data.bind BlockHashFromNumber.ResponseData.blockHashFromNumber = none)) ∧
    ∀ (self : Account) (mode : IdentityValidation),
      (¬ ((∃ a, self.verify web F url registrySubgraph mode = .ok a) ∧
          self.RestsOnErrors web url registrySubgraph mode) ↔
        ¬ self.VouchedDespiteErrors web F url registrySubgraph mode) := by
  refine ⟨fun agent response hr _ => isErr_queryRegistry hr,
    fun operator account response hr he => isErr_queryGraphAccount hr he,
    fun account subgraphId response hr he => ⟨?_, ?_⟩,
    fun account response hr he => isErr_queryNetworkSubgraph hr he,
    fun response hr _ => isErr_getIndexingStatuses hr,
    fun network blockNumber response hr _ => isErr_queryGraphNodeNetworkBlockHash hr,
    fun self mode => not_congr Account.verify_restsOnErrors_iff⟩
  · exact Outcome.isErr_bind.mpr (Or.inl (isErr_ownerData hr he))
  · exact Outcome.isErr_bind.mpr (Or.inl (isErr_ownerData hr he))

/-- Services that report errors next to their data; the registry still has a record. -/
def failingSubgraphs : Subgraphs where
  setGraphcastIds _ _ := .ok ⟨some ⟨[⟨"0xindexer", "0xagent"⟩]⟩, some [⟨"indexing_error"⟩]⟩
  graphAccount _ _ := .ok ⟨some ⟨[⟨"0xindexer", [⟨"0xagent"⟩], []⟩]⟩, some [⟨"indexing_error"⟩]⟩
  indexerStatus _ _ := .ok ⟨some ⟨none, ⟨"0"⟩⟩, some [⟨"indexing_error"⟩]⟩

/-- A graph node that does the same. -/
def failingGraphNode : GraphNode where
  blockHashFromNumber _ _ := .ok ⟨some ⟨some "0x01"⟩, some [⟨"indexing_error"⟩]⟩
  indexingStatuses _ := .ok ⟨some ⟨[]⟩, some [⟨"indexing_error"⟩]⟩

/-- Three of the queries answer all the same, and `verify` accepts on the registry's answer. -/
theorem reported_errors_accepted :
    ((⟨"0xagent", "0xindexer"⟩ : Account).RegistryErrors failingSubgraphs "registry" ∧
      queryRegistry failingSubgraphs "registry" "0xagent" = .ok "0xindexer" ∧
      (⟨"0xagent", "0xindexer"⟩ : Account).verify failingSubgraphs Unit "network" "registry"
        .graphcastRegistered = .ok ⟨"0xagent", "0xindexer"⟩) ∧
    ((∃ response, failingGraphNode.indexingStatuses "node" = .ok response ∧
        response.ReportsErrors) ∧ getIndexingStatuses failingGraphNode "node" = .ok []) ∧
    (∃ response, failingGraphNode.blockHashFromNumber "node" ⟨"mainnet", 1⟩ = .ok response ∧
      response.ReportsErrors) ∧
    queryGraphNodeNetworkBlockHash failingGraphNode "node" "mainnet" 1 = .ok "0x01" := by
  refine ⟨⟨⟨_, rfl, _, _, rfl⟩, by decide, by decide⟩, ⟨⟨_, rfl, _, _, rfl⟩, by decide⟩,
    ⟨_, rfl, _, _, rfl⟩, by decide⟩

theorem reported_errors_refused_iff_failing :
    (queryRegistry failingSubgraphs "url" "0xagent").isErr = false ∧
      (queryGraphAccount failingSubgraphs "url" "0xagent" "0xindexer").isErr = true := by
  obtain ⟨hregistry, haccount, -⟩ :=
    reported_errors_refused_iff failingSubgraphs failingGraphNode Unit "url" "registry"
  refine ⟨?_, haccount "0xagent" "0xindexer" _ rfl ⟨_, _, rfl⟩⟩
  exact Bool.eq_false_iff.mpr fun h =>
    absurd ((hregistry "0xagent" _ rfl ⟨_, _, rfl⟩).mp h) (by decide)

/-- **The network-subgraph queries panic on an empty `errors` list and on nothing else**, as long
as the token amounts are ASCII. -/
theorem never_panics_iff (web : Subgraphs) (F : Type) [F32 F] (url : String) :
    (∀ operator account response,
      web.graphAccount url (graphAccountVariables operator account) = .ok response →
        ((queryGraphAccount web url operator account).isPanic = false ↔
          response.errors ≠ some [])) ∧
    (∀ account subgraphId response, web.graphAccount url ⟨[], account⟩ = .ok response →
      ((ownedSubgraphs web url account).isPanic = false ↔ response.errors ≠ some []) ∧
        ((subgraphHashById web url account subgraphId).isPanic = false ↔
          response.errors ≠ some [])) ∧
    ∀ account response, web.indexerStatus url ⟨account⟩ = .ok response → AsciiAmounts response →
      ((queryNetworkSubgraph web F url account).isPanic = false ↔ response.errors ≠ some []) := by
  refine ⟨fun operator account response hr => ?_,
    fun account subgraphId response hr => ⟨?_, ?_⟩, fun account response hr ha => ?_⟩
  · rw [← Bool.not_eq_true, isPanic_queryGraphAccount hr]
  · rw [← Bool.not_eq_true, isPanic_ownedSubgraphs hr]
  · rw [← Bool.not_eq_true, isPanic_subgraphHashById hr]
  · rw [← Bool.not_eq_true, isPanic_queryNetworkSubgraph hr ha]

/-- Services whose responses have an empty `errors` list. -/
def emptyErrors : Subgraphs where
  setGraphcastIds _ _ := .ok ⟨none, some []⟩
  graphAccount _ _ := .ok ⟨none, some []⟩
  indexerStatus _ _ := .ok ⟨none, some []⟩

theorem empty_errors_panic :
    (queryGraphAccount emptyErrors "url" "0xagent" "0xindexer").isPanic = true ∧
      (ownedSubgraphs emptyErrors "url" "0xindexer").isPanic = true ∧
      (subgraphHashById emptyErrors "url" "0xindexer" "id").isPanic = true ∧
      (queryNetworkSubgraph emptyErrors Unit "url" "0xindexer").isPanic = true := by
  decide

theorem never_panics_iff_failing :
    (queryGraphAccount failingSubgraphs "url" "0xagent" "0xindexer").isPanic = false ∧
      (queryNetworkSubgraph failingSubgraphs Unit "url" "0xindexer").isPanic = false := by
  obtain ⟨haccount, -, hnetwork⟩ := never_panics_iff failingSubgraphs Unit "url"
  refine ⟨(haccount "0xagent" "0xindexer" _ rfl).mpr (by simp),
    (hnetwork "0xindexer" _ rfl ?_).mpr (by simp)⟩
  intro data hd
  obtain rfl := Option.some.inj hd
  exact ⟨by decide, fun x hx => absurd hx (by simp)⟩

end GraphcastSdk

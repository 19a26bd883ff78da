import GraphcastSdk.Graphql.Basic

/-!
# The network client (`client_network.rs`)

`query_network_subgraph` over the services `web`, and `Network`.
`queryNetworkSubgraph_satisfies`: an answer satisfies the stake requirement iff the response is
error-free and reports a stake of at least its minimum, where an indexer whose amount does not
parse, or whose allocations are `null`, counts as no indexer and so as stake zero.
-/

namespace GraphcastSdk

structure SubgraphDeployment where
  ipfsHash : String
  deriving Repr, DecidableEq

structure Allocation where
  subgraphDeployment : SubgraphDeployment
  deriving Repr, DecidableEq

structure Indexer (F : Type) where
  stakedTokens : F
  allocations : List Allocation

structure GraphNetwork (F : Type) where
  minimumIndexerStake : F

/-- The indexer of an account, when the network has a usable one, and the network's minimum. -/
structure Network (F : Type) where
  indexer : Option (Indexer F)
  graphNetwork : GraphNetwork F

variable (web : Subgraphs) (F : Type) [F32 F]

/-- The `data.indexer.and_then(…)` closure: an amount that does not parse drops the indexer, and
so do `null` allocations. -/
def usableIndexer (x : IndexerStatus.Indexer) : Outcome QueryError (Option (Indexer F)) :=
  match grtGweiStringToF32 F x.stakedTokens with
  | .ok token => .ok (x.allocations.map fun allocs =>
      ⟨token, allocs.map fun alloc => ⟨⟨alloc.subgraphDeployment.ipfsHash⟩⟩⟩)
  | .err _ => .ok none
  | .panic p => .panic p

/-- The usable indexer of the response, if it has an indexer at all. -/
def indexerOf (data : IndexerStatus.ResponseData) : Outcome QueryError (Option (Indexer F)) :=
  match data.indexer with
  | some x => usableIndexer F x
  | none => .ok none

/-- `query_network_subgraph`. -/
def queryNetworkSubgraph (url indexerAddress : String) : Outcome QueryError (Network F) := do
  let responseBody ← Outcome.ofExcept .transport (web.indexerStatus url ⟨indexerAddress⟩)
  checkErrors responseBody.errors
  let data ← Outcome.okOr responseBody.data
    (.parseResponseError s!"Missing response data from network subgraph for {indexerAddress}")
  let indexer ← indexerOf F data
  let minimumIndexerStake ← grtGweiStringToF32 F data.graphNetwork.minimumIndexerStake
  pure ⟨indexer, ⟨minimumIndexerStake⟩⟩

variable {F}

/-- `Network::indexer_stake`. -/
def Network.indexerStake (network : Network F) : F :=
  match network.indexer with
  | some i => i.stakedTokens
  | none => F32.zero

/-- `Network::stake_satisfy_requirement`. -/
def Network.stakeSatisfyRequirement (network : Network F) : Bool :=
  F32.ge network.indexerStake network.graphNetwork.minimumIndexerStake

variable (F)

/-- The network's response for `account` is free of errors, and the stake of its usable indexer,
zero when there is none, is at least its minimum. -/
def ReportsStake (networkSubgraph account : String) : Prop :=
  ∃ response data indexer minimum, web.indexerStatus networkSubgraph ⟨account⟩ = .ok response ∧
    response.errors = none ∧ response.data = some data ∧ indexerOf F data = .ok indexer ∧
    grtGweiStringToF32 F data.graphNetwork.minimumIndexerStake = .ok minimum ∧
    F32.ge (match indexer with | some i => i.stakedTokens | none => F32.zero) minimum = true

theorem queryNetworkSubgraph_satisfies {networkSubgraph account : String} :
    (∃ network, queryNetworkSubgraph web F networkSubgraph account = .ok network ∧
      network.stakeSatisfyRequirement = true) ↔ ReportsStake web F networkSubgraph account := by
  unfold queryNetworkSubgraph ReportsStake
  simp only [Outcome.bind_eq_ok, Outcome.ofExcept_eq_ok, checkErrors_eq_ok, Outcome.okOr_eq_ok,
    Outcome.pure_def, Outcome.ok.injEq]
  constructor
  · rintro ⟨_, ⟨response, hr, _, he, data, hd, indexer, hi, minimum, hm, rfl⟩, hs⟩
    exact ⟨response, data, indexer, minimum, hr, he, hd, hi, hm, hs⟩
  · rintro ⟨response, data, indexer, minimum, hr, he, hd, hi, hm, hs⟩
    exact ⟨_, ⟨response, hr, (), he, data, hd, indexer, hi, minimum, hm, rfl⟩, hs⟩

end GraphcastSdk

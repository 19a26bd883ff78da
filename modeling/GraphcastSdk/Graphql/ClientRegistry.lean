import GraphcastSdk.Graphql.Basic

/-!
# The registry client (`client_registry.rs`)

`query_registry` over the services `web`. `queryRegistry_eq_ok`: the answer is the indexer of the
first record in the response's data, whatever its `errors` say.
-/

namespace GraphcastSdk

variable (web : Subgraphs)

/-- `query_registry`. -/
def queryRegistry (registrySubgraphEndpoint walletAddress : String) :
    Outcome QueryError String := do
  let responseBody ← Outcome.ofExcept .transport
    (web.setGraphcastIds registrySubgraphEndpoint ⟨walletAddress⟩)
  match responseBody.data with
  | some data =>
    Outcome.okOr (data.graphcastIds.head?.map SetGraphcastIds.GraphcastId.indexer)
      (.parseResponseError
        s!"No indexer data queried from registry for GraphcastID: {walletAddress}")
  | none =>
    .err (.parseResponseError s!"No response data from registry for GraphcastID: {walletAddress}")

/-- The registry's response for `agent` has a first record, and it names `indexer`. -/
def RegistryNames (registrySubgraph agent indexer : String) : Prop :=
  ∃ response data event, web.setGraphcastIds registrySubgraph ⟨agent⟩ = .ok response ∧
    response.data = some data ∧ data.graphcastIds.head? = some event ∧ event.indexer = indexer

theorem queryRegistry_eq_ok {registrySubgraph agent indexer : String} :
    queryRegistry web registrySubgraph agent = .ok indexer ↔
      RegistryNames web registrySubgraph agent indexer := by
  unfold queryRegistry RegistryNames
  rw [Outcome.bind_eq_ok]
  constructor
  · rintro ⟨response, hr, h⟩
    split at h
    · rename_i data hd
      obtain ⟨event, he, hi⟩ := Option.map_eq_some_iff.mp (Outcome.okOr_eq_ok.mp h)
      exact ⟨response, data, event, Outcome.ofExcept_eq_ok.mp hr, hd, he, hi⟩
    · exact absurd h (by simp)
  · rintro ⟨response, data, event, hr, hd, he, hi⟩
    refine ⟨response, Outcome.ofExcept_eq_ok.mpr hr, ?_⟩
    simp only [hd]
    exact Outcome.okOr_eq_ok.mpr (Option.map_eq_some_iff.mpr ⟨event, he, hi⟩)

/-- The registry client never panics: a call that gives no indexer returns an error. -/
theorem queryRegistry_total (registrySubgraph agent : String) :
    (∃ indexer, queryRegistry web registrySubgraph agent = .ok indexer) ∨
      ∃ e, queryRegistry web registrySubgraph agent = .err e := by
  unfold queryRegistry
  cases web.setGraphcastIds registrySubgraph ⟨agent⟩ with
  | error e => exact Or.inr ⟨_, rfl⟩
  | ok response =>
    simp only [Outcome.ofExcept, Outcome.ok_bind]
    cases response.data with
    | none => exact Or.inr ⟨_, rfl⟩
    | some data =>
      simp only
      cases data.graphcastIds.head?.map SetGraphcastIds.GraphcastId.indexer with
      | none => exact Or.inr ⟨_, rfl⟩
      | some indexer => exact Or.inl ⟨_, rfl⟩

end GraphcastSdk

import GraphcastSdk.Graphql.Basic

/-!
# The graph account client (`client_graph_account.rs`)

`query_graph_account`, `owned_subgraphs` and `subgraph_hash_by_id` over the services `web`.
`queryGraphAccount_eq_ok`: the answer is read off the first account of an error-free response. It
gives the account; the agent is the account itself when that is the operator asked for, and
otherwise the first operator listed, which need not be the operator asked for.

The other two ask for the account alone (`ownerData`). `subgraphHashById_eq_ok`: the hash is that
of the current version of the subgraph listed under the id (`CurrentHash`).
-/

namespace GraphcastSdk

variable (web : Subgraphs)

/-- `lib.rs`: the agent address that signs, and the graph account it speaks for. -/
@[ext] structure Account where
  agent : String
  account : String
  deriving Repr, DecidableEq

/-- The variables `query_graph_account` sends: no operator when it is the account itself. -/
def graphAccountVariables (operator account : String) : GraphAccount.Variables where
  operatorAddr := if operator = account then [] else [operator]
  accountAddr := account

/-- The agent `query_graph_account` reads off the response: the account when it is the operator
itself, else the first operator of the first account. -/
def matchedAgent (operator account : String) (data : GraphAccount.ResponseData) :
    Outcome QueryError String :=
  if operator = account then .ok account
  else Outcome.okOr
    (data.graphAccounts.head?.bind fun x => x.operators.head?.map GraphAccount.Operator.id)
    (.parseResponseError
      "Network subgraph does not have a match for agent account and graph account")

/-- `query_graph_account`. -/
def queryGraphAccount (url operator account : String) : Outcome QueryError Account := do
  let responseBody ← Outcome.ofExcept .transport
    (web.graphAccount url (graphAccountVariables operator account))
  checkErrors responseBody.errors
  let data ← Outcome.okOr responseBody.data (.parseResponseError
    s!"Missing response data from network subgraph for account {account} with agent {operator}")
  let agent ← matchedAgent operator account data
  let account ← Outcome.okOr (data.graphAccounts.head?.map GraphAccount.GraphAccounts.id)
    (.parseResponseError "Network subgraph does not have a match for graph account")
  pure ⟨agent, account⟩

/-- The query that `owned_subgraphs` and `subgraph_hash_by_id` send, up to the response's data. -/
def ownerData (url account : String) : Outcome QueryError GraphAccount.ResponseData := do
  let responseBody ← Outcome.ofExcept .transport (web.graphAccount url ⟨[], account⟩)
  checkErrors responseBody.errors
  Outcome.okOr responseBody.data
    (.parseResponseError s!"Missing response data from network subgraph for account {account}")

/-- `owned_subgraphs`. -/
def ownedSubgraphs (url account : String) : Outcome QueryError (List String) := do
  let data ← ownerData web url account
  Outcome.okOr
    (data.graphAccounts.head?.map fun x => x.subgraphs.map GraphAccount.Subgraph.id)
    (.parseResponseError "Network subgraph does not have a match for graph account")

/-- `subgraph_hash_by_id`. -/
def subgraphHashById (url account subgraphId : String) : Outcome QueryError String := do
  let data ← ownerData web url account
  let acc ← Outcome.okOr data.graphAccounts.head? (.parseResponseError
    "Network subgraph does not have match for graph account and operator")
  let subgraph ← Outcome.okOr (acc.subgraphs.find? fun s => s.id == subgraphId)
    (.parseResponseError "Network subgraph does not have subgraph id match for the owner")
  let version ← Outcome.okOr subgraph.currentVersion (.parseResponseError
    "Network subgraph does not have a deployment hash match for subgraph id")
  pure version.subgraphDeployment.ipfsHash

/-- The network's response for `agent` at `account` is free of errors and `x` is its first
graph account. -/
def NetworkAnswers (networkSubgraph agent account : String) (x : GraphAccount.GraphAccounts) :
    Prop :=
  ∃ response data, web.graphAccount networkSubgraph (graphAccountVariables agent account) =
    .ok response ∧ response.errors = none ∧ response.data = some data ∧
    data.graphAccounts.head? = some x

/-- The agent address reported for `x`: the account itself when it is the agent, else `x`'s first
operator. -/
def agentOf (agent account : String) (x : GraphAccount.GraphAccounts) : Option String :=
  if agent = account then some account else x.operators.head?.map GraphAccount.Operator.id

theorem matchedAgent_eq_ok {agent account : String} {data : GraphAccount.ResponseData}
    {x : GraphAccount.GraphAccounts} (hx : data.graphAccounts.head? = some x) {a : String} :
    matchedAgent agent account data = .ok a ↔ agentOf agent account x = some a := by
  unfold matchedAgent agentOf
  split
  · simp
  · rw [Outcome.okOr_eq_ok, hx, Option.bind_some]

theorem queryGraphAccount_eq_ok {networkSubgraph agent account : String} {a : Account} :
    queryGraphAccount web networkSubgraph agent account = .ok a ↔
      ∃ x, NetworkAnswers web networkSubgraph agent account x ∧ a.account = x.id ∧
        agentOf agent account x = some a.agent := by
  unfold queryGraphAccount NetworkAnswers
  simp only [Outcome.bind_eq_ok, Outcome.ofExcept_eq_ok, checkErrors_eq_ok, Outcome.okOr_eq_ok,
    Option.map_eq_some_iff, Outcome.pure_def, Outcome.ok.injEq]
  constructor
  · rintro ⟨response, hr, _, he, data, hd, agent', hag, account', ⟨x, hx, rfl⟩, rfl⟩
    exact ⟨x, ⟨response, data, hr, he, hd, hx⟩, rfl, (matchedAgent_eq_ok hx).mp hag⟩
  · rintro ⟨x, ⟨response, data, hr, he, hd, hx⟩, hacc, hag⟩
    refine ⟨response, hr, (), he, data, hd, a.agent, (matchedAgent_eq_ok hx).mpr hag, x.id,
      ⟨x, hx, rfl⟩, ?_⟩
    rw [← hacc]

/-- The response is free of errors, and its first graph account (the query asks for one id) lists
the subgraph under `subgraphId` with a current version, deployed as `hash`. -/
def CurrentHash (response : Response GraphAccount.ResponseData) (subgraphId hash : String) :
    Prop :=
  response.errors = none ∧ ∃ data x subgraph version, response.data = some data ∧
    data.graphAccounts.head? = some x ∧
    x.subgraphs.find? (fun s => s.id == subgraphId) = some subgraph ∧
    subgraph.currentVersion = some version ∧ version.subgraphDeployment.ipfsHash = hash

theorem CurrentHash.unique {response : Response GraphAccount.ResponseData}
    {subgraphId hash hash' : String} (h : CurrentHash response subgraphId hash)
    (h' : CurrentHash response subgraphId hash') : hash = hash' := by
  obtain ⟨-, data, x, subgraph, version, hd, hx, hs, hv, rfl⟩ := h
  obtain ⟨-, data', x', subgraph', version', hd', hx', hs', hv', rfl⟩ := h'
  obtain rfl := Option.some.inj (hd.symm.trans hd')
  obtain rfl := Option.some.inj (hx.symm.trans hx')
  obtain rfl := Option.some.inj (hs.symm.trans hs')
  obtain rfl := Option.some.inj (hv.symm.trans hv')
  rfl

theorem subgraphHashById_eq_ok {url account subgraphId hash : String}
    {response : Response GraphAccount.ResponseData}
    (hr : web.graphAccount url ⟨[], account⟩ = .ok response) :
    subgraphHashById web url account subgraphId = .ok hash ↔
      CurrentHash response subgraphId hash := by
  unfold subgraphHashById ownerData CurrentHash
  rw [hr]
  simp only [Outcome.bind_eq_ok, Outcome.ofExcept_eq_ok, checkErrors_eq_ok, Outcome.okOr_eq_ok,
    Outcome.pure_def, Outcome.ok.injEq, Except.ok.injEq]
  constructor
  · rintro ⟨data, ⟨_, rfl, _, he, hd⟩, x, hx, subgraph, hs, version, hv, hh⟩
    exact ⟨he, data, x, subgraph, version, hd, hx, hs, hv, hh⟩
  · rintro ⟨he, data, x, subgraph, version, hd, hx, hs, hv, hh⟩
    exact ⟨data, ⟨_, rfl, (), he, hd⟩, x, hx, subgraph, hs, version, hv, hh⟩

end GraphcastSdk

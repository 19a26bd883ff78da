import GraphcastSdk.Graphql.Basic
import GraphcastSdk.Lib.Decimal
import GraphcastSdk.Lib.FirstWrite
import GraphcastSdk.Networks

/-!
# The graph node client (`client_graph_node.rs`)

`query_graph_node_network_block_hash` and `get_indexing_statuses` over the graph nodes `node`.
Both read the `data` of a response and never its `errors`; the block number has to fit the `i64`
of a GraphQL `Int`.

`update_network_chainheads` goes through the chains of the statuses in order and overwrites the
entry of a chain's network with its head block: a map filled by writes (`LastWrite`).
`subgraph_network_blocks` goes through the same chains and keeps the entry that a subgraph has
(`FirstWrite`).
-/

namespace GraphcastSdk

variable (node : GraphNode)

/-- `block_number.try_into()`, from `u64` to `i64`. -/
def tryIntoI64 (n : UInt64) : Option Int64 := if n.toNat < 2 ^ 63 then some n.toInt64 else none

/-- `.unwrap()` on that conversion. -/
def unwrapI64 (n : UInt64) : Outcome QueryError Int64 :=
  match tryIntoI64 n with
  | some i => .ok i
  | none => .panic
    "called `Result::unwrap()` on an `Err` value: TryFromIntError(())"

/-- `query_graph_node_network_block_hash`, with `perform_block_hash_from_number`. -/
def queryGraphNodeNetworkBlockHash (graphNodeEndpoint network : String) (blockNumber : UInt64) :
    Outcome QueryError String := do
  let number ← unwrapI64 blockNumber
  let responseBody ← Outcome.ofExcept .transport
    (node.blockHashFromNumber graphNodeEndpoint ⟨network, number⟩)
  let data ← Outcome.okOr responseBody.data
    (.parseResponseError s!"No data for {network} blockHash at block {blockNumber}")
  Outcome.okOr data.blockHashFromNumber (.parseResponseError "No block hash from number")

/-- `get_indexing_statuses`, with `perform_indexing_statuses`. -/
def getIndexingStatuses (graphNodeEndpoint : String) :
    Outcome QueryError (List IndexingStatuses.IndexingStatus) := do
  let responseBody ← Outcome.ofExcept .transport (node.indexingStatuses graphNodeEndpoint)
  Outcome.okOr (responseBody.data.map IndexingStatuses.ResponseData.indexingStatuses)
    .indexingError

/-! ## Chain heads -/

/-- `lib.rs`: a block pointer. -/
structure BlockPointer where
  number : UInt64
  hash : String
  deriving Repr, DecidableEq

/-- `BlockPointer { hash: blk.hash, number: … }`: a number that does not parse is zero. -/
def blockPointer (blk : IndexingStatuses.BlockPointer) : BlockPointer where
  number := (Decimal.parseU64 blk.number).getD 0
  hash := blk.hash

/-- What `update_network_chainheads` does with a chain: its `chain_head_block`, if there is one,
becomes the entry of its network, whether the entry exists (`and_modify`) or not (`or_insert`). -/
def headWrite (chain : IndexingStatuses.Chain) : Option (NetworkName × BlockPointer) :=
  chain.chainHeadBlock.map fun blk => (NetworkName.fromString chain.network, blockPointer blk)

/-- `update_network_chainheads`. -/
def updateNetworkChainheads (statuses : List IndexingStatuses.IndexingStatus) :
    HashMap NetworkName BlockPointer :=
  statuses.foldl (fun networkMap status => LastWrite.fill headWrite networkMap status.chains) ∅

/-! ## Latest blocks -/

/-- `lib.rs`: a network and a block on it. -/
structure NetworkPointer where
  network : String
  block : BlockPointer
  deriving Repr, DecidableEq

/-- What `subgraph_network_blocks` does with a chain of a status: its `latest_block`, if there is
one, becomes the entry of the status's subgraph, unless that has one (`or_insert`). -/
def latestWrite (subgraph : String) (chain : IndexingStatuses.Chain) :
    Option (String × NetworkPointer) :=
  chain.latestBlock.map fun blk => (subgraph, ⟨chain.network, blockPointer blk⟩)

/-- `subgraph_network_blocks`. -/
def subgraphNetworkBlocks (statuses : List IndexingStatuses.IndexingStatus) :
    HashMap String NetworkPointer :=
  statuses.foldl (fun blocks status =>
    FirstWrite.keep (latestWrite status.subgraph) blocks status.chains) ∅

end GraphcastSdk

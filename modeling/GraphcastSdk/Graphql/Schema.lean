import GraphcastSdk.Lib.Outcome

/-!
# The GraphQL queries and the services that answer them

The types `graphql_client` generates for `query_registry.graphql`, `query_graph_account.graphql`,
`query_network.graphql`, `query_block_hash_from_number.graphql` and
`query_indexing_statuses.graphql` against their schemas, with the fields the clients read.

`Subgraphs` is everything behind the two subgraph endpoints, and `GraphNode` what is behind a
graph node's status endpoint: for each query a function of the endpoint's URL and the query's
variables. What `reqwest` can fail at (building the client, the
connection, an HTTP error status, a body that does not deserialise) is the one error
`TransportError`; otherwise the answer is a `Response`, in which both `data` and `errors` are
optional and neither excludes the other.
-/

namespace GraphcastSdk

/-- A `reqwest::Error`. -/
abbrev TransportError := String

/-- One entry of a response's `errors` (`graphql_client::Error`). -/
structure GraphqlError where
  message : String
  deriving Repr, DecidableEq

/-- `graphql_client::Response`. -/
structure Response (D : Type) where
  data : Option D
  errors : Option (List GraphqlError)
  deriving Repr, DecidableEq

namespace SetGraphcastIds

/-- `$address` of `query_registry.graphql`. -/
structure Variables where
  address : String
  deriving Repr, DecidableEq

/-- One registration event. -/
structure GraphcastId where
  indexer : String
  graphcastID : String
  deriving Repr, DecidableEq

structure ResponseData where
  graphcastIds : List GraphcastId
  deriving Repr, DecidableEq

end SetGraphcastIds

namespace GraphAccount

/-- `$account_addr` and `$operator_addr` of `query_graph_account.graphql`. -/
structure Variables where
  operatorAddr : List String
  accountAddr : String
  deriving Repr, DecidableEq

structure Operator where
  id : String
  deriving Repr, DecidableEq

structure SubgraphDeployment where
  ipfsHash : String
  deriving Repr, DecidableEq

structure Version where
  subgraphDeployment : SubgraphDeployment
  deriving Repr, DecidableEq

structure Subgraph where
  id : String
  currentVersion : Option Version
  deriving Repr, DecidableEq

/-- `GraphAccountGraphAccounts`, one matching graph account. -/
structure GraphAccounts where
  id : String
  operators : List Operator
  subgraphs : List Subgraph
  deriving Repr, DecidableEq

structure ResponseData where
  graphAccounts : List GraphAccounts
  deriving Repr, DecidableEq

end GraphAccount

namespace IndexerStatus

/-- `$address` of `query_network.graphql`. -/
structure Variables where
  address : String
  deriving Repr, DecidableEq

structure SubgraphDeployment where
  ipfsHash : String
  deriving Repr, DecidableEq

structure Allocation where
  subgraphDeployment : SubgraphDeployment
  deriving Repr, DecidableEq

structure Indexer where
  stakedTokens : String
  allocations : Option (List Allocation)
  deriving Repr, DecidableEq

structure GraphNetwork where
  minimumIndexerStake : String
  deriving Repr, DecidableEq

structure ResponseData where
  indexer : Option Indexer
  graphNetwork : GraphNetwork
  deriving Repr, DecidableEq

end IndexerStatus

namespace BlockHashFromNumber

/-- `$network` and `$blockNumber` of `query_block_hash_from_number.graphql`; an `Int` is an
`i64`. -/
structure Variables where
  network : String
  blockNumber : Int64
  deriving Repr, DecidableEq

structure ResponseData where
  blockHashFromNumber : Option String
  deriving Repr, DecidableEq

end BlockHashFromNumber

namespace IndexingStatuses

/-- A block of a chain, its number as text. -/
structure BlockPointer where
  number : String
  hash : String
  deriving Repr, DecidableEq

/-- One entry of a status's `chains`. -/
structure Chain where
  network : String
  latestBlock : Option BlockPointer
  chainHeadBlock : Option BlockPointer
  deriving Repr, DecidableEq

/-- `IndexingStatusesIndexingStatuses`, one deployment. -/
structure IndexingStatus where
  subgraph : String
  chains : List Chain
  deriving Repr, DecidableEq

structure ResponseData where
  indexingStatuses : List IndexingStatus
  deriving Repr, DecidableEq

end IndexingStatuses

/-- The registry and network subgraphs, by endpoint URL. -/
structure Subgraphs where
  setGraphcastIds : String → SetGraphcastIds.Variables →
    Except TransportError (Response SetGraphcastIds.ResponseData)
  graphAccount : String → GraphAccount.Variables →
    Except TransportError (Response GraphAccount.ResponseData)
  indexerStatus : String → IndexerStatus.Variables →
    Except TransportError (Response IndexerStatus.ResponseData)

/-- The graph nodes' status endpoints, by URL. -/
structure GraphNode where
  blockHashFromNumber : String → BlockHashFromNumber.Variables →
    Except TransportError (Response BlockHashFromNumber.ResponseData)
  indexingStatuses : String → Except TransportError (Response IndexingStatuses.ResponseData)

end GraphcastSdk

/-!
# Supported networks (`networks.rs`)

`NetworkName` with `from_string` and `Display`, and the table `NETWORKS` of the intervals. A name
that is not in the list is `unknown`, and `unknown` has no interval.
-/

namespace GraphcastSdk

/-- List of supported networks -/
inductive NetworkName where
  | goerli
  | mainnet
  | gnosis
  | hardhat
  | arbitrumOne
  | arbitrumGoerli
  | avalanche
  /-- Previously Polygon -/
  | matic
  | celo
  | optimism
  | fantom
  | unknown
  deriving Repr, DecidableEq

/-- `NetworkName::from_string`. -/
def NetworkName.fromString (name : String) : NetworkName :=
  match name with
  | "goerli" => .goerli
  | "mainnet" => .mainnet
  | "gnosis" => .gnosis
  | "hardhat" => .hardhat
  | "arbitrum-one" => .arbitrumOne
  | "arbitrum-goerli" => .arbitrumGoerli
  | "avalanche" => .avalanche
  | "matic" => .matic
  | "celo" => .celo
  | "optimism" => .optimism
  | "fantom" => .fantom
  | _ => .unknown

/-- `{}` of a network name. -/
def NetworkName.display : NetworkName → String
  | .goerli => "goerli"
  | .mainnet => "mainnet"
  | .gnosis => "gnosis"
  | .hardhat => "hardhat"
  | .arbitrumOne => "arbitrum-one"
  | .arbitrumGoerli => "arbitrum-goerli"
  | .avalanche => "avalanche"
  | .matic => "matic"
  | .celo => "celo"
  | .optimism => "optimism"
  | .fantom => "fantom"
  | .unknown => "unknown"

/-- `networks::Network`: network and block interval for updates. -/
structure SupportedNetwork where
  name : NetworkName
  interval : UInt64
  deriving Repr, DecidableEq

/-- `NETWORKS`: the intervals target ~5minutes. -/
def networks : List SupportedNetwork :=
  [⟨.fromString "goerli", 20⟩,
    ⟨.fromString "mainnet", 30⟩,
    ⟨.fromString "gnosis", 60⟩,
    ⟨.fromString "hardhat", 10⟩,
    ⟨.fromString "arbitrum-one", 600⟩,
    ⟨.fromString "arbitrum-goerli", 500⟩,
    ⟨.fromString "avalanche", 60⟩,
    ⟨.fromString "matic", 150⟩,
    ⟨.fromString "celo", 30⟩,
    ⟨.fromString "optimism", 20⟩,
    ⟨.fromString "fantom", 100⟩]

/-- A name that some network in the table goes by. -/
def Supported (name : String) : Prop := ∃ network ∈ networks, network.name.display = name

theorem fromString_display (n : NetworkName) : NetworkName.fromString n.display = n := by
  cases n <;> rfl

/-- Reading a name and printing it again gives the name back, unless it is not in the list. -/
theorem display_fromString {name : String} (h : NetworkName.fromString name ≠ .unknown) :
    (NetworkName.fromString name).display = name := by
  unfold NetworkName.fromString at h ⊢
  split at h
  any_goals rfl
  exact absurd rfl h

/-- The table has every network but `unknown`. -/
theorem exists_mem_networks_iff {n : NetworkName} :
    (∃ network ∈ networks, network.name = n) ↔ n ≠ .unknown := by
  cases n <;> decide

/-- The names supported are those that `from_string` knows. -/
theorem supported_iff {name : String} :
    Supported name ↔ NetworkName.fromString name ≠ .unknown := by
  rw [← exists_mem_networks_iff]
  constructor
  · rintro ⟨network, hmem, rfl⟩
    exact ⟨network, hmem, (fromString_display network.name).symm⟩
  · rintro ⟨network, hmem, hname⟩
    have hknown := exists_mem_networks_iff.mp ⟨network, hmem, hname⟩
    exact ⟨network, hmem, by rw [hname, display_fromString hknown]⟩

/-- A network is found in the table under its name: no two networks share one. -/
theorem find_networks {network : SupportedNetwork} (h : network ∈ networks) :
    networks.find? (fun n => n.name == network.name) = some network := by
  revert network
  decide

/-- No interval is zero. -/
theorem interval_ne_zero {network : SupportedNetwork} (h : network ∈ networks) :
    network.interval ≠ 0 := by
  revert network
  decide

end GraphcastSdk

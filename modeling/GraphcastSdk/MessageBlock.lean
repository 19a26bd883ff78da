import GraphcastSdk.Account
import GraphcastSdk.Chainheads
import GraphcastSdk.Lib.Checkpoint

/-!
# The block to send a message for (`lib.rs`, `determine_message_block`)

A radio sends for the last block, at or below the chain head it knows, that is a multiple of the
network's interval (`Checkpoint`).

* `determineMessageBlock_of_head`: the block, for any head; the arithmetic does not panic.
* `determineMessageBlock_answers`: what comes out of a graph node's statuses for a network name,
  and when two nodes settle on one block.
-/

namespace GraphcastSdk

/-- `determine_message_block`. -/
def determineMessageBlock (networkChainheadBlocks : HashMap NetworkName BlockPointer)
    (networkName : NetworkName) : Outcome NetworkBlockError UInt64 := do
  let examinationFrequency ←
    match networks.find? fun n => n.name == networkName with
    | some n => .ok n.interval
    | none => .err (.unsupportedNetwork
        ("Subgraph is indexing an unsupported network " ++ networkName.display ++
          ", please report an issue on https://github.com/graphops/graphcast-sdk"))
  match networkChainheadBlocks.lookup networkName with
  | some ⟨number, _⟩ => do
    let past ← remU64 number examinationFrequency
    subU64 number past
  | none => .err (.failedStatus
      ("Could not get the chainhead block number on network " ++ networkName.display ++
        " for determining the message's relevant block, check if graph node has a deployment " ++
        "indexing the network"))

/-- The multiples of the network's interval. -/
def SupportedNetwork.checkpoints (network : SupportedNetwork) : Set Nat :=
  {m | network.interval.toNat ∣ m}

variable {heads : HashMap NetworkName BlockPointer} {network : SupportedNetwork}

/-- A network that is not in the table is refused, whatever heads the map holds. -/
theorem determineMessageBlock_unknown :
    ∃ text, determineMessageBlock heads .unknown = .err (.unsupportedNetwork text) := ⟨_, rfl⟩

theorem determineMessageBlock_of_no_head (hn : network ∈ networks)
    (hl : heads.lookup network.name = none) :
    ∃ text, determineMessageBlock heads network.name = .err (.failedStatus text) := by
  unfold determineMessageBlock
  rw [find_networks hn, hl]
  exact ⟨_, rfl⟩

/-- **The block for a head is the last checkpoint of the network at or below it.** -/
theorem determineMessageBlock_of_head (hn : network ∈ networks) {head : BlockPointer}
    (hl : heads.lookup network.name = some head) :
    ∃ b, determineMessageBlock heads network.name = .ok b ∧
      Checkpoint.IsLast network.checkpoints head.number.toNat b.toNat := by
  obtain ⟨number, hash⟩ := head
  have hle : number % network.interval ≤ number := by
    rw [UInt64.le_iff_toNat_le, UInt64.toNat_mod]
    exact Nat.mod_le _ _
  have hsub : checkedSub number (number % network.interval) =
      some (number - number % network.interval) := checkedSub_eq_some.mpr ⟨hle, rfl⟩
  refine ⟨number - number % network.interval, ?_, ?_⟩
  · unfold determineMessageBlock remU64 subU64
    rw [find_networks hn, hl]
    simp only [Outcome.ok_bind, if_neg (interval_ne_zero hn), hsub]
  · rw [UInt64.toNat_sub_of_le _ _ hle, UInt64.toNat_mod]
    exact Checkpoint.isLast_sub_mod _ _

/-- Of two nodes on one network, the one with the later head settles no earlier, and on the same
block iff no checkpoint lies after the first head and up to the second. -/
theorem determineMessageBlock_mono (hn : network ∈ networks)
    {heads' : HashMap NetworkName BlockPointer} {head head' : BlockPointer} {b b' : UInt64}
    (hl : heads.lookup network.name = some head) (hl' : heads'.lookup network.name = some head')
    (hle : head.number ≤ head'.number) (hb : determineMessageBlock heads network.name = .ok b)
    (hb' : determineMessageBlock heads' network.name = .ok b') :
    b ≤ b' ∧ (b = b' ↔ ¬ ∃ m ∈ network.checkpoints,
      head.number.toNat < m ∧ m ≤ head'.number.toNat) := by
  obtain ⟨_, hok, hlast⟩ := determineMessageBlock_of_head hn hl
  obtain ⟨_, hok', hlast'⟩ := determineMessageBlock_of_head hn hl'
  obtain rfl := Outcome.ok.inj (hb.symm.trans hok)
  obtain rfl := Outcome.ok.inj (hb'.symm.trans hok')
  have hnat : head.number.toNat ≤ head'.number.toNat := UInt64.le_iff_toNat_le.mp hle
  refine ⟨UInt64.le_iff_toNat_le.mpr (hlast.mono hlast' hnat), ?_⟩
  rw [← UInt64.toNat_inj]
  exact hlast.eq_iff hlast' hnat

/-- **Every node answers for every name**: an unsupported name and a network without a head are
errors, and otherwise the block is the last checkpoint at or below the head in the map. -/
theorem determineMessageBlock_answers (statuses : List IndexingStatuses.IndexingStatus)
    (name : String) :
    let heads := updateNetworkChainheads statuses
    let n := NetworkName.fromString name
    let reported := ∃ chain ∈ chainsOf statuses,
      NetworkName.fromString chain.network = n ∧ chain.chainHeadBlock.isSome = true
    (¬ Supported name → ∃ text, determineMessageBlock heads n = .err (.unsupportedNetwork text)) ∧
    (Supported name → ¬ reported →
      ∃ text, determineMessageBlock heads n = .err (.failedStatus text)) ∧
    (Supported name → reported → ∃ network ∈ networks, network.name = n ∧
      ∃ head, heads.lookup n = some head ∧ ∃ b, determineMessageBlock heads n = .ok b ∧
        Checkpoint.IsLast network.checkpoints head.number.toNat b.toNat) ∧
    ∀ network ∈ networks, network.name = n →
      ∀ (heads' : HashMap NetworkName BlockPointer) (head head' : BlockPointer) (b b' : UInt64),
        heads.lookup n = some head → heads'.lookup n = some head' →
          head.number ≤ head'.number → determineMessageBlock heads n = .ok b →
            determineMessageBlock heads' n = .ok b' →
              b ≤ b' ∧ (b = b' ↔ ¬ ∃ m ∈ network.checkpoints,
                head.number.toNat < m ∧ m ≤ head'.number.toNat) := by
  intro heads n reported
  have hentry : (∃ head, heads.lookup n = some head) ↔ reported := exists_chainhead_iff statuses n
  refine ⟨fun hsup => ?_, fun hsup hnone => ?_, fun hsup hrep => ?_, ?_⟩
  · have hn : n = .unknown := by
      by_contra hne
      exact hsup (supported_iff.mpr hne)
    rw [hn]
    exact determineMessageBlock_unknown
  · obtain ⟨network, hmem, hname⟩ := exists_mem_networks_iff.mpr (supported_iff.mp hsup)
    have hlookup : heads.lookup n = none := by
      by_contra hne
      exact hnone (hentry.mp (Option.ne_none_iff_exists'.mp hne))
    show ∃ text, determineMessageBlock heads n = _
    rw [← show network.name = n from hname] at hlookup ⊢
    exact determineMessageBlock_of_no_head hmem hlookup
  · obtain ⟨network, hmem, hname⟩ := exists_mem_networks_iff.mpr (supported_iff.mp hsup)
    obtain ⟨head, hhead⟩ := hentry.mpr hrep
    refine ⟨network, hmem, hname, head, hhead, ?_⟩
    rw [← show network.name = n from hname] at hhead ⊢
    exact determineMessageBlock_of_head hmem hhead
  · intro network hmem hname heads' head head' b b' hl hl' hle hb hb'
    rw [← hname] at hl hl' hb hb'
    exact determineMessageBlock_mono hmem hl hl' hle hb hb'

/-- A name in the table, with a head. -/
theorem determineMessageBlock_answers_goerli :
    ∃ network ∈ networks, network.name = .goerli ∧
      ∃ head, (updateNetworkChainheads [goerliHead "9519999" "0x09"]).lookup .goerli = some head ∧
        ∃ b, determineMessageBlock (updateNetworkChainheads [goerliHead "9519999" "0x09"]) .goerli =
            .ok b ∧ Checkpoint.IsLast network.checkpoints head.number.toNat b.toNat :=
  (determineMessageBlock_answers [goerliHead "9519999" "0x09"] "goerli").2.2.1
    ⟨⟨.goerli, 20⟩, by decide, rfl⟩
    ⟨⟨"goerli", none, some ⟨"9519999", "0x09"⟩⟩, by decide, rfl, rfl⟩

/-- Two nodes around a boundary of Goerli's windows of 20 blocks. -/
example :
    determineMessageBlock (updateNetworkChainheads [goerliHead "9519999" "0x09"]) .goerli =
      .ok 9519980 ∧
    determineMessageBlock (updateNetworkChainheads [goerliHead "9520000" "0x0a"]) .goerli =
      .ok 9520000 := by
  constructor <;> rfl

end GraphcastSdk

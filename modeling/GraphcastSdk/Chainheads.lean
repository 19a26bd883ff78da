import GraphcastSdk.Graphql.ClientGraphNode
import Mathlib.Order.Bounds.Defs

/-!
# Chain heads by network (`update_network_chainheads`)

`updateNetworkChainheads_history`: a network has an entry when some chain of it reports a head
block, and the entry is the head block of the last such chain, in the order of the statuses and
then of their chains. A number that is not a `u64` counts as zero. So the order of the statuses
matters only where the chains of one network report different numbers.
-/

namespace GraphcastSdk

/-- The chains of the statuses, in the order they are visited. -/
def chainsOf (statuses : List IndexingStatuses.IndexingStatus) : List IndexingStatuses.Chain :=
  statuses.flatMap IndexingStatuses.IndexingStatus.chains

/-- The head block that a chain reports for a network. -/
def headFor (n : NetworkName) (chain : IndexingStatuses.Chain) : Option BlockPointer :=
  if NetworkName.fromString chain.network = n then chain.chainHeadBlock.map blockPointer else none

theorem writtenBy_headWrite (n : NetworkName) (chain : IndexingStatuses.Chain) :
    LastWrite.writtenBy headWrite n chain = headFor n chain := by
  unfold LastWrite.writtenBy headWrite headFor
  cases chain.chainHeadBlock with
  | none => simp
  | some blk => simp only [Option.map_some, eq_comm]

/-- The statuses only group the chains. -/
theorem updateNetworkChainheads_eq (statuses : List IndexingStatuses.IndexingStatus) :
    updateNetworkChainheads statuses = LastWrite.fill headWrite ∅ (chainsOf statuses) := by
  unfold updateNetworkChainheads chainsOf LastWrite.fill
  rw [List.foldl_flatMap]

/-- A network has an entry iff a chain of it reports a head block. -/
theorem exists_chainhead_iff (statuses : List IndexingStatuses.IndexingStatus) (n : NetworkName) :
    (∃ p, (updateNetworkChainheads statuses).lookup n = some p) ↔
      ∃ chain ∈ chainsOf statuses, NetworkName.fromString chain.network = n ∧
        chain.chainHeadBlock.isSome = true := by
  rw [updateNetworkChainheads_eq, LastWrite.exists_lookup_fill]
  refine exists_congr fun chain => and_congr_right fun _ => ?_
  rw [writtenBy_headWrite]
  unfold headFor
  split
  · rename_i h
    simp [h, Option.isSome_iff_exists]
  · rename_i h
    simp [h]

/-- **The entry of a network is the head block of the last chain that reports one for it.** The
number does not depend on the order when all these chains report the same one. -/
theorem updateNetworkChainheads_history (statuses : List IndexingStatuses.IndexingStatus)
    (n : NetworkName) :
    ((∃ p, (updateNetworkChainheads statuses).lookup n = some p) ↔
      ∃ chain ∈ chainsOf statuses, NetworkName.fromString chain.network = n ∧
        chain.chainHeadBlock.isSome = true) ∧
    (∀ p, (updateNetworkChainheads statuses).lookup n = some p ↔
      ∃ pre chain post, chainsOf statuses = pre ++ chain :: post ∧ headFor n chain = some p ∧
        ∀ c ∈ post, headFor n c = none) ∧
    ∀ statuses', (chainsOf statuses').Perm (chainsOf statuses) →
      (∀ c ∈ chainsOf statuses, ∀ d ∈ chainsOf statuses, ∀ p q, headFor n c = some p →
        headFor n d = some q → p.number = q.number) →
      ((updateNetworkChainheads statuses').lookup n).map BlockPointer.number =
        ((updateNetworkChainheads statuses).lookup n).map BlockPointer.number := by
  refine ⟨exists_chainhead_iff statuses n, ?_⟩
  simp only [updateNetworkChainheads_eq]
  refine ⟨fun p => ?_, fun statuses' hp hsame => LastWrite.lookup_fill_perm hp ?_⟩
  · rw [LastWrite.lookup_fill_eq_some]
    simp only [writtenBy_headWrite]
  · intro p hpw q hqw
    obtain ⟨c, hc, hcp⟩ := LastWrite.mem_written.mp hpw
    obtain ⟨d, hd, hdq⟩ := LastWrite.mem_written.mp hqw
    rw [writtenBy_headWrite] at hcp hdq
    exact hsame c hc d hd p q hcp hdq

/-- The entry of `n` is the greatest of the well-formed numbers that its chains report. -/
def HoldsGreatest (statuses : List IndexingStatuses.IndexingStatus) (n : NetworkName) : Prop :=
  ∀ number, ((updateNetworkChainheads statuses).lookup n).map BlockPointer.number = some number ↔
    IsGreatest {k | ∃ chain ∈ chainsOf statuses, NetworkName.fromString chain.network = n ∧
      ∃ blk, chain.chainHeadBlock = some blk ∧ Decimal.parseU64 blk.number = some k} number

/-- One deployment on Goerli. -/
def goerliHead (number hash : String) : IndexingStatuses.IndexingStatus :=
  ⟨"QmacQnSgia4iDPWHpeY6aWxesRFdb8o5DKZUx96zZqEWrB", [⟨"goerli", none, some ⟨number, hash⟩⟩]⟩

/-- A later, lower head replaces a higher one, so the order decides; and a malformed number gives
an entry of zero. -/
theorem chainheads_overwritten :
    ¬ HoldsGreatest [goerliHead "10" "0x0a", goerliHead "9" "0x09"] .goerli ∧
    (updateNetworkChainheads [goerliHead "10" "0x0a", goerliHead "9" "0x09"]).lookup .goerli =
      some ⟨9, "0x09"⟩ ∧
    (updateNetworkChainheads [goerliHead "9" "0x09", goerliHead "10" "0x0a"]).lookup .goerli =
      some ⟨10, "0x0a"⟩ ∧
    (updateNetworkChainheads [goerliHead "x" "0x0b"]).lookup .goerli = some ⟨0, "0x0b"⟩ ∧
    Decimal.parseU64 "x" = none := by
  refine ⟨fun h => ?_, by decide +kernel, by decide +kernel, by decide +kernel, by decide +kernel⟩
  have hgreatest := (h 9).mp (by decide +kernel)
  have hten : (10 : UInt64) ≤ 9 := hgreatest.2
    ⟨⟨"goerli", none, some ⟨"10", "0x0a"⟩⟩, by decide, rfl, _, rfl, by decide⟩
  exact absurd hten (by decide)

end GraphcastSdk

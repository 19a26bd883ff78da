import GraphcastSdk.Chainheads

/-!
# Latest blocks by subgraph (`subgraph_network_blocks`)

* `lookup_subgraphNetworkBlocks`: a subgraph's entry is the first latest block among the chains of
  its own statuses.
* `subgraphNetworkBlocks_history`: which subgraphs have an entry, that network, hash and number of
  an entry come from one chain, and what an entry does not depend on.
-/

namespace GraphcastSdk

/-- The chains of a subgraph's statuses, in the order they are visited. -/
def chainsOfSubgraph (subgraph : String) (statuses : List IndexingStatuses.IndexingStatus) :
    List IndexingStatuses.Chain :=
  chainsOf (statuses.filter fun status => status.subgraph = subgraph)

/-- The number of the chain's latest block, if it has one, is a `u64`. -/
def WellNumbered (chain : IndexingStatuses.Chain) : Prop :=
  ∀ blk ∈ chain.latestBlock, Decimal.parseU64 blk.number ≠ none

instance : DecidablePred WellNumbered := fun chain =>
  inferInstanceAs (Decidable (∀ blk ∈ chain.latestBlock, Decimal.parseU64 blk.number ≠ none))

/-- The pointer to a chain's latest block. -/
def latestPointer (chain : IndexingStatuses.Chain) : Option NetworkPointer :=
  chain.latestBlock.map fun blk => ⟨chain.network, blockPointer blk⟩

/-- Only a subgraph's own statuses write its entry. -/
theorem writtenBy_latestWrite (subgraph subgraph' : String) :
    LastWrite.writtenBy (latestWrite subgraph') subgraph =
      if subgraph = subgraph' then latestPointer else fun _ => none := by
  funext chain
  unfold LastWrite.writtenBy latestWrite
  by_cases h : subgraph = subgraph'
  · rw [if_pos h, latestPointer]
    cases chain.latestBlock with
    | none => rfl
    | some blk => exact if_pos h
  · rw [if_neg h]
    cases chain.latestBlock with
    | none => rfl
    | some blk => exact if_neg h

/-- **A subgraph's entry is the first latest block among its chains.** -/
theorem lookup_subgraphNetworkBlocks (statuses : List IndexingStatuses.IndexingStatus)
    (subgraph : String) : (subgraphNetworkBlocks statuses).lookup subgraph =
      (chainsOfSubgraph subgraph statuses).findSome? latestPointer := by
  -- over the statuses, from whatever map the earlier ones left
  have hfold : ∀ m : HashMap String NetworkPointer,
      (statuses.foldl (fun blocks status =>
        FirstWrite.keep (latestWrite status.subgraph) blocks status.chains) m).lookup subgraph =
      (m.lookup subgraph).or ((chainsOfSubgraph subgraph statuses).findSome? latestPointer) := by
    unfold chainsOfSubgraph chainsOf
    induction statuses with
    | nil => intro m; exact Option.or_none.symm
    | cons status statuses ih =>
      intro m
      rw [List.foldl_cons, ih, FirstWrite.lookup_keep, Option.or_assoc, writtenBy_latestWrite]
      by_cases hs : status.subgraph = subgraph
      · rw [if_pos hs.symm, List.filter_cons_of_pos (by simpa using hs), List.flatMap_cons,
          List.findSome?_append]
      · have hnone : (status.chains.findSome? fun _ => (none : Option NetworkPointer)) = none :=
          List.findSome?_eq_none_iff.mpr fun _ _ => rfl
        rw [if_neg (Ne.symm hs), hnone, Option.none_or,
          List.filter_cons_of_neg (by simpa using hs)]
  rw [subgraphNetworkBlocks, hfold, Finmap.lookup_empty, Option.none_or]

theorem mem_chainsOfSubgraph {subgraph : String} {chain : IndexingStatuses.Chain}
    {statuses : List IndexingStatuses.IndexingStatus} :
    chain ∈ chainsOfSubgraph subgraph statuses ↔
      ∃ status ∈ statuses, status.subgraph = subgraph ∧ chain ∈ status.chains := by
  unfold chainsOfSubgraph chainsOf
  simp only [List.mem_flatMap, List.mem_filter, decide_eq_true_eq, and_assoc]

/-- A chain's pointer, where the number of its latest block is well formed. -/
theorem latestPointer_eq_some {chain : IndexingStatuses.Chain} {p : NetworkPointer}
    (hwf : WellNumbered chain) :
    latestPointer chain = some p ↔ ∃ blk, chain.latestBlock = some blk ∧
      p.network = chain.network ∧ p.block.hash = blk.hash ∧
        Decimal.parseU64 blk.number = some p.block.number := by
  unfold latestPointer
  rw [Option.map_eq_some_iff]
  refine exists_congr fun blk => and_congr_right fun hblk => ?_
  obtain ⟨number, hnumber⟩ := Option.ne_none_iff_exists'.mp (hwf blk hblk)
  unfold blockPointer
  rw [hnumber, Option.getD_some]
  constructor
  · rintro rfl
    exact ⟨rfl, rfl, rfl⟩
  · rintro ⟨hnetwork, hhash, hnum⟩
    obtain ⟨network, ⟨number', hash⟩⟩ := p
    obtain rfl := Option.some.inj hnum
    rw [← hnetwork, ← hhash]

/-- Chains without a latest block make no difference to the first pointer. -/
theorem findSome?_latestPointer (chains : List IndexingStatuses.Chain) :
    chains.findSome? latestPointer =
      (chains.filter (·.latestBlock.isSome)).findSome? latestPointer := by
  induction chains with
  | nil => rfl
  | cons chain chains ih =>
    cases hblk : chain.latestBlock with
    | none =>
      have hnone : latestPointer chain = none := Option.map_eq_none_iff.mpr hblk
      rw [List.findSome?_cons, hnone, ih, List.filter_cons_of_neg (by simp [hblk])]
    | some blk =>
      rw [List.filter_cons_of_pos (by simp [hblk]), List.findSome?_cons, List.findSome?_cons, ih]

/-- **The entries**: a subgraph has one iff a chain of its statuses has a latest block, it is the
first such chain's, and it depends on these chains alone. -/
theorem subgraphNetworkBlocks_history (statuses : List IndexingStatuses.IndexingStatus)
    (hwf : ∀ chain ∈ chainsOf statuses, WellNumbered chain) (subgraph : String) :
    ((∃ p, (subgraphNetworkBlocks statuses).lookup subgraph = some p) ↔
      ∃ status ∈ statuses, status.subgraph = subgraph ∧
        ∃ chain ∈ status.chains, chain.latestBlock.isSome = true) ∧
    (∀ p, (subgraphNetworkBlocks statuses).lookup subgraph = some p ↔
      ∃ pre chain post blk, chainsOfSubgraph subgraph statuses = pre ++ chain :: post ∧
        (∀ c ∈ pre, c.latestBlock = none) ∧ chain.latestBlock = some blk ∧
        p.network = chain.network ∧ p.block.hash = blk.hash ∧
        Decimal.parseU64 blk.number = some p.block.number) ∧
    ∀ statuses', (chainsOfSubgraph subgraph statuses').filter (·.latestBlock.isSome) =
        (chainsOfSubgraph subgraph statuses).filter (·.latestBlock.isSome) →
      (subgraphNetworkBlocks statuses').lookup subgraph =
        (subgraphNetworkBlocks statuses).lookup subgraph := by
  have hmem : ∀ chain ∈ chainsOfSubgraph subgraph statuses, chain ∈ chainsOf statuses := by
    intro chain hchain
    obtain ⟨status, hstatus, -, hc⟩ := mem_chainsOfSubgraph.mp hchain
    exact List.mem_flatMap.mpr ⟨status, hstatus, hc⟩
  have hnone : ∀ chain, latestPointer chain = none ↔ chain.latestBlock = none := fun chain =>
    Option.map_eq_none_iff
  refine ⟨?_, fun p => ?_, fun statuses' h => ?_⟩
  · rw [← Option.isSome_iff_exists, lookup_subgraphNetworkBlocks, List.findSome?_isSome_iff]
    simp only [mem_chainsOfSubgraph, latestPointer, Option.isSome_map]
    constructor
    · rintro ⟨chain, ⟨status, hstatus, hs, hc⟩, hblk⟩
      exact ⟨status, hstatus, hs, chain, hc, hblk⟩
    · rintro ⟨status, hstatus, hs, chain, hc, hblk⟩
      exact ⟨chain, ⟨status, hstatus, hs, hc⟩, hblk⟩
  · rw [lookup_subgraphNetworkBlocks, List.findSome?_eq_some_iff]
    constructor
    · rintro ⟨pre, chain, post, hsplit, hp, hpre⟩
      have hchain := hmem chain (by rw [hsplit]; simp)
      obtain ⟨blk, hblk, hfields⟩ := (latestPointer_eq_some (hwf chain hchain)).mp hp
      exact ⟨pre, chain, post, blk, hsplit, fun c hc => (hnone c).mp (hpre c hc), hblk, hfields⟩
    · rintro ⟨pre, chain, post, blk, hsplit, hpre, hblk, hfields⟩
      have hchain := hmem chain (by rw [hsplit]; simp)
      exact ⟨pre, chain, post, hsplit,
        (latestPointer_eq_some (hwf chain hchain)).mpr ⟨blk, hblk, hfields⟩,
        fun c hc => (hnone c).mpr (hpre c hc)⟩
  · rw [lookup_subgraphNetworkBlocks, lookup_subgraphNetworkBlocks, findSome?_latestPointer, h,
      ← findSome?_latestPointer]

/-- Three statuses of two deployments, the first without a latest block on its first chain. -/
def repeatedStatuses : List IndexingStatuses.IndexingStatus :=
  [⟨"QmacQnSgia4iDPWHpeY6aWxesRFdb8o5DKZUx96zZqEWrB",
      [⟨"mainnet", none, some ⟨"17900000", "0x1e"⟩⟩, ⟨"goerli", some ⟨"9520009", "0x09"⟩, none⟩]⟩,
    ⟨"Qmdsp5yyFzMVUdSv5N9KndTisjXHrGDEXNaBxjyCTvDfPs", [⟨"gnosis", some ⟨"7", "0x07"⟩, none⟩]⟩,
    ⟨"QmacQnSgia4iDPWHpeY6aWxesRFdb8o5DKZUx96zZqEWrB",
      [⟨"goerli", some ⟨"9520010", "0x0a"⟩, none⟩]⟩]

/-- The first deployment's entry is on its second chain, which is the first with a latest block. -/
theorem subgraphNetworkBlocks_history_repeated :
    (subgraphNetworkBlocks repeatedStatuses).lookup
      "QmacQnSgia4iDPWHpeY6aWxesRFdb8o5DKZUx96zZqEWrB" =
        some ⟨"goerli", ⟨9520009, "0x09"⟩⟩ :=
  ((subgraphNetworkBlocks_history repeatedStatuses (by decide +kernel)
    "QmacQnSgia4iDPWHpeY6aWxesRFdb8o5DKZUx96zZqEWrB").2.1 _).mpr
      ⟨[⟨"mainnet", none, some ⟨"17900000", "0x1e"⟩⟩], ⟨"goerli", some ⟨"9520009", "0x09"⟩, none⟩,
        [⟨"goerli", some ⟨"9520010", "0x0a"⟩, none⟩], ⟨"9520009", "0x09"⟩, by decide, by decide,
        rfl, rfl, rfl, by decide⟩

end GraphcastSdk

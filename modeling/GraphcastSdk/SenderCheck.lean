import GraphcastSdk.Message
import GraphcastSdk.Modes

/-!
# What the sender check guarantees

`valid_sender` passes a signer on to `Account::verify` and keeps only the verdict. `Vouches` says
what each mode's verdict stands for: which subgraph ties the signer to the claimed graph account,
and whether the network reports its stake.

* `verify_vouches`: an account that verifies is vouched for.
* `validSender_sound`: so is the signer of a message that passes, and it is not the local sender.
-/

namespace GraphcastSdk

variable (web : Subgraphs) (F : Type) [F32 F] (networkSubgraph registrySubgraph : String)

/-- `s` is `account` itself, or an operator of the graph account the network has under this id. -/
def SpeaksFor (s account : String) : Prop :=
  s = account ∨ ∃ x, NetworkAnswers web networkSubgraph s account x ∧ x.id = account ∧
    s ∈ x.operators.map GraphAccount.Operator.id

/-- What the subgraphs say of a signer `s` and a graph account when a mode accepts them. -/
def Vouches (s account : String) : IdentityValidation → Prop
  | .noCheck | .validAddress => True
  | .graphcastRegistered => RegistryNames web registrySubgraph s account
  | .graphNetworkAccount => SpeaksFor web networkSubgraph s account
  | .registeredIndexer =>
    RegistryNames web registrySubgraph s account ∧ ReportsStake web F networkSubgraph account
  | .indexer =>
    (RegistryNames web registrySubgraph s account ∨ SpeaksFor web networkSubgraph s account) ∧
      ReportsStake web F networkSubgraph account
  | .subgraphStaker =>
    RegistryNames web registrySubgraph s account ∨ SpeaksFor web networkSubgraph s account

variable {web F networkSubgraph registrySubgraph}

/-! ## From the lookups -/

theorem registryNames_of_accountFromRegistry {self a : Account}
    (h : self.accountFromRegistry web registrySubgraph = .ok a) (hacc : a.account = self.account) :
    RegistryNames web registrySubgraph self.agent self.account :=
  hacc ▸ (Account.accountFromRegistry_eq_ok.mp h).2

/-- The network is asked for the signer among the operators, so an answer at all has it there:
that the client reads off the first operator instead does no harm to the verdict. -/
theorem speaksFor_of_accountFromNetwork (hf : Account.FiltersAccounts web networkSubgraph)
    {self a : Account} (h : self.accountFromNetwork web networkSubgraph = .ok a) :
    SpeaksFor web networkSubgraph self.agent self.account := by
  by_cases hself : self.agent = self.account
  · exact Or.inl hself
  · obtain ⟨x, hx, -, -⟩ := (queryGraphAccount_eq_ok web).mp h
    obtain ⟨response, data, hr, -, hd, hhead⟩ := id hx
    obtain ⟨hid, hops⟩ := hf _ response data x hr hd (List.mem_of_head? hhead)
    have hsent : (graphAccountVariables self.agent self.account).operatorAddr = [self.agent] := by
      simp [graphAccountVariables, hself]
    exact Or.inr ⟨x, hx, hid, hops self.agent (by rw [hsent]; exact List.mem_singleton_self _)⟩

theorem verify_vouches (hf : Account.FiltersAccounts web networkSubgraph) {self a : Account}
    {mode : IdentityValidation}
    (h : self.verify web F networkSubgraph registrySubgraph mode = .ok a) :
    Vouches web F networkSubgraph registrySubgraph self.agent self.account mode := by
  obtain ⟨hr, hacc, hs⟩ := Account.verify_eq_ok.mp h
  have wide : (mode = .indexer ∨ mode = .subgraphStaker) →
      RegistryNames web registrySubgraph self.agent self.account ∨
        SpeaksFor web networkSubgraph self.agent self.account := by
    intro hm
    rcases (Account.resolve_eq_ok_wide hm).mp hr with hreg | ⟨-, hn⟩
    · exact Or.inl (registryNames_of_accountFromRegistry hreg hacc)
    · exact Or.inr (speaksFor_of_accountFromNetwork hf hn)
  cases mode with
  | noCheck => trivial
  | validAddress => trivial
  | graphcastRegistered =>
    exact registryNames_of_accountFromRegistry
      ((Account.resolve_eq_ok_registry (Or.inl rfl)).mp hr) hacc
  | graphNetworkAccount =>
    exact speaksFor_of_accountFromNetwork hf (Account.resolve_eq_ok_network.mp hr)
  | registeredIndexer =>
    exact ⟨registryNames_of_accountFromRegistry
      ((Account.resolve_eq_ok_registry (Or.inr rfl)).mp hr) hacc, hs rfl⟩
  | indexer => exact ⟨wide (Or.inl rfl), hs rfl⟩
  | subgraphStaker => exact wide (Or.inr rfl)

/-! ## The signer of a message -/

/-- **Soundness of the sender check.** -/
theorem validSender_sound {T : Type} {ethers : Ethers T} {m r : GraphcastMessage T}
    {localSenderId : String} {mode : IdentityValidation}
    (hf : Account.FiltersAccounts web networkSubgraph) (hmode : mode ≠ .noCheck)
    (h : m.validSender ethers web F registrySubgraph networkSubgraph localSenderId mode = .ok r) :
    ∃ s, m.recoverSenderAddress ethers = .ok s ∧ s ≠ localSenderId ∧
      Vouches web F networkSubgraph registrySubgraph s m.graphAccount mode := by
  obtain ⟨-, h⟩ := GraphcastMessage.validSender_eq_ok.mp h
  obtain ⟨s, hs, hne, a, ha⟩ := h hmode
  exact ⟨s, hs, hne, verify_vouches hf ha⟩

/-- The services of `test_validate_graph_network`: no registrations, and a network that has the
main indexer's account, with enough stake. -/
def goerliSubgraphs : Subgraphs where
  setGraphcastIds _ _ := .ok ⟨some ⟨[]⟩, none⟩
  graphAccount _ v :=
    if v = ⟨[], "0xe9a1cabd57700b17945fd81feefba82340d9568f"⟩ then
      .ok ⟨some ⟨[⟨"0xe9a1cabd57700b17945fd81feefba82340d9568f", [], []⟩]⟩, none⟩
    else .ok ⟨some ⟨[]⟩, none⟩
  indexerStatus _ v :=
    if v = ⟨"0xe9a1cabd57700b17945fd81feefba82340d9568f"⟩ then
      .ok ⟨some ⟨some ⟨"100000000000000000000000", some []⟩, ⟨"100000000000000000000000"⟩⟩, none⟩
    else .ok ⟨some ⟨none, ⟨"100000000000000000000000"⟩⟩, none⟩

theorem filtersAccounts_goerliSubgraphs (networkSubgraph : String) :
    Account.FiltersAccounts goerliSubgraphs networkSubgraph := by
  intro v response data x hr hd hx
  unfold goerliSubgraphs at hr
  simp only at hr
  split at hr
  · rename_i hv
    obtain rfl := Except.ok.inj hr
    obtain rfl := Option.some.inj hd
    obtain rfl := List.mem_singleton.mp hx
    subst hv
    exact ⟨rfl, fun o ho => absurd ho (by simp)⟩
  · obtain rfl := Except.ok.inj hr
    obtain rfl := Option.some.inj hd
    exact absurd hx (by simp)

theorem validSender_sound_goerli :
    ∃ s, graphAccountMessage.recoverSenderAddress goerliEthers = .ok s ∧ s ≠ "" ∧
      Vouches goerliSubgraphs Unit "network" "registry" s
        "0xe9a1cabd57700b17945fd81feefba82340d9568f" .indexer :=
  validSender_sound (r := graphAccountMessage) (m := graphAccountMessage)
    (filtersAccounts_goerliSubgraphs "network") (by decide) (by decide +kernel)

end GraphcastSdk

import GraphcastSdk.Account
import Mathlib.Tactic.ByContra

/-!
# What `Account::verify` guarantees, mode by mode

Every result quantifies over the account, the endpoints and the services behind them (arbitrary
functions of the query, errors included).

* `verify_returns_self_iff`: the account returned is the one verified, except that a network
  lookup may name another agent. The network client takes the first operator of the account it
  finds, which need not be the operator asked for (`Misnames`, `verify_misnames`).
* `verify_mode_order`: the modes by strength, with the account each one returns.
* `wide_modes_accept_iff`: `Indexer` and `SubgraphStaker` accept what `GraphNetworkAccount`
  accepts, except for an agent the registry knows under another account. A registry answer is
  final, and the network is asked only when there is none (`wide_modes_reject`).
-/

namespace GraphcastSdk

namespace Account

variable (web : Subgraphs) (F : Type) [F32 F] (networkSubgraph registrySubgraph : String)

/-- A `graphAccounts` query filters by `id` and `operators_contains`: it returns only accounts
with the requested id whose operators contain every requested one. -/
def FiltersAccounts : Prop :=
  ∀ v response data x, web.graphAccount networkSubgraph v = .ok response →
    response.data = some data → x ∈ data.graphAccounts →
      x.id = v.accountAddr ∧ ∀ o ∈ v.operatorAddr, o ∈ x.operators.map GraphAccount.Operator.id

/-- The mode looks the account up on the network: always, or for want of a registry record. -/
def LooksUpNetwork (self : Account) (mode : IdentityValidation) : Prop :=
  mode = .graphNetworkAccount ∨ (mode = .indexer ∨ mode = .subgraphStaker) ∧
    ¬ ∃ indexer, RegistryNames web registrySubgraph self.agent indexer

/-- The network lookup of an agent that is not the account itself finds an account that lists
some other operator first, and the mode has no indexer check or the check passes. -/
structure Misnames (self : Account) (mode : IdentityValidation) : Prop where
  looksUp : LooksUpNetwork web registrySubgraph self mode
  delegated : self.agent ≠ self.account
  otherFirst : ∃ x o, NetworkAnswers web networkSubgraph self.agent self.account x ∧
    x.operators.head? = some o ∧ o.id ≠ self.agent
  staked : mode.checksIndexer = true → ReportsStake web F networkSubgraph self.account

/-- The registry's first record for the agent names an account other than the one claimed. -/
def RegistryNamesOther (self : Account) : Prop :=
  ∃ indexer, RegistryNames web registrySubgraph self.agent indexer ∧ indexer ≠ self.account

variable {web F networkSubgraph registrySubgraph} {self a : Account} {mode : IdentityValidation}

/-! ## The account returned -/

theorem registryNames_unique {registrySubgraph agent i j : String}
    (hi : RegistryNames web registrySubgraph agent i)
    (hj : RegistryNames web registrySubgraph agent j) : i = j :=
  Outcome.ok.inj (((queryRegistry_eq_ok web).mpr hi).symm.trans ((queryRegistry_eq_ok web).mpr hj))

/-- A mode that looks the account up on the network finds the network's answer. -/
theorem resolve_of_looksUpNetwork (hl : LooksUpNetwork web registrySubgraph self mode) :
    self.resolve web networkSubgraph registrySubgraph mode = .ok a ↔
      self.accountFromNetwork web networkSubgraph = .ok a := by
  rcases hl with rfl | ⟨hm, hno⟩
  · exact resolve_eq_ok_network
  · rw [resolve_eq_ok_wide hm]
    constructor
    · rintro (hr | ⟨-, hn⟩)
      · exact absurd ⟨_, (accountFromRegistry_eq_ok.mp hr).2⟩ hno
      · exact hn
    · intro hn
      exact Or.inr ⟨accountFromRegistry_eq_err.mpr hno, hn⟩

/-- Any other mode that asks a subgraph finds the registry's. -/
theorem resolve_of_not_looksUpNetwork (hl : ¬ LooksUpNetwork web registrySubgraph self mode)
    (hno : mode ≠ .noCheck) (hva : mode ≠ .validAddress) :
    self.resolve web networkSubgraph registrySubgraph mode = .ok a ↔
      self.accountFromRegistry web registrySubgraph = .ok a := by
  have wide : (mode = .indexer ∨ mode = .subgraphStaker) →
      (self.resolve web networkSubgraph registrySubgraph mode = .ok a ↔
        self.accountFromRegistry web registrySubgraph = .ok a) := by
    intro hm
    rw [resolve_eq_ok_wide hm]
    constructor
    · rintro (hr | ⟨he, -⟩)
      · exact hr
      · exact absurd (Or.inr ⟨hm, accountFromRegistry_eq_err.mp he⟩) hl
    · exact Or.inl
  cases mode with
  | noCheck => exact absurd rfl hno
  | validAddress => exact absurd rfl hva
  | graphcastRegistered => exact resolve_eq_ok_registry (Or.inl rfl)
  | graphNetworkAccount => exact absurd (Or.inl rfl) hl
  | registeredIndexer => exact resolve_eq_ok_registry (Or.inr rfl)
  | indexer => exact wide (Or.inl rfl)
  | subgraphStaker => exact wide (Or.inr rfl)

/-- What a lookup found that passed the account guard: the account itself, or the network's
answer under the agent it lists first. -/
theorem resolve_cases (h : self.resolve web networkSubgraph registrySubgraph mode = .ok a)
    (hacc : a.account = self.account) :
    a = self ∨ LooksUpNetwork web registrySubgraph self mode ∧
      self.accountFromNetwork web networkSubgraph = .ok a := by
  by_cases hl : LooksUpNetwork web registrySubgraph self mode
  · exact Or.inr ⟨hl, (resolve_of_looksUpNetwork hl).mp h⟩
  · by_cases hno : mode = .noCheck
    · subst hno
      exact Or.inl (Outcome.ok.inj h).symm
    · by_cases hva : mode = .validAddress
      · subst hva
        exact Or.inl (Outcome.ok.inj h).symm
      · have hr := (resolve_of_not_looksUpNetwork hl hno hva).mp h
        exact Or.inl (Account.ext (accountFromRegistry_eq_ok.mp hr).1 hacc)

/-- The id of the first account in the response is the account asked for. -/
theorem FiltersAccounts.id_eq (hf : FiltersAccounts web networkSubgraph)
    {agent account : String} {x : GraphAccount.GraphAccounts}
    (hx : NetworkAnswers web networkSubgraph agent account x) : x.id = account := by
  obtain ⟨response, data, hr, -, hd, hx⟩ := hx
  exact (hf _ response data x hr hd (List.mem_of_head? hx)).1

/-- **The account returned is the one verified, unless the network lookup names another agent.** -/
theorem verify_returns_self_iff (hf : FiltersAccounts web networkSubgraph) :
    (∀ a, self.verify web F networkSubgraph registrySubgraph mode = .ok a → a = self) ↔
      ¬ Misnames web F networkSubgraph registrySubgraph self mode := by
  constructor
  · rintro h ⟨hl, hne, ⟨x, o, hx, ho, hoa⟩, hs⟩
    have hid : x.id = self.account := hf.id_eq hx
    have hn : self.accountFromNetwork web networkSubgraph = .ok ⟨o.id, self.account⟩ := by
      refine (queryGraphAccount_eq_ok web).mpr ⟨x, hx, hid.symm, ?_⟩
      unfold agentOf
      rw [if_neg hne, ho, Option.map_some]
    have hv := h ⟨o.id, self.account⟩
      (verify_eq_ok.mpr ⟨(resolve_of_looksUpNetwork hl).mpr hn, rfl, hs⟩)
    exact hoa (congrArg Account.agent hv)
  · intro hm a ha
    obtain ⟨hr, hacc, hs⟩ := verify_eq_ok.mp ha
    rcases resolve_cases hr hacc with rfl | ⟨hl, hn⟩
    · rfl
    · obtain ⟨x, hx, -, hag⟩ := (queryGraphAccount_eq_ok web).mp hn
      refine Account.ext ?_ hacc
      unfold agentOf at hag
      split at hag
      · rename_i heq
        exact (Option.some.inj hag).symm.trans heq.symm
      · rename_i hne
        obtain ⟨o, ho, hoa⟩ := Option.map_eq_some_iff.mp hag
        by_contra hc
        exact hm ⟨hl, hne, ⟨x, o, hx, ho, fun h => hc (hoa.symm.trans h)⟩, hs⟩

/-- The float of runs that compare equal amounts only. -/
instance : F32 Unit where
  parse _ := .ok ()
  zero := ()
  ge _ _ := true

/-- An operator set with `0xfirst` in front of whoever is asked for, and no registrations. -/
def operatorListedSecond : Subgraphs where
  setGraphcastIds _ _ := .ok ⟨some ⟨[]⟩, none⟩
  graphAccount _ v := .ok ⟨some
    ⟨[⟨v.accountAddr, ⟨"0xfirst"⟩ :: v.operatorAddr.map GraphAccount.Operator.mk, []⟩]⟩, none⟩
  indexerStatus _ _ := .ok ⟨some ⟨none, ⟨"100000000000000000000000"⟩⟩, none⟩

theorem filtersAccounts_operatorListedSecond : FiltersAccounts operatorListedSecond "network" := by
  intro v response data x hr hd hx
  obtain rfl := Except.ok.inj hr
  obtain rfl := Option.some.inj hd
  obtain rfl := List.mem_singleton.mp hx
  refine ⟨rfl, fun o ho => ?_⟩
  simp [List.map_map, Function.comp_def, ho]

/-- A signer that is the second operator of its account is verified as the first one. -/
theorem verify_misnames :
    FiltersAccounts operatorListedSecond "network" ∧
      ¬ ∀ a, (⟨"0xsigner", "0xaccount"⟩ : Account).verify operatorListedSecond Unit "network"
        "registry" .graphNetworkAccount = .ok a → a = ⟨"0xsigner", "0xaccount"⟩ := by
  refine ⟨filtersAccounts_operatorListedSecond, fun h => ?_⟩
  have := h ⟨"0xfirst", "0xaccount"⟩ (by decide)
  exact absurd this (by decide)

/-- The operator listed first is verified as itself. -/
theorem verify_returns_self_iff_operatorListedSecond :
    (⟨"0xfirst", "0xaccount"⟩ : Account).verify operatorListedSecond Unit "network" "registry"
        .graphNetworkAccount = .ok ⟨"0xfirst", "0xaccount"⟩ ∧
      ∀ a, (⟨"0xfirst", "0xaccount"⟩ : Account).verify operatorListedSecond Unit "network"
        "registry" .graphNetworkAccount = .ok a → a = ⟨"0xfirst", "0xaccount"⟩ := by
  refine ⟨by decide, (verify_returns_self_iff filtersAccounts_operatorListedSecond).mpr ?_⟩
  rintro ⟨-, -, ⟨x, o, ⟨response, data, hr, -, hd, hx⟩, ho, hne⟩, -⟩
  obtain rfl := Except.ok.inj hr
  obtain rfl := Option.some.inj hd
  obtain rfl := Option.some.inj hx
  obtain rfl := Option.some.inj ho
  exact hne rfl

/-! ## The modes by strength -/

/-- **Strength order of the modes**, with the account each one returns. -/
theorem verify_mode_order (web : Subgraphs) (F : Type) [F32 F]
    (networkSubgraph registrySubgraph : String) (self : Account) :
    let verify := self.verify web F networkSubgraph registrySubgraph
    (∀ a, verify .registeredIndexer = .ok a → verify .graphcastRegistered = .ok a) ∧
    (∀ a, verify .registeredIndexer = .ok a → verify .indexer = .ok a) ∧
    (∀ a, verify .graphcastRegistered = .ok a → verify .subgraphStaker = .ok a) ∧
    (∀ a, verify .indexer = .ok a → verify .subgraphStaker = .ok a) ∧
    ∀ a, verify .subgraphStaker = .ok a →
      verify .graphcastRegistered = .ok a ∨ verify .graphNetworkAccount = .ok a := by
  refine ⟨fun a h => ?_, fun a h => ?_, fun a h => ?_, fun a h => ?_, fun a h => ?_⟩
  · obtain ⟨hr, hacc, -⟩ := verify_eq_ok.mp h
    have hr := (resolve_eq_ok_registry (Or.inr rfl)).mp hr
    exact (verify_eq_ok_of_unchecked rfl).mpr
      ⟨(resolve_eq_ok_registry (Or.inl rfl)).mpr hr, hacc⟩
  · obtain ⟨hr, hacc, hs⟩ := verify_eq_ok.mp h
    have hr := (resolve_eq_ok_registry (Or.inr rfl)).mp hr
    exact verify_eq_ok.mpr ⟨(resolve_eq_ok_wide (Or.inl rfl)).mpr (Or.inl hr), hacc,
      fun _ => hs rfl⟩
  · obtain ⟨hr, hacc⟩ := (verify_eq_ok_of_unchecked rfl).mp h
    have hr := (resolve_eq_ok_registry (Or.inl rfl)).mp hr
    exact (verify_eq_ok_of_unchecked rfl).mpr
      ⟨(resolve_eq_ok_wide (Or.inr rfl)).mpr (Or.inl hr), hacc⟩
  · obtain ⟨hr, hacc, -⟩ := verify_eq_ok.mp h
    have hr := (resolve_eq_ok_wide (Or.inl rfl)).mp hr
    exact (verify_eq_ok_of_unchecked rfl).mpr ⟨(resolve_eq_ok_wide (Or.inr rfl)).mpr hr, hacc⟩
  · obtain ⟨hr, hacc⟩ := (verify_eq_ok_of_unchecked rfl).mp h
    rcases (resolve_eq_ok_wide (Or.inr rfl)).mp hr with hr | ⟨-, hn⟩
    · exact Or.inl ((verify_eq_ok_of_unchecked rfl).mpr
        ⟨(resolve_eq_ok_registry (Or.inl rfl)).mpr hr, hacc⟩)
    · exact Or.inr ((verify_eq_ok_of_unchecked rfl).mpr
        ⟨resolve_eq_ok_network.mpr hn, hacc⟩)

/-! ## The wide modes -/

/-- An account the network lookup accepts is accepted under a wide mode, stake permitting, exactly
when the registry does not know its agent under another account. -/
theorem wide_accepts_iff (h : self.verify web F networkSubgraph registrySubgraph
      .graphNetworkAccount = .ok a) (hm : mode = .indexer ∨ mode = .subgraphStaker)
    (hs : mode.checksIndexer = true → ReportsStake web F networkSubgraph self.account) :
    (self.verify web F networkSubgraph registrySubgraph mode).isOk = true ↔
      ¬ RegistryNamesOther web registrySubgraph self := by
  obtain ⟨hr, hacc, -⟩ := verify_eq_ok.mp h
  have hn := resolve_eq_ok_network.mp hr
  rw [Outcome.isOk_iff]
  constructor
  · rintro ⟨b, hb⟩ ⟨indexer, hi, hne⟩
    obtain ⟨hrb, haccb, -⟩ := verify_eq_ok.mp hb
    rcases (resolve_eq_ok_wide hm).mp hrb with hreg | ⟨he, -⟩
    · have := registryNames_unique hi (accountFromRegistry_eq_ok.mp hreg).2
      exact hne (this.trans haccb)
    · exact accountFromRegistry_eq_err.mp he ⟨indexer, hi⟩
  · intro hno
    by_cases hex : ∃ indexer, RegistryNames web registrySubgraph self.agent indexer
    · obtain ⟨indexer, hi⟩ := hex
      have heq : indexer = self.account := by
        by_contra hne
        exact hno ⟨indexer, hi, hne⟩
      subst heq
      exact ⟨self, verify_eq_ok.mpr ⟨(resolve_eq_ok_wide hm).mpr
        (Or.inl (accountFromRegistry_eq_ok.mpr ⟨rfl, hi⟩)), rfl, hs⟩⟩
    · exact ⟨a, verify_eq_ok.mpr ⟨(resolve_eq_ok_wide hm).mpr
        (Or.inr ⟨accountFromRegistry_eq_err.mpr hex, hn⟩), hacc, hs⟩⟩

/-- **The alternatives of the wide modes hold exactly when the registry does not know the agent
under another account.** -/
theorem wide_modes_accept_iff (h : self.verify web F networkSubgraph registrySubgraph
      .graphNetworkAccount = .ok a) :
    ((self.verify web F networkSubgraph registrySubgraph .subgraphStaker).isOk = true ∧
      (self.validIndexer web F networkSubgraph = .ok true →
        (self.verify web F networkSubgraph registrySubgraph .indexer).isOk = true)) ↔
      ¬ RegistryNamesOther web registrySubgraph self := by
  have hstaker := wide_accepts_iff h (Or.inr rfl) fun h => absurd h (by decide)
  constructor
  · rintro ⟨hs, -⟩
    exact hstaker.mp hs
  · intro hno
    refine ⟨hstaker.mpr hno, fun hv => ?_⟩
    exact (wide_accepts_iff h (Or.inl rfl) fun _ => validIndexer_eq_ok.mp hv).mpr hno

/-- The network knows every agent as an operator of every account, with enough stake; the registry
knows every agent under `0xelsewhere`. -/
def registeredElsewhere : Subgraphs where
  setGraphcastIds _ v := .ok ⟨some ⟨[⟨"0xelsewhere", v.address⟩]⟩, none⟩
  graphAccount _ v := .ok ⟨some
    ⟨[⟨v.accountAddr, v.operatorAddr.map GraphAccount.Operator.mk, []⟩]⟩, none⟩
  indexerStatus _ _ := .ok ⟨some
    ⟨some ⟨"100000000000000000000000", some []⟩, ⟨"100000000000000000000000"⟩⟩, none⟩

/-- An operator of its account, with enough stake, that both wide modes turn away. -/
theorem wide_modes_reject :
    (⟨"0xsigner", "0xaccount"⟩ : Account).verify registeredElsewhere Unit "network" "registry"
        .graphNetworkAccount = .ok ⟨"0xsigner", "0xaccount"⟩ ∧
      (⟨"0xsigner", "0xaccount"⟩ : Account).validIndexer registeredElsewhere Unit "network" =
        .ok true ∧
      ((⟨"0xsigner", "0xaccount"⟩ : Account).verify registeredElsewhere Unit "network" "registry"
        .subgraphStaker).isOk = false ∧
      ((⟨"0xsigner", "0xaccount"⟩ : Account).verify registeredElsewhere Unit "network" "registry"
        .indexer).isOk = false := by
  decide

/-- An operator of the account that the registry has it under. -/
theorem wide_modes_accept_iff_registeredElsewhere :
    ((⟨"0xsigner", "0xelsewhere"⟩ : Account).verify registeredElsewhere Unit "network" "registry"
        .subgraphStaker).isOk = true ∧
      ((⟨"0xsigner", "0xelsewhere"⟩ : Account).verify registeredElsewhere Unit "network" "registry"
        .indexer).isOk = true := by
  have hnetwork : (⟨"0xsigner", "0xelsewhere"⟩ : Account).verify registeredElsewhere Unit "network"
      "registry" .graphNetworkAccount = .ok ⟨"0xsigner", "0xelsewhere"⟩ := by decide
  have hindexer : (⟨"0xsigner", "0xelsewhere"⟩ : Account).validIndexer registeredElsewhere Unit
      "network" = .ok true := by decide
  have hregistry : RegistryNames registeredElsewhere "registry" "0xsigner" "0xelsewhere" :=
    ⟨_, _, _, rfl, rfl, rfl, rfl⟩
  have hno : ¬ RegistryNamesOther registeredElsewhere "registry" ⟨"0xsigner", "0xelsewhere"⟩ :=
    fun ⟨_, hi, hne⟩ => hne (registryNames_unique hi hregistry)
  obtain ⟨hstaker, hwide⟩ := (wide_modes_accept_iff hnetwork).mpr hno
  exact ⟨hstaker, hwide hindexer⟩

end Account

end GraphcastSdk

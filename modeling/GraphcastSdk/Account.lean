import GraphcastSdk.Graphql.ClientGraphAccount
import GraphcastSdk.Graphql.ClientNetwork
import GraphcastSdk.Graphql.ClientRegistry

/-!
# Accounts and their verification (`lib.rs`)

`Account`, `IdentityValidation`, `Account::verify` and `Account::valid_owner`, with the error type
of the message checks.

`verify` is the account lookup of the mode (`resolve`) followed by two guards: the account found
must be the one claimed, and under the indexer modes it must satisfy the stake requirement.
`verify_eq_ok` says so, and `resolve_eq_ok_*` what each lookup accepts; no later proof unfolds
`verify`.
-/

namespace GraphcastSdk

/-- `NetworkBlockError`. -/
inductive NetworkBlockError where
  | unsupportedNetwork (text : String)
  | failedStatus (text : String)
  | other (e : String)
  deriving Repr, DecidableEq

/-- `message_typing::MessageError`. -/
inductive MessageError where
  | payload
  | signing
  | encoding
  | decoding
  | invalidFields (e : String)
  | network (e : NetworkBlockError)
  | fieldDerivations (e : QueryError)
  | typeCast (text : String)
  deriving Repr, DecidableEq

/-- `message_typing::IdentityValidation`. -/
inductive IdentityValidation where
  /-- no checks -/
  | noCheck
  /-- valid address -/
  | validAddress
  /-- valid Graphcast id -/
  | graphcastRegistered
  /-- valid Graph Account -/
  | graphNetworkAccount
  /-- valid Graphcast registered indexer -/
  | registeredIndexer
  /-- valid Graph indexer or Graphcast Registered Indexer -/
  | indexer
  /-- valid Graph indexer, Graphcast Registered Indexer, or Message identifier owner / subgraph
  owner. Does not include Curator or Delegator -/
  | subgraphStaker
  deriving Repr, DecidableEq

/-- The modes with an indexer check. -/
def IdentityValidation.checksIndexer (idValidation : IdentityValidation) : Bool :=
  idValidation == .registeredIndexer || idValidation == .indexer

namespace Account

/-- `{:#?}` of an account. -/
def debug (self : Account) : String :=
  Text.debugStruct "Account"
    [("agent", Text.debugStr self.agent), ("account", Text.debugStr self.account)]

variable (web : Subgraphs)

/-- `account_from_registry`. -/
def accountFromRegistry (self : Account) (registrySubgraph : String) :
    Outcome QueryError Account := do
  let registeredAddress ← queryRegistry web registrySubgraph self.agent
  pure ⟨self.agent, registeredAddress⟩

/-- `account_from_network`. -/
def accountFromNetwork (self : Account) (networkSubgraph : String) : Outcome QueryError Account :=
  queryGraphAccount web networkSubgraph self.agent self.account

/-- The account lookup of `verify`, by mode. -/
def resolve (self : Account) (networkSubgraph registrySubgraph : String) :
    IdentityValidation → Outcome MessageError Account
  | .noCheck | .validAddress => .ok self
  | .graphcastRegistered =>
    (self.accountFromRegistry web registrySubgraph).mapErr .fieldDerivations
  | .graphNetworkAccount =>
    (self.accountFromNetwork web networkSubgraph).mapErr .fieldDerivations
  | .registeredIndexer =>
    (self.accountFromRegistry web registrySubgraph).mapErr .fieldDerivations
  | .indexer | .subgraphStaker =>
    -- any registry error falls back to the network
    (self.accountFromRegistry web registrySubgraph).orElse fun _ =>
      (self.accountFromNetwork web networkSubgraph).mapErr .fieldDerivations

/-- `valid_owner`. -/
def validOwner (self : Account) (networkSubgraph subgraphHash subgraphId : String) :
    Outcome MessageError Bool := do
  let subgraphHashes ← (subgraphHashById web networkSubgraph self.account subgraphId).mapErr
    .fieldDerivations
  pure (!Text.contains subgraphHashes subgraphHash)

variable (F : Type) [F32 F]

/-- `valid_indexer`. -/
def validIndexer (self : Account) (networkSubgraph : String) : Outcome MessageError Bool := do
  let network ← (queryNetworkSubgraph web F networkSubgraph self.account).mapErr .fieldDerivations
  pure network.stakeSatisfyRequirement

/-- `verify`. -/
def verify (self : Account) (networkSubgraph registrySubgraph : String)
    (idValidation : IdentityValidation) : Outcome MessageError Account := do
  let verifiedAccount ← self.resolve web networkSubgraph registrySubgraph idValidation
  if verifiedAccount.account ≠ self.account then
    .err (.invalidFields "Verified account is not the one claimed by the message, drop message")
  else if idValidation.checksIndexer then
    let valid ← verifiedAccount.validIndexer web F networkSubgraph
    if valid then pure verifiedAccount
    else .err (.invalidFields ("Verified account failed indexer requirement. Verified account: " ++
      verifiedAccount.debug))
  else pure verifiedAccount

/-! ## The lookups -/

variable {web} {self a : Account} {networkSubgraph registrySubgraph : String}

theorem accountFromRegistry_eq_ok :
    self.accountFromRegistry web registrySubgraph = .ok a ↔
      a.agent = self.agent ∧ RegistryNames web registrySubgraph self.agent a.account := by
  unfold accountFromRegistry
  rw [Outcome.bind_eq_ok]
  constructor
  · rintro ⟨indexer, hq, h⟩
    obtain rfl := Outcome.ok.inj h
    exact ⟨rfl, (queryRegistry_eq_ok web).mp hq⟩
  · rintro ⟨hag, hr⟩
    refine ⟨a.account, (queryRegistry_eq_ok web).mpr hr, ?_⟩
    rw [← hag]
    rfl

/-- The registry lookup fails exactly when the registry has no record for the agent. -/
theorem accountFromRegistry_eq_err :
    (∃ e, self.accountFromRegistry web registrySubgraph = .err e) ↔
      ¬ ∃ indexer, RegistryNames web registrySubgraph self.agent indexer := by
  unfold accountFromRegistry
  constructor
  · rintro ⟨e, h⟩ ⟨indexer, hr⟩
    rw [(queryRegistry_eq_ok web).mpr hr] at h
    exact absurd h (by simp)
  · intro hn
    rcases queryRegistry_total web registrySubgraph self.agent with ⟨i, h⟩ | ⟨e, h⟩
    · exact absurd ⟨i, (queryRegistry_eq_ok web).mp h⟩ hn
    · exact ⟨e, by rw [h]; rfl⟩

/-- A registry mode finds the account of the agent's first registry record. -/
theorem resolve_eq_ok_registry {mode : IdentityValidation}
    (hm : mode = .graphcastRegistered ∨ mode = .registeredIndexer) :
    self.resolve web networkSubgraph registrySubgraph mode = .ok a ↔
      self.accountFromRegistry web registrySubgraph = .ok a := by
  rcases hm with rfl | rfl <;> exact Outcome.mapErr_eq_ok

theorem resolve_eq_ok_network :
    self.resolve web networkSubgraph registrySubgraph .graphNetworkAccount = .ok a ↔
      self.accountFromNetwork web networkSubgraph = .ok a :=
  Outcome.mapErr_eq_ok

/-- A wide mode finds the registry's account, and the network's only when the registry lookup
fails. -/
theorem resolve_eq_ok_wide {mode : IdentityValidation}
    (hm : mode = .indexer ∨ mode = .subgraphStaker) :
    self.resolve web networkSubgraph registrySubgraph mode = .ok a ↔
      self.accountFromRegistry web registrySubgraph = .ok a ∨
        (∃ e, self.accountFromRegistry web registrySubgraph = .err e) ∧
          self.accountFromNetwork web networkSubgraph = .ok a := by
  have h : self.resolve web networkSubgraph registrySubgraph mode =
      (self.accountFromRegistry web registrySubgraph).orElse fun _ =>
        (self.accountFromNetwork web networkSubgraph).mapErr .fieldDerivations := by
    rcases hm with rfl | rfl <;> rfl
  rw [h, Outcome.orElse_eq_ok]
  simp only [Outcome.mapErr_eq_ok, exists_and_right]

/-! ## The guards -/

variable {F} {mode : IdentityValidation}

/-- The indexer check reads the account alone, not the agent. -/
theorem validIndexer_eq_ok :
    self.validIndexer web F networkSubgraph = .ok true ↔
      ReportsStake web F networkSubgraph self.account := by
  unfold validIndexer
  rw [← queryNetworkSubgraph_satisfies, Outcome.bind_eq_ok]
  simp only [Outcome.mapErr_eq_ok, Outcome.pure_def, Outcome.ok.injEq]

/-- **What `verify` accepts.** -/
theorem verify_eq_ok :
    self.verify web F networkSubgraph registrySubgraph mode = .ok a ↔
      self.resolve web networkSubgraph registrySubgraph mode = .ok a ∧
        a.account = self.account ∧
          (mode.checksIndexer = true → ReportsStake web F networkSubgraph self.account) := by
  unfold verify
  rw [Outcome.bind_eq_ok]
  constructor
  · rintro ⟨b, hb, h⟩
    split at h
    · exact absurd h (by simp)
    · rename_i hacc
      have hacc : b.account = self.account := Decidable.not_not.mp hacc
      split at h
      · obtain ⟨valid, hv, h⟩ := Outcome.bind_eq_ok.mp h
        cases valid with
        | false => exact absurd h (by simp)
        | true =>
          obtain rfl := Outcome.ok.inj h
          exact ⟨hb, hacc, fun _ => hacc ▸ validIndexer_eq_ok.mp hv⟩
      · rename_i hc
        obtain rfl := Outcome.ok.inj h
        exact ⟨hb, hacc, fun h => absurd h hc⟩
  · rintro ⟨ha, hacc, hs⟩
    refine ⟨a, ha, ?_⟩
    rw [if_neg (Decidable.not_not.mpr hacc)]
    split
    · rename_i hc
      rw [validIndexer_eq_ok.mpr (hacc ▸ hs hc)]
      rfl
    · rfl

/-- Without an indexer check, the lookup and the account guard decide. -/
theorem verify_eq_ok_of_unchecked (hm : mode.checksIndexer = false) :
    self.verify web F networkSubgraph registrySubgraph mode = .ok a ↔
      self.resolve web networkSubgraph registrySubgraph mode = .ok a ∧
        a.account = self.account := by
  rw [verify_eq_ok, hm]
  simp only [Bool.false_eq_true, false_implies, and_true]

end Account

end GraphcastSdk

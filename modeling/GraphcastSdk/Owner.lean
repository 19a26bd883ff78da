import GraphcastSdk.ResponseErrors

/-!
# The subgraph owner check (`Account::valid_owner`)

`valid_owner` looks up the current deployment hash of a subgraph the account owns and tests it
against a given hash. It answers the negation of "the current hash contains the given one", so it
says `true` for a foreign hash and `false` for the right one.

* `validOwner_eq_ok`: what it answers.
* `validOwner_answers_iff`: it answers as an owner check should (`AnswersOwner`) only where there
  is no current hash to compare, or a different one that contains the given hash.
-/

namespace GraphcastSdk

namespace Account

variable {web : Subgraphs} {self : Account} {url subgraphHash subgraphId : String}
  {response : Response GraphAccount.ResponseData}

/-- The answer of an owner check on a response: whether the current hash of the subgraph is the
given one, and an error where there is no current hash. -/
structure AnswersOwner (response : Response GraphAccount.ResponseData)
    (subgraphHash subgraphId : String) (result : Outcome MessageError Bool) : Prop where
  owned : result = .ok true ↔ CurrentHash response subgraphId subgraphHash
  other : ∀ hash, CurrentHash response subgraphId hash → hash ≠ subgraphHash → result = .ok false
  missing : (¬ ∃ hash, CurrentHash response subgraphId hash) → result.isErr = true

theorem validOwner_eq_ok (hr : web.graphAccount url ⟨[], self.account⟩ = .ok response)
    {valid : Bool} :
    self.validOwner web url subgraphHash subgraphId = .ok valid ↔
      ∃ hash, CurrentHash response subgraphId hash ∧ valid = !Text.contains hash subgraphHash := by
  unfold validOwner
  simp only [Outcome.bind_eq_ok, Outcome.mapErr_eq_ok, subgraphHashById_eq_ok web hr,
    Outcome.pure_def, Outcome.ok.injEq]
  exact exists_congr fun hash => and_congr_right fun _ => eq_comm

/-- Without a current hash the check fails, but on an empty `errors` list it panics. -/
theorem isErr_validOwner (hr : web.graphAccount url ⟨[], self.account⟩ = .ok response)
    (hn : ¬ ∃ hash, CurrentHash response subgraphId hash) :
    (self.validOwner web url subgraphHash subgraphId).isErr = true ↔ response.errors ≠ some [] := by
  unfold validOwner
  have hpanic : (subgraphHashById web url self.account subgraphId).isPanic = true ↔
      response.errors = some [] := isPanic_subgraphHashById hr
  cases h : subgraphHashById web url self.account subgraphId with
  | ok hash => exact absurd ⟨hash, (subgraphHashById_eq_ok web hr).mp h⟩ hn
  | err e =>
    rw [h] at hpanic
    simpa [Outcome.mapErr] using hpanic
  | panic p =>
    rw [h] at hpanic
    simpa [Outcome.mapErr] using hpanic

/-- **The owner check is inverted and inexact.** Where there is a current hash it answers as an
owner check should only for a different hash that is contained in the current one. -/
theorem validOwner_answers_iff (hr : web.graphAccount url ⟨[], self.account⟩ = .ok response) :
    AnswersOwner response subgraphHash subgraphId
        (self.validOwner web url subgraphHash subgraphId) ↔
      response.errors ≠ some [] ∧ ∀ hash, CurrentHash response subgraphId hash →
        hash ≠ subgraphHash ∧ Text.contains hash subgraphHash = true := by
  constructor
  · intro h
    refine ⟨fun he => ?_, fun hash hc => ?_⟩
    · have hn : ¬ ∃ hash, CurrentHash response subgraphId hash := by
        rintro ⟨hash, he', -⟩
        exact absurd (he.symm.trans he') (by simp)
      exact (isErr_validOwner hr hn).mp (h.missing hn) he
    · by_cases heq : hash = subgraphHash
      · subst heq
        obtain ⟨hash', hc', hv⟩ := (validOwner_eq_ok hr).mp (h.owned.mpr hc)
        rw [hc'.unique hc, Text.contains_self] at hv
        exact absurd hv (by simp)
      · obtain ⟨hash', hc', hv⟩ := (validOwner_eq_ok hr).mp (h.other hash hc heq)
        rw [hc'.unique hc] at hv
        exact ⟨heq, by simpa using hv⟩
  · rintro ⟨he, hall⟩
    refine ⟨?_, fun hash hc hne => ?_, fun hn => (isErr_validOwner hr hn).mpr he⟩
    · constructor
      · intro h
        obtain ⟨hash, hc, hv⟩ := (validOwner_eq_ok hr).mp h
        rw [(hall hash hc).2] at hv
        exact absurd hv (by simp)
      · intro hc
        exact absurd rfl (hall subgraphHash hc).1
    · refine (validOwner_eq_ok hr).mpr ⟨hash, hc, ?_⟩
      rw [(hall hash hc).2]
      rfl

/-- The subgraph and the hash of `test_subgraph_current_hash`. -/
def testSubgraph : GraphAccount.Subgraph where
  id := "CnJMdCkW3pr619gsJVtUPAWxspALPdCMw6o7obzYBNp3"
  currentVersion := some ⟨⟨"QmacQnSgia4iDPWHpeY6aWxesRFdb8o5DKZUx96zZqEWrB"⟩⟩

/-- Its owner. -/
def testOwner : Account where
  agent := "0xe9a1cabd57700b17945fd81feefba82340d9568f"
  account := "0xe9a1cabd57700b17945fd81feefba82340d9568f"

def testResponse : Response GraphAccount.ResponseData :=
  ⟨some ⟨[⟨testOwner.account, [], [testSubgraph]⟩]⟩, none⟩

/-- Services that answer with it. -/
def testSubgraphs : Subgraphs where
  setGraphcastIds _ _ := .ok ⟨some ⟨[]⟩, none⟩
  graphAccount _ _ := .ok testResponse
  indexerStatus _ _ := .ok ⟨none, none⟩

theorem currentHash_test : CurrentHash testResponse testSubgraph.id
    "QmacQnSgia4iDPWHpeY6aWxesRFdb8o5DKZUx96zZqEWrB" :=
  ⟨rfl, _, _, testSubgraph, _, rfl, rfl, List.find?_cons_of_pos (beq_self_eq_true _), rfl, rfl⟩

/-- The owner of the deployment is told `false`. -/
theorem validOwner_inverted :
    testOwner.validOwner testSubgraphs "network" "QmacQnSgia4iDPWHpeY6aWxesRFdb8o5DKZUx96zZqEWrB"
        testSubgraph.id = .ok false ∧
      ¬ AnswersOwner testResponse "QmacQnSgia4iDPWHpeY6aWxesRFdb8o5DKZUx96zZqEWrB" testSubgraph.id
        (testOwner.validOwner testSubgraphs "network"
          "QmacQnSgia4iDPWHpeY6aWxesRFdb8o5DKZUx96zZqEWrB" testSubgraph.id) := by
  have hfalse : testOwner.validOwner testSubgraphs "network"
      "QmacQnSgia4iDPWHpeY6aWxesRFdb8o5DKZUx96zZqEWrB" testSubgraph.id = .ok false := by
    decide +kernel
  refine ⟨hfalse, fun h => ?_⟩
  have htrue := h.owned.mpr currentHash_test
  rw [hfalse] at htrue
  exact absurd htrue (by simp)

/-- A given string that the current hash merely contains is told apart from it. -/
theorem validOwner_answers_iff_test :
    AnswersOwner testResponse "Qm" testSubgraph.id
      (testOwner.validOwner testSubgraphs "network" "Qm" testSubgraph.id) := by
  have hr : testSubgraphs.graphAccount "network" ⟨[], testOwner.account⟩ = .ok testResponse := rfl
  refine (validOwner_answers_iff hr).mpr ⟨by decide, fun hash hc => ?_⟩
  obtain rfl := hc.unique currentHash_test
  exact ⟨by decide, by decide +kernel⟩

end Account

end GraphcastSdk

import GraphcastSdk.Lib.Outcome

/-!
# Code that calls an outside service

A `Service κ ρ` answers a call in view of the calls before it, so it stands for every pattern of
answers, whatever they depend on. `Calling κ ρ ε α` is code that makes such calls: from the calls
made so far it comes to an `Outcome ε α` and all the calls made then. An error or a panic ends it,
and the calls made until then stay made.

* `forEach_eq_ok_iff`: a loop goes through iff its body does in each turn, when what a turn calls
  does not depend on the answers; and then it has made all the calls in order.
* `mapEach_eq`: a loop whose body makes one call a turn and always returns makes them all, and
  returns what it makes of the answers.
-/

namespace Calls

variable {κ ρ ε α β γ : Type}

/-- The answer to a call, in view of the calls before it. -/
abbrev Service (κ ρ : Type) := List κ → κ → ρ

def Calling (κ ρ ε α : Type) := Service κ ρ → List κ → Outcome ε α × List κ

instance : Monad (Calling κ ρ ε) where
  pure a := fun _ made => (.ok a, made)
  bind x f := fun service made =>
    match x service made with
    | (.ok a, made') => f a service made'
    | (.err e, made') => (.err e, made')
    | (.panic p, made') => (.panic p, made')

def call (k : κ) : Calling κ ρ ε ρ := fun service made => (.ok (service made k), made ++ [k])

/-- Code that makes no calls. -/
def lift (x : Outcome ε α) : Calling κ ρ ε α := fun _ made => (x, made)

/-- `for a in as`. -/
def forEach (body : α → Calling κ ρ ε Unit) : List α → Calling κ ρ ε Unit
  | [] => pure ()
  | a :: as => do
    body a
    forEach body as

/-- `as.iter().map(f).collect()`. -/
def mapEach (f : α → Calling κ ρ ε β) : List α → Calling κ ρ ε (List β)
  | [] => pure []
  | a :: as => do
    let b ← f a
    let bs ← mapEach f as
    pure (b :: bs)

/-- The answers to calls made one after the other. -/
def answers (service : Service κ ρ) : List κ → List κ → List ρ
  | _, [] => []
  | made, k :: ks => service made k :: answers service (made ++ [k]) ks

/-! ## Composed code -/

variable {service : Service κ ρ} {made made' : List κ}

theorem pure_apply (a : α) : (pure a : Calling κ ρ ε α) service made = (.ok a, made) := rfl

theorem bind_of_ok {x : Calling κ ρ ε α} {f : α → Calling κ ρ ε β} {a : α}
    (h : x service made = (.ok a, made')) : (x >>= f) service made = f a service made' := by
  show (match x service made with
    | (.ok a, made') => f a service made'
    | (.err e, made') => (.err e, made')
    | (.panic p, made') => (.panic p, made')) = _
  rw [h]

theorem bind_of_err {x : Calling κ ρ ε α} {f : α → Calling κ ρ ε β} {e : ε}
    (h : x service made = (.err e, made')) : (x >>= f) service made = (.err e, made') := by
  show (match x service made with
    | (.ok a, made') => f a service made'
    | (.err e, made') => (.err e, made')
    | (.panic p, made') => (.panic p, made')) = _
  rw [h]

theorem bind_of_panic {x : Calling κ ρ ε α} {f : α → Calling κ ρ ε β} {p : String}
    (h : x service made = (.panic p, made')) : (x >>= f) service made = (.panic p, made') := by
  show (match x service made with
    | (.ok a, made') => f a service made'
    | (.err e, made') => (.err e, made')
    | (.panic p, made') => (.panic p, made')) = _
  rw [h]

theorem bind_assoc (x : Calling κ ρ ε α) (f : α → Calling κ ρ ε β) (g : β → Calling κ ρ ε γ) :
    x >>= f >>= g = x >>= fun a => f a >>= g := by
  funext service made
  cases hx : x service made with
  | mk o made' =>
    cases o with
    | ok a =>
      rw [bind_of_ok hx]
      cases hf : f a service made' with
      | mk o' made'' =>
        have hxf : (x >>= f) service made = (o', made'') := (bind_of_ok hx).trans hf
        cases o' with
        | ok b => rw [bind_of_ok hxf, bind_of_ok hf]
        | err e => rw [bind_of_err hxf, bind_of_err hf]
        | panic p => rw [bind_of_panic hxf, bind_of_panic hf]
    | err e => rw [bind_of_err hx, bind_of_err (bind_of_err hx)]
    | panic p => rw [bind_of_panic hx, bind_of_panic (bind_of_panic hx)]

/-- Composed code returns a value iff its first part does and the rest does after it. -/
theorem bind_eq_ok {x : Calling κ ρ ε α} {f : α → Calling κ ρ ε β} {b : β} :
    (x >>= f) service made = (.ok b, made') ↔
      ∃ a made₁, x service made = (.ok a, made₁) ∧ f a service made₁ = (.ok b, made') := by
  constructor
  · intro h
    change (match x service made with
      | (.ok a, made') => f a service made'
      | (.err e, made') => (.err e, made')
      | (.panic p, made') => (.panic p, made')) = _ at h
    split at h
    · rename_i a made₁ hx
      exact ⟨a, made₁, hx, h⟩
    · exact absurd (Prod.mk.inj h).1 (by simp)
    · exact absurd (Prod.mk.inj h).1 (by simp)
  · rintro ⟨a, made₁, hx, hf⟩
    rw [bind_of_ok hx, hf]

/-! ## Loops -/

/-- **A loop goes through iff its body does in each turn.** The calls of a turn are `acts a`,
whatever is answered. -/
theorem forEach_eq_ok_iff {body : α → Calling κ ρ ε Unit} {acts : α → List κ}
    (hacts : ∀ a made, (body a service made).2 = made ++ acts a) (as : List α) :
    forEach body as service made = (.ok (), made ++ as.flatMap acts) ↔
      ∀ before a after, as = before ++ a :: after →
        (body a service (made ++ before.flatMap acts)).1 = .ok () := by
  induction as generalizing made with
  | nil =>
    refine iff_of_true ?_ fun before a after h => absurd h (by simp)
    rw [List.flatMap_nil, List.append_nil]
    rfl
  | cons x as ih =>
    have hx : ∀ made, body x service made = (.ok (), made ++ acts x) ↔
        (body x service made).1 = .ok () := fun made =>
      ⟨fun h => by rw [h], fun h => Prod.ext h (hacts x made)⟩
    rw [List.flatMap_cons, ← List.append_assoc]
    constructor
    · intro h before a after hsplit
      obtain ⟨_, made₁, hbody, hrest⟩ := bind_eq_ok.mp h
      have hmade : made₁ = made ++ acts x := by
        rw [← hacts x made, hbody]
      subst hmade
      cases before with
      | nil =>
        obtain ⟨rfl, -⟩ := List.cons.inj hsplit
        rw [List.flatMap_nil, List.append_nil]
        exact (hx made).mp hbody
      | cons y before =>
        obtain ⟨rfl, hsplit'⟩ := List.cons.inj hsplit
        have hturn := ih.mp hrest before a after hsplit'
        rwa [List.append_assoc, ← List.flatMap_cons] at hturn
    · intro h
      have hbody := h [] x as rfl
      rw [List.flatMap_nil, List.append_nil] at hbody
      refine bind_eq_ok.mpr ⟨(), made ++ acts x, (hx made).mpr hbody, ih.mpr ?_⟩
      intro before a after hsplit
      have hturn := h (x :: before) a after (by rw [hsplit]; rfl)
      rwa [List.flatMap_cons, ← List.append_assoc] at hturn

/-- **A loop that makes one call a turn, and always returns.** -/
theorem mapEach_eq {f : α → Calling κ ρ ε β} {act : α → κ} {g : α → ρ → β}
    (hf : ∀ a made, f a service made = (.ok (g a (service made (act a))), made ++ [act a]))
    (as : List α) : mapEach f as service made =
      (.ok (List.zipWith g as (answers service made (as.map act))), made ++ as.map act) := by
  induction as generalizing made with
  | nil => rw [List.map_nil, List.append_nil]; rfl
  | cons a as ih =>
    unfold mapEach
    rw [bind_of_ok (hf a made), bind_of_ok ih, pure_apply, List.map_cons, List.append_assoc]
    rfl

end Calls

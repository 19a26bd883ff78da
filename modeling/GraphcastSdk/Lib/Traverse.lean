import GraphcastSdk.Lib.Outcome
import Mathlib.Data.List.Forall2

/-!
# A fallible function over a list

`traverse f as` is `as.iter().map(f).collect::<Result<Vec<_>, _>>()`: the values in order, and no
call after the first that does not return one.

* `traverse_cases`: either every call returns a value, or the first that does not decides.
* `traverse_congr_at`: elements on which the function comes to the same are interchangeable.
-/

namespace Outcome

variable {ε α β : Type} {f : α → Outcome ε β}

def traverse (f : α → Outcome ε β) : List α → Outcome ε (List β)
  | [] => ok []
  | a :: as => do
    let b ← f a
    let bs ← traverse f as
    pure (b :: bs)

/-- **Either every call returns a value, or the first that does not decides**, by its error or its
panic. -/
theorem traverse_cases (f : α → Outcome ε β) (as : List α) :
    (∃ bs, traverse f as = ok bs ∧ List.Forall₂ (fun a b => f a = ok b) as bs) ∨
    ∃ before a after, as = before ++ a :: after ∧ (∀ x ∈ before, ∃ b, f x = ok b) ∧
      ((∃ e, f a = err e ∧ traverse f as = err e) ∨
        ∃ p, f a = panic p ∧ traverse f as = panic p) := by
  induction as with
  | nil => exact Or.inl ⟨[], rfl, .nil⟩
  | cons x as ih =>
    unfold traverse
    have hnone : ∀ y ∈ ([] : List α), ∃ b, f y = ok b := fun y hy => absurd hy (by simp)
    cases hx : f x with
    | err e => exact Or.inr ⟨[], x, as, rfl, hnone, Or.inl ⟨e, hx, rfl⟩⟩
    | panic p => exact Or.inr ⟨[], x, as, rfl, hnone, Or.inr ⟨p, hx, rfl⟩⟩
    | ok b =>
      rcases ih with ⟨bs, hbs, hall⟩ | ⟨before, a, after, rfl, hbefore, hfail⟩
      · refine Or.inl ⟨b :: bs, ?_, .cons hx hall⟩
        rw [hbs]
        rfl
      · refine Or.inr ⟨x :: before, a, after, rfl, ?_, ?_⟩
        · intro y hy
          rcases List.mem_cons.mp hy with rfl | hy
          · exact ⟨b, hx⟩
          · exact hbefore y hy
        · rcases hfail with ⟨e, ha, htr⟩ | ⟨p, ha, htr⟩
          · exact Or.inl ⟨e, ha, by rw [htr]; rfl⟩
          · exact Or.inr ⟨p, ha, by rw [htr]; rfl⟩

theorem exists_of_forall₂ {R : α → β → Prop} {as : List α} {bs : List β}
    (h : List.Forall₂ R as bs) {a : α} (ha : a ∈ as) : ∃ b, R a b := by
  induction h with
  | nil => exact absurd ha (by simp)
  | cons hr _ ih =>
    rcases List.mem_cons.mp ha with rfl | ha
    · exact ⟨_, hr⟩
    · exact ih ha

/-- Of two places in one list, one comes before the other, unless they are the same. -/
theorem eq_or_mem_of_split {a b : α} {as bs as' bs' : List α}
    (h : as ++ a :: as' = bs ++ b :: bs') : a = b ∨ a ∈ bs ∨ b ∈ as := by
  rcases List.append_eq_append_iff.mp h with ⟨cs, rfl, hcs⟩ | ⟨cs, rfl, hcs⟩
  · cases cs with
    | nil => exact Or.inl (List.cons.inj hcs).1
    | cons c cs =>
      obtain ⟨rfl, -⟩ := List.cons.inj hcs
      exact Or.inr (Or.inl (by simp))
  · cases cs with
    | nil => exact Or.inl (List.cons.inj hcs).1.symm
    | cons c cs =>
      obtain ⟨rfl, -⟩ := List.cons.inj hcs
      exact Or.inr (Or.inr (by simp))

/-- Elements on which the function comes to the same are interchangeable. -/
theorem traverse_congr_at {a a' : α} (h : f a = f a') (before after : List α) :
    traverse f (before ++ a :: after) = traverse f (before ++ a' :: after) := by
  induction before with
  | nil =>
    show (f a >>= fun b => traverse f after >>= fun bs => pure (b :: bs)) = _
    rw [h]
    rfl
  | cons x before ih =>
    show (f x >>= fun b => traverse f (before ++ a :: after) >>= fun bs => pure (b :: bs)) = _
    rw [ih]
    rfl

theorem isPanic_traverse_singleton (a : α) : (traverse f [a]).isPanic = (f a).isPanic := by
  unfold traverse
  cases f a <;> rfl

end Outcome

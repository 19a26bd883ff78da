/-!
# Results of code that may also panic

`Outcome ε α` is what a call of a fallible function comes to: a value, a returned error, or a
panic that unwinds through every caller. It is a monad: `>>=` is the `?` operator (an error is
returned early) and a panic passes through unchanged, also through `mapErr` and `orElse`, which
see returned errors only.

The rules the proofs use are the `…_eq_ok` ones, how a composed computation succeeds, and
`isErr_bind` and `isPanic_bind`, where in it an error or a panic comes from.
-/

/-- A value, a returned error, or a panic. -/
inductive Outcome (ε α : Type) where
  | ok (a : α)
  | err (e : ε)
  | panic (msg : String)
  deriving Repr, DecidableEq

namespace Outcome

variable {ε ε' α β : Type}

/-- Sequencing, the `?` operator. -/
def bind : Outcome ε α → (α → Outcome ε β) → Outcome ε β
  | ok a, f => f a
  | err e, _ => err e
  | panic p, _ => panic p

instance : Monad (Outcome ε) where
  pure := ok
  bind := bind

/-- `map_err`: rewrite a returned error. -/
def mapErr (f : ε → ε') : Outcome ε α → Outcome ε' α
  | ok a => ok a
  | err e => err (f e)
  | panic p => panic p

/-- Recover from a returned error. -/
def orElse : Outcome ε α → (ε → Outcome ε' α) → Outcome ε' α
  | ok a, _ => ok a
  | err e, f => f e
  | panic p, _ => panic p

/-- A result of code that never panics, its error rewritten. -/
def ofExcept (f : ε → ε') : Except ε α → Outcome ε' α
  | .ok a => ok a
  | .error e => err (f e)

/-- `unwrap`: an error is a panic, with what `{:?}` prints of it. -/
def unwrap (debug : ε → String) : Except ε α → Outcome ε' α
  | .ok a => ok a
  | .error e => panic ("called `Result::unwrap()` on an `Err` value: " ++ debug e)

/-- `ok_or`: an absent value is the error `e`. -/
def okOr (o : Option α) (e : ε) : Outcome ε α :=
  match o with
  | some a => ok a
  | none => err e

/-- Indexing `xs[i]`: panics past the end. -/
def index (xs : List α) (i : Nat) : Outcome ε α :=
  match xs[i]? with
  | some a => ok a
  | none => panic s!"index out of bounds: the len is {xs.length} but the index is {i}"

/-- The call returned a value. -/
def isOk : Outcome ε α → Bool
  | ok _ => true
  | err _ => false
  | panic _ => false

/-- The call returned an error. -/
def isErr : Outcome ε α → Bool
  | ok _ => false
  | err _ => true
  | panic _ => false

/-- The call panicked. -/
def isPanic : Outcome ε α → Bool
  | ok _ => false
  | err _ => false
  | panic _ => true

/-! ## When a composed computation succeeds -/

@[simp] theorem pure_def (a : α) : (pure a : Outcome ε α) = ok a := rfl

@[simp] theorem ok_bind (a : α) (f : α → Outcome ε β) : (ok a >>= f) = f a := rfl

@[simp] theorem err_bind (e : ε) (f : α → Outcome ε β) : (err e >>= f) = err e := rfl

@[simp] theorem panic_bind (p : String) (f : α → Outcome ε β) : (panic p >>= f) = panic p := rfl

theorem bind_eq_ok {x : Outcome ε α} {f : α → Outcome ε β} {b : β} :
    (x >>= f) = ok b ↔ ∃ a, x = ok a ∧ f a = ok b := by
  cases x <;> simp

theorem mapErr_eq_ok {f : ε → ε'} {x : Outcome ε α} {a : α} : mapErr f x = ok a ↔ x = ok a := by
  cases x <;> simp [mapErr]

theorem orElse_eq_ok {x : Outcome ε α} {f : ε → Outcome ε' α} {a : α} :
    orElse x f = ok a ↔ x = ok a ∨ ∃ e, x = err e ∧ f e = ok a := by
  cases x <;> simp [orElse]

theorem ofExcept_eq_ok {f : ε → ε'} {x : Except ε α} {a : α} :
    ofExcept f x = ok a ↔ x = .ok a := by
  cases x <;> simp [ofExcept]

theorem unwrap_eq_ok {debug : ε → String} {x : Except ε α} {a : α} :
    (unwrap debug x : Outcome ε' α) = ok a ↔ x = .ok a := by
  cases x <;> simp [unwrap]

theorem okOr_eq_ok {o : Option α} {e : ε} {a : α} : okOr o e = ok a ↔ o = some a := by
  cases o <;> simp [okOr]

theorem isOk_iff {x : Outcome ε α} : x.isOk = true ↔ ∃ a, x = ok a := by
  cases x <;> simp [isOk]

/-! ## Where an error or a panic comes from -/

@[simp] theorem isErr_ok (a : α) : (ok a : Outcome ε α).isErr = false := rfl

@[simp] theorem isErr_err (e : ε) : (err e : Outcome ε α).isErr = true := rfl

@[simp] theorem isErr_panic (p : String) : (panic p : Outcome ε α).isErr = false := rfl

@[simp] theorem isPanic_ok (a : α) : (ok a : Outcome ε α).isPanic = false := rfl

@[simp] theorem isPanic_err (e : ε) : (err e : Outcome ε α).isPanic = false := rfl

@[simp] theorem isPanic_panic (p : String) : (panic p : Outcome ε α).isPanic = true := rfl

theorem isErr_bind {x : Outcome ε α} {f : α → Outcome ε β} :
    (x >>= f).isErr = true ↔ x.isErr = true ∨ ∃ a, x = ok a ∧ (f a).isErr = true := by
  cases x <;> simp

theorem isPanic_bind {x : Outcome ε α} {f : α → Outcome ε β} :
    (x >>= f).isPanic = true ↔ x.isPanic = true ∨ ∃ a, x = ok a ∧ (f a).isPanic = true := by
  cases x <;> simp

/-- What is neither a value nor a panic is an error. -/
theorem isErr_iff {x : Outcome ε α} :
    x.isErr = true ↔ ¬ x.isOk = true ∧ ¬ x.isPanic = true := by
  cases x <;> simp [isOk]

/-- Code that returns no error panics where it returns no value. -/
theorem isPanic_iff_of_not_isErr {x : Outcome ε α} (hx : x.isErr = false) :
    x.isPanic = true ↔ ¬ ∃ a, x = ok a := by
  cases x with
  | ok a => simp
  | err e => exact absurd hx (by simp)
  | panic p => simp

/-- A computation that starts without a panic panics only in what follows. -/
theorem isPanic_bind_of_not {x : Outcome ε α} {f : α → Outcome ε β} (hx : x.isPanic = false)
    (hf : ∀ a, x = ok a → (f a).isPanic = false) : (x >>= f).isPanic = false := by
  cases x with
  | ok a => exact hf a rfl
  | err e => rfl
  | panic p => exact absurd hx (by simp)

@[simp] theorem isPanic_mapErr (f : ε → ε') (x : Outcome ε α) :
    (mapErr f x).isPanic = x.isPanic := by
  cases x <;> rfl

@[simp] theorem isErr_okOr (o : Option α) (e : ε) : (okOr o e).isErr = o.isNone := by
  cases o <;> rfl

@[simp] theorem isPanic_okOr (o : Option α) (e : ε) : (okOr o e).isPanic = false := by
  cases o <;> rfl

@[simp] theorem isPanic_ofExcept (f : ε → ε') (x : Except ε α) :
    (ofExcept f x).isPanic = false := by
  cases x <;> rfl

end Outcome

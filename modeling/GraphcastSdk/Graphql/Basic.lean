import GraphcastSdk.Graphql.Schema
import GraphcastSdk.Lib.Text

/-!
# Query errors and token amounts (`graphql/mod.rs`)

`QueryError`, the check on a response's `errors` that the network-subgraph clients share, and
the conversion of a token amount in GRT gwei to `f32`.

`f32` itself is the parameter `F32`: a carrier with `str::parse`, zero and `>=`. Nothing here
depends on how it rounds.
-/

namespace GraphcastSdk

/-- `graphql::QueryError`. -/
inductive QueryError where
  | transport (e : TransportError)
  | indexingError
  | parseResponseError (text : String)
  | prometheusError (e : String)
  | other (e : String)
  deriving Repr, DecidableEq

/-- `{}` of a query error. -/
def QueryError.display : QueryError → String
  | .transport e => e
  | .indexingError => "The subgraph is in a failed state"
  | .parseResponseError text => "Query response is unexpected: " ++ text
  | .prometheusError e => "Query response is empty: " ++ e
  | .other e => "Unknown error: " ++ e

/-- What the code uses of `f32`. -/
class F32 (F : Type) where
  /-- `str::parse::<f32>`, its error as text. -/
  parse : String → Except String F
  zero : F
  /-- `>=`. -/
  ge : F → F → Bool

/-- The `if let Some(errors) = response_body.errors.as_deref()` block of the network-subgraph
clients: any `errors` list ends the query, by its first entry. -/
def checkErrors (errors : Option (List GraphqlError)) : Outcome QueryError Unit :=
  match errors with
  | some errors => do
    let e ← Outcome.index errors 0
    if e.message = "indexing_error" then .err .indexingError else .err (.other e.message)
  | none => .ok ()

/-- A response passes the check iff it has no `errors` list. -/
theorem checkErrors_eq_ok {errors : Option (List GraphqlError)} {u : Unit} :
    checkErrors errors = .ok u ↔ errors = none := by
  cases errors with
  | none => simp [checkErrors]
  | some errors =>
    simp only [checkErrors, reduceCtorEq, iff_false]
    intro h
    obtain ⟨e, -, h⟩ := Outcome.bind_eq_ok.mp h
    split at h <;> exact absurd h (by simp)

/-- A response that lists at least one error. -/
def Response.ReportsErrors {D : Type} (response : Response D) : Prop :=
  ∃ e es, response.errors = some (e :: es)

/-- A listed error ends the query with an error. -/
theorem isErr_of_reportsErrors {D β : Type} {response : Response D} (h : response.ReportsErrors)
    (k : Unit → Outcome QueryError β) : (checkErrors response.errors >>= k).isErr = true := by
  obtain ⟨e, es, he⟩ := h
  rw [he, Outcome.isErr_bind]
  refine Or.inl ?_
  show (if e.message = "indexing_error" then Outcome.err .indexingError
    else Outcome.err (.other e.message) : Outcome QueryError Unit).isErr = true
  split <;> rfl

/-- An empty list is indexed all the same, and that panics. -/
theorem isPanic_checkErrors {errors : Option (List GraphqlError)} :
    (checkErrors errors).isPanic = true ↔ errors = some [] := by
  unfold checkErrors
  split
  · rename_i errors
    cases errors with
    | nil => simp [Outcome.index]
    | cons e es =>
      simp only [Outcome.index, List.getElem?_cons_zero, Outcome.ok_bind]
      split <;> simp
  · simp

/-- A query whose later steps cannot panic panics on an empty list alone. -/
theorem isPanic_of_checked {D β : Type} {response : Response D} {k : Unit → Outcome QueryError β}
    (hk : (k ()).isPanic = false) :
    (checkErrors response.errors >>= k).isPanic = true ↔ response.errors = some [] := by
  rw [Outcome.isPanic_bind, isPanic_checkErrors]
  constructor
  · rintro (h | ⟨_, -, h⟩)
    · exact h
    · exact absurd h (by simp [hk])
  · intro h
    exact Or.inl h

/-- `add_decimal`: a decimal point 18 digits from the right, counted in bytes. -/
def addDecimal {ε : Type} (input : String) : Outcome ε String :=
  if input.utf8ByteSize ≤ 18 then .ok ("0." ++ input)
  else do
    let (left, right) ← Text.splitAt input (input.utf8ByteSize - 18)
    pure (left ++ "." ++ right)

/-- `grt_gwei_string_to_f32`. -/
def grtGweiStringToF32 (F : Type) [F32 F] (input : String) : Outcome QueryError F := do
  let decimal ← addDecimal input
  Outcome.ofExcept .parseResponseError (F32.parse decimal)

theorem addDecimal_of_isAscii {ε : Type} {input : String} (h : Text.IsAscii input) :
    (addDecimal input : Outcome ε String) =
      .ok (if input.toList.length ≤ 18 then "0." ++ input
        else String.ofList (input.toList.take (input.toList.length - 18)) ++ "." ++
          String.ofList (input.toList.drop (input.toList.length - 18))) := by
  unfold addDecimal
  rw [Text.utf8ByteSize_of_isAscii h]
  split
  · rfl
  · rw [Text.splitAt_of_isAscii h (Nat.sub_le _ _)]
    rfl

/-- **What `add_decimal` returns**: a leading zero and a point, or a point 18 bytes from the end. -/
theorem addDecimal_eq_ok {ε : Type} {input decimal : String} :
    (addDecimal input : Outcome ε String) = .ok decimal ↔
      input.utf8ByteSize ≤ 18 ∧ decimal = "0." ++ input ∨
      18 < input.utf8ByteSize ∧ ∃ left right, input.toList = left ++ right ∧
        String.utf8Len right = 18 ∧ decimal = String.ofList left ++ "." ++ String.ofList right := by
  -- the left part ends 18 bytes before the end iff the right part is 18 bytes long
  have hcut : ∀ left right, input.toList = left ++ right → 18 < input.utf8ByteSize →
      (String.utf8Len left = input.utf8ByteSize - 18 ↔ String.utf8Len right = 18) := by
    intro left right hcs hlt
    rw [Text.utf8ByteSize_eq, hcs, String.utf8Len_append] at hlt ⊢
    omega
  unfold addDecimal
  by_cases h : input.utf8ByteSize ≤ 18
  · rw [if_pos h, Outcome.ok.injEq]
    constructor
    · intro hd
      exact Or.inl ⟨h, hd.symm⟩
    · rintro (⟨-, hd⟩ | ⟨hlt, -⟩)
      · exact hd.symm
      · exact absurd h (Nat.not_le.mpr hlt)
  · have hlt : 18 < input.utf8ByteSize := Nat.not_le.mp h
    rw [if_neg h, Outcome.bind_eq_ok]
    constructor
    · rintro ⟨⟨l, r⟩, hsplit, hd⟩
      obtain ⟨hcs, hlen⟩ := Text.splitAt_eq_ok.mp hsplit
      refine Or.inr ⟨hlt, l.toList, r.toList, hcs, (hcut _ _ hcs hlt).mp hlen, ?_⟩
      rw [String.ofList_toList, String.ofList_toList]
      exact (Outcome.ok.inj hd).symm
    · rintro (⟨hle, -⟩ | ⟨-, left, right, hcs, hlen, hd⟩)
      · exact absurd hle h
      · refine ⟨(String.ofList left, String.ofList right), ?_, congrArg Outcome.ok hd.symm⟩
        rw [Text.splitAt_eq_ok, String.toList_ofList, String.toList_ofList]
        exact ⟨hcs, (hcut _ _ hcs hlt).mpr hlen⟩

/-- It returns no error: what it does not return for, it panics on. -/
theorem isErr_addDecimal {ε : Type} (input : String) :
    (addDecimal input : Outcome ε String).isErr = false := by
  unfold addDecimal Text.splitAt
  by_cases h : input.utf8ByteSize ≤ 18
  · rw [if_pos h, Outcome.isErr_ok]
  · rw [if_neg h]
    cases Text.splitAtByte input.toList (input.utf8ByteSize - 18) <;> rfl

/-- The conversion of an ASCII amount does not panic. -/
theorem isPanic_grtGweiStringToF32 {F : Type} [F32 F] {input : String} (h : Text.IsAscii input) :
    (grtGweiStringToF32 F input).isPanic = false := by
  unfold grtGweiStringToF32
  rw [addDecimal_of_isAscii h]
  simp

end GraphcastSdk

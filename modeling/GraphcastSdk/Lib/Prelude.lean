import GraphcastSdk.Lib.Outcome
import Mathlib.Data.Finmap
import Mathlib.Order.Defs.LinearOrder

/-!
# Maps and unsigned words

`HashMap κ ν` is a finite map up to the order of its entries, with `Finmap`'s `lookup` and
`insert`. `UInt64` is ordered by value, and `checkedSub` is `u64::checked_sub`. The operators that
can fail are `subU64` and `remU64`: they panic where the language's `-` and `%` do with overflow
checks on, so code that is shown not to panic computes the same without them.
-/

/-- A hash map, as far as lookups can tell. -/
abbrev HashMap (κ ν : Type) := Finmap fun _ : κ => ν

theorem HashMap.lookup_insert_ite {κ ν : Type} [DecidableEq κ] (m : HashMap κ ν) (k k' : κ)
    (v : ν) : (Finmap.insert k v m).lookup k' = if k' = k then some v else m.lookup k' := by
  split_ifs with h
  · subst h
    exact Finmap.lookup_insert m
  · exact Finmap.lookup_insert_of_ne m h

instance UInt64.linearOrder : LinearOrder UInt64 where
  le_refl := UInt64.le_refl
  le_trans _ _ _ := UInt64.le_trans
  le_antisymm _ _ := UInt64.le_antisymm
  le_total := UInt64.le_total
  lt_iff_le_not_ge := Std.LawfulOrderLT.lt_iff
  toDecidableLE := inferInstance

/-- `u64::checked_sub`. -/
def checkedSub (a b : UInt64) : Option UInt64 := if b ≤ a then some (a - b) else none

theorem checkedSub_eq_some {a b c : UInt64} : checkedSub a b = some c ↔ b ≤ a ∧ a - b = c := by
  unfold checkedSub
  split_ifs with h <;> simp [h]

/-- `a - b` on `u64`. -/
def subU64 {ε : Type} (a b : UInt64) : Outcome ε UInt64 :=
  match checkedSub a b with
  | some d => .ok d
  | none => .panic "attempt to subtract with overflow"

/-- `a % b` on `u64`. -/
def remU64 {ε : Type} (a b : UInt64) : Outcome ε UInt64 :=
  if b = 0 then .panic "attempt to calculate the remainder with a divisor of zero"
  else .ok (a % b)

/-- A non-negative `i64` keeps its value under `as u64`. -/
theorem Int64.toNat_toUInt64_eq_toInt {x : Int64} (hx : 0 ≤ x) :
    (x.toUInt64.toNat : Int) = x.toInt := by
  rw [Int64.toNat_toUInt64_of_le hx]
  have : 0 ≤ x.toInt := by simpa using Int64.le_iff_toInt_le.mp hx
  exact Int.toNat_of_nonneg this

import GraphcastSdk.Lib.Text
import Mathlib.Algebra.Field.Rat
import Mathlib.Algebra.Order.Ring.Unbundled.Rat

/-!
# Decimal numerals

Digit strings and the numerals `digits` and `digits.digits` with their exact rational values.

* `natValue s` is the integer a digit string denotes, `Nat.ofDigitChars` in base ten.
* `value s` is the value of a numeral, `none` for any other text.
* `parseU64` is `str::parse::<u64>`.
* `value_point`: a point `k` digits from the right divides by `10 ^ k`.
* `natValue_lt`: a digit string denotes less than ten to its length.
-/

namespace Decimal

/-- A non-empty string of ASCII digits. -/
def IsNatural (s : String) : Prop := s.toList ≠ [] ∧ ∀ c ∈ s.toList, c.isDigit = true

instance : DecidablePred IsNatural := fun s =>
  @instDecidableAnd _ _ instDecidableNot
    (List.decidableBAll (fun c : Char => c.isDigit = true) s.toList)

/-- The integer a digit string denotes. -/
def natValue (s : String) : Nat := Nat.ofDigitChars 10 s.toList 0

/-- The value of a numeral given as characters: digits, with at most one point among or around
them. -/
def valueOf (cs : List Char) : Option ℚ :=
  let left := cs.takeWhile Char.isDigit
  match cs.dropWhile Char.isDigit with
  | [] => if left = [] then none else some (Nat.ofDigitChars 10 left 0 : ℚ)
  | c :: right =>
    if c = '.' ∧ left ++ right ≠ [] ∧ right.all Char.isDigit = true then
      some ((Nat.ofDigitChars 10 (left ++ right) 0 : ℚ) / 10 ^ right.length)
    else none

/-- The value of a numeral. -/
def value (s : String) : Option ℚ := valueOf s.toList

/-- `str::parse::<u64>`: digits after at most one `+`, of a value that fits. -/
def parseU64 (s : String) : Option UInt64 :=
  let digits := match s.toList with
    | '+' :: rest => rest
    | cs => cs
  if digits ≠ [] ∧ digits.all Char.isDigit = true ∧ Nat.ofDigitChars 10 digits 0 < 2 ^ 64 then
    some (UInt64.ofNat (Nat.ofDigitChars 10 digits 0))
  else none

/-! ## Digit strings -/

theorem isDigit_sub_lt {c : Char} (h : c.isDigit = true) : c.toNat - '0'.toNat < 10 := by
  simp only [Char.isDigit, Bool.and_eq_true, decide_eq_true_eq, UInt32.le_iff_toNat_le] at h
  have hle : c.toNat ≤ 57 := h.2
  show c.toNat - 48 < 10
  omega

theorem toNat_lt_of_isDigit {c : Char} (h : c.isDigit = true) : c.toNat < 128 := by
  simp only [Char.isDigit, Bool.and_eq_true, decide_eq_true_eq, UInt32.le_iff_toNat_le] at h
  have hle : c.toNat ≤ 57 := h.2
  omega

theorem isAscii_of_isNatural {s : String} (h : IsNatural s) : Text.IsAscii s := fun c hc =>
  toNat_lt_of_isDigit (h.2 c hc)

theorem ofDigitChars_lt : ∀ {cs : List Char}, (∀ c ∈ cs, c.isDigit = true) →
    Nat.ofDigitChars 10 cs 0 < 10 ^ cs.length
  | [], _ => by simp [Nat.ofDigitChars]
  | c :: cs, h => by
    have hc := isDigit_sub_lt (h c List.mem_cons_self)
    have ih := ofDigitChars_lt fun d hd => h d (List.mem_cons_of_mem c hd)
    rw [Nat.ofDigitChars_cons, Nat.ofDigitChars_eq_ofDigitChars_zero, List.length_cons, pow_succ]
    generalize c.toNat - '0'.toNat = d at hc ⊢
    have hmul : 10 ^ cs.length * (10 * 0 + d) ≤ 10 ^ cs.length * 9 :=
      Nat.mul_le_mul_left _ (by omega)
    omega

/-- A digit string denotes less than ten to its length. -/
theorem natValue_lt {s : String} (h : IsNatural s) : natValue s < 10 ^ s.toList.length :=
  ofDigitChars_lt h.2

/-! ## Numerals with a point -/

theorem not_isDigit_head_point (rest : List Char) :
    ∀ c ∈ ('.' :: rest).head?, c.isDigit = false := by
  intro c hc
  obtain rfl := Option.some.inj hc
  decide

/-- Digits end where a character that is not a digit follows them. -/
theorem span_digits {digits rest : List Char} (hd : ∀ c ∈ digits, c.isDigit = true)
    (hr : ∀ c ∈ rest.head?, c.isDigit = false) :
    (digits ++ rest).takeWhile Char.isDigit = digits ∧
      (digits ++ rest).dropWhile Char.isDigit = rest := by
  rw [List.takeWhile_append_of_pos hd, List.dropWhile_append_of_pos hd]
  cases rest with
  | nil => exact ⟨List.append_nil digits, rfl⟩
  | cons c cs =>
    have hc : ¬ c.isDigit = true := by rw [hr c rfl]; decide
    rw [List.takeWhile_cons_of_neg hc, List.dropWhile_cons_of_neg hc]
    exact ⟨List.append_nil digits, rfl⟩

theorem valueOf_point {left right : List Char} (hl : ∀ c ∈ left, c.isDigit = true)
    (hr : ∀ c ∈ right, c.isDigit = true) (hne : left ++ right ≠ []) :
    valueOf (left ++ '.' :: right) =
      some ((Nat.ofDigitChars 10 (left ++ right) 0 : ℚ) / 10 ^ right.length) := by
  obtain ⟨htake, hdrop⟩ := span_digits hl (not_isDigit_head_point right)
  unfold valueOf
  rw [htake, hdrop]
  have hall : right.all Char.isDigit = true := List.all_eq_true.mpr hr
  simp only [hall, hne, ne_eq, not_false_eq_true, and_true, if_true]

/-- **A point `k` digits from the right divides by `10 ^ k`.** -/
theorem value_point {left right : List Char} (hl : ∀ c ∈ left, c.isDigit = true)
    (hr : ∀ c ∈ right, c.isDigit = true) (hne : left ++ right ≠ []) :
    value (String.ofList left ++ "." ++ String.ofList right) =
      some ((Nat.ofDigitChars 10 (left ++ right) 0 : ℚ) / 10 ^ right.length) := by
  have hlist : (String.ofList left ++ "." ++ String.ofList right).toList =
      left ++ '.' :: right := by
    simp
  unfold value
  rw [hlist, valueOf_point hl hr hne]

end Decimal

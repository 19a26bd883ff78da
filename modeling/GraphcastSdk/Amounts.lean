import GraphcastSdk.Graphql.Basic
import GraphcastSdk.Lib.FloatText

/-!
# Which texts pass for token amounts (`grt_gwei_string_to_f32`)

An amount is a non-empty digit string. The conversion puts a point into the text, 18 bytes from
the end or in front of it, before anything has looked at the text.

* `isOk_grtGweiStringToF32_iff`: what it accepts are the texts that the point makes floats of,
  among them the empty one, exponents and, from 19 characters on, signs.
* `isPanic_grtGweiStringToF32_iff`: it panics when the point would fall inside a character.
* `amounts_iff`: so it answers rightly for digit strings and for texts of neither kind.

Premise: `str::parse::<f32>` follows the documented grammar (`ParsesFloats`).
-/

namespace GraphcastSdk

open FloatText (Digits Sign Exponent IsFloat)

/-- `str::parse::<f32>` accepts the grammar that its documentation gives. -/
def ParsesFloats (F : Type) [F32 F] : Prop :=
  ∀ s, (∃ x : F, F32.parse s = .ok x) ↔ IsFloat s

/-- The answer of an amount conversion: a value for digits, an error for anything else. -/
structure AnswersAmount {F : Type} (input : String) (result : Outcome QueryError F) : Prop where
  accepted : Decimal.IsNatural input → result.isOk = true
  refused : ¬ Decimal.IsNatural input → result.isErr = true

/-- The text becomes a float with the point in it. Up to 18 bytes long, it is digits and an
exponent, both optional. Past that, it has 18 characters of digits and exponent at the end, a sign
and digits before them, and some digit outside the exponent. -/
def ReadsAsFloat (input : String) : Prop :=
  ∃ sign left right exponent, input.toList = (sign ++ left) ++ (right ++ exponent) ∧ Sign sign ∧
    Digits left ∧ Digits right ∧ Exponent exponent ∧
    (input.utf8ByteSize ≤ 18 ∧ sign ++ left = [] ∨
      18 < input.utf8ByteSize ∧ (right ++ exponent).length = 18 ∧ left ++ right ≠ [])

/-- The point would fall inside a character. -/
def SplitsCharacter (input : String) : Prop :=
  18 < input.utf8ByteSize ∧
    ¬ ∃ left right, input.toList = left ++ right ∧ String.utf8Len right = 18

/-- Digits and an exponent are as many bytes as characters. -/
theorem utf8Len_eq_length {right exponent : List Char} (hr : Digits right)
    (he : Exponent exponent) : String.utf8Len (right ++ exponent) = (right ++ exponent).length := by
  refine Text.utf8Len_of_isAscii fun c hc => ?_
  rcases List.mem_append.mp hc with hc | hc
  · exact Decimal.toNat_lt_of_isDigit (hr c hc)
  · exact FloatText.toNat_lt_of_exponent he c hc

/-- A leading zero and a point make a float of digits and an exponent. -/
theorem isFloat_leading_iff {input : String} : IsFloat ("0." ++ input) ↔
    ∃ right exponent, input.toList = right ++ exponent ∧ Digits right ∧ Exponent exponent := by
  have hzero : Digits ['0'] := by
    intro c hc
    obtain rfl := List.mem_singleton.mp hc
    decide
  have hlist : ("0." ++ input).toList = ['0'] ++ '.' :: input.toList := by
    rw [String.toList_append]
    rfl
  rw [FloatText.isFloat_point_iff hlist]
  constructor
  · rintro ⟨sign, left, right, exponent, -, hb, -, -, hr, -, he⟩
    exact ⟨right, exponent, hb, hr, he⟩
  · rintro ⟨right, exponent, hb, hr, he⟩
    exact ⟨[], ['0'], right, exponent, rfl, hb, Or.inl rfl, hzero, hr, by simp, he⟩

/-- The texts that the point makes floats of. -/
theorem readsAsFloat_iff {input : String} : ReadsAsFloat input ↔
    ∃ decimal, (addDecimal input : Outcome QueryError String) = .ok decimal ∧ IsFloat decimal := by
  simp only [addDecimal_eq_ok]
  constructor
  · rintro ⟨sign, left, right, exponent, hcs, hsign, hl, hr, he, ⟨hle, hnil⟩ | ⟨hlt, hlen, hne⟩⟩
    · refine ⟨_, Or.inl ⟨hle, rfl⟩, isFloat_leading_iff.mpr ⟨right, exponent, ?_, hr, he⟩⟩
      rw [hcs, hnil, List.nil_append]
    · have hbytes : String.utf8Len (right ++ exponent) = 18 := by
        rw [utf8Len_eq_length hr he, hlen]
      refine ⟨_, Or.inr ⟨hlt, _, _, hcs, hbytes, rfl⟩, ?_⟩
      have hlist :
          (String.ofList (sign ++ left) ++ "." ++ String.ofList (right ++ exponent)).toList =
            (sign ++ left) ++ '.' :: (right ++ exponent) := by
        simp
      exact (FloatText.isFloat_point_iff hlist).mpr
        ⟨sign, left, right, exponent, rfl, rfl, hsign, hl, hr, hne, he⟩
  · rintro ⟨decimal, ⟨hle, rfl⟩ | ⟨hlt, l, r, hcs, hlen, rfl⟩, hfloat⟩
    · obtain ⟨right, exponent, hb, hr, he⟩ := isFloat_leading_iff.mp hfloat
      refine ⟨[], [], right, exponent, ?_, Or.inl rfl, ?_, hr, he, Or.inl ⟨hle, rfl⟩⟩
      · rw [hb, List.append_nil, List.nil_append]
      · intro c hc
        exact absurd hc (by simp)
    · have hlist : (String.ofList l ++ "." ++ String.ofList r).toList = l ++ '.' :: r := by
        simp
      obtain ⟨sign, left, right, exponent, rfl, rfl, hsign, hl, hr, hne, he⟩ :=
        (FloatText.isFloat_point_iff hlist).mp hfloat
      refine ⟨sign, left, right, exponent, hcs, hsign, hl, hr, he, Or.inr ⟨hlt, ?_, hne⟩⟩
      rw [← utf8Len_eq_length hr he, hlen]

/-- Digits stay digits around the point. -/
theorem readsAsFloat_of_isNatural {input : String} (h : Decimal.IsNatural input) :
    ReadsAsFloat input := by
  have hbytes := Text.utf8ByteSize_of_isAscii (Decimal.isAscii_of_isNatural h)
  have hnone : Digits [] := fun c hc => absurd hc (by simp)
  by_cases hle : input.utf8ByteSize ≤ 18
  · exact ⟨[], [], input.toList, [], by simp, Or.inl rfl, hnone, h.2, Or.inl rfl,
      Or.inl ⟨hle, rfl⟩⟩
  · have hlt : 18 < input.utf8ByteSize := Nat.not_le.mp hle
    refine ⟨[], input.toList.take (input.toList.length - 18),
      input.toList.drop (input.toList.length - 18), [], by simp, Or.inl rfl,
      fun c hc => h.2 c (List.mem_of_mem_take hc), fun c hc => h.2 c (List.mem_of_mem_drop hc),
      Or.inl rfl, Or.inr ⟨hlt, ?_, ?_⟩⟩
    · rw [List.append_nil, List.length_drop]
      omega
    · rw [List.take_append_drop]
      exact h.1

theorem isPanic_addDecimal_iff {input : String} :
    (addDecimal input : Outcome QueryError String).isPanic = true ↔ SplitsCharacter input := by
  rw [Outcome.isPanic_iff_of_not_isErr (isErr_addDecimal input)]
  simp only [addDecimal_eq_ok]
  constructor
  · intro hno
    have hlt : 18 < input.utf8ByteSize := Nat.not_le.mp fun hle => hno ⟨_, Or.inl ⟨hle, rfl⟩⟩
    refine ⟨hlt, ?_⟩
    rintro ⟨left, right, hcs, hlen⟩
    exact hno ⟨_, Or.inr ⟨hlt, left, right, hcs, hlen, rfl⟩⟩
  · rintro ⟨hlt, hno⟩ ⟨_, ⟨hle, -⟩ | ⟨-, left, right, hcs, hlen, -⟩⟩
    · exact absurd hlt (Nat.not_lt.mpr hle)
    · exact hno ⟨left, right, hcs, hlen⟩

section Conversion

variable {F : Type} [F32 F] {input : String}

/-- The conversion panics when the point would fall inside a character. -/
theorem isPanic_grtGweiStringToF32_iff :
    (grtGweiStringToF32 F input).isPanic = true ↔ SplitsCharacter input := by
  unfold grtGweiStringToF32
  rw [Outcome.isPanic_bind, isPanic_addDecimal_iff]
  simp

/-- It accepts the texts that the point makes floats of. -/
theorem isOk_grtGweiStringToF32_iff (hparse : ParsesFloats F) :
    (grtGweiStringToF32 F input).isOk = true ↔ ReadsAsFloat input := by
  unfold grtGweiStringToF32
  simp only [Outcome.isOk_iff, Outcome.bind_eq_ok, Outcome.ofExcept_eq_ok, readsAsFloat_iff,
    ← hparse _]
  constructor
  · rintro ⟨x, decimal, hadd, hx⟩
    exact ⟨decimal, hadd, x, hx⟩
  · rintro ⟨decimal, hadd, x, hx⟩
    exact ⟨x, decimal, hadd, hx⟩

/-- **Which texts the conversion answers rightly**: digit strings, and texts that the point
neither makes a float of nor splits a character of. -/
theorem amounts_iff (hparse : ParsesFloats F) :
    AnswersAmount input (grtGweiStringToF32 F input) ↔
      Decimal.IsNatural input ∨ ¬ ReadsAsFloat input ∧ ¬ SplitsCharacter input := by
  have herr : (grtGweiStringToF32 F input).isErr = true ↔
      ¬ ReadsAsFloat input ∧ ¬ SplitsCharacter input := by
    rw [Outcome.isErr_iff, isOk_grtGweiStringToF32_iff hparse, isPanic_grtGweiStringToF32_iff]
  by_cases hnat : Decimal.IsNatural input
  · refine ⟨fun _ => Or.inl hnat, fun _ => ⟨fun _ => ?_, fun hno => absurd hnat hno⟩⟩
    exact (isOk_grtGweiStringToF32_iff hparse).mpr (readsAsFloat_of_isNatural hnat)
  · constructor
    · intro h
      exact Or.inr (herr.mp (h.refused hnat))
    · rintro (h | h)
      · exact absurd h hnat
      · exact ⟨fun h => absurd h hnat, fun _ => herr.mpr h⟩

end Conversion

/-! ## Texts that are not amounts -/

/-- `f32` with exact values. -/
instance : F32 FloatText.Value where
  parse s :=
    match FloatText.read s with
    | some x => .ok x
    | none => .error "invalid float literal"
  zero := .finite 0
  ge x y :=
    match x, y with
    | .finite p, .finite q => decide (q ≤ p)
    | .infinity negative, .finite _ => !negative
    | .finite _, .infinity negative => negative
    | .infinity negative, .infinity negative' => !negative || negative'
    | _, _ => false

theorem parsesFloats_value : ParsesFloats FloatText.Value := by
  intro s
  rw [← FloatText.isSome_read]
  show (∃ x, (match FloatText.read s with
    | some x => Except.ok x
    | none => Except.error "invalid float literal") = Except.ok x) ↔ _
  cases FloatText.read s <;> simp

/-- An exponent and the empty text are read as floats, and a point inside a character panics. -/
theorem amounts_misread :
    ParsesFloats FloatText.Value ∧
    ¬ AnswersAmount "1e5" (grtGweiStringToF32 FloatText.Value "1e5") ∧
    grtGweiStringToF32 FloatText.Value "1e5" = .ok (.finite 10000) ∧
    grtGweiStringToF32 FloatText.Value "" = .ok (.finite 0) ∧
    (grtGweiStringToF32 FloatText.Value "é00000000000000000").isPanic = true := by
  have hexp : grtGweiStringToF32 FloatText.Value "1e5" = .ok (.finite 10000) := by decide +kernel
  refine ⟨parsesFloats_value, fun h => ?_, hexp, by decide +kernel, by decide +kernel⟩
  have herr := h.refused (by decide)
  rw [hexp] at herr
  exact absurd herr (by simp)

/-- The amount of 24 digits and the text that the test of the conversion has. -/
theorem amounts_iff_tested :
    AnswersAmount "100000000000000000000000"
      (grtGweiStringToF32 FloatText.Value "100000000000000000000000") ∧
    AnswersAmount "abc" (grtGweiStringToF32 FloatText.Value "abc") := by
  have hread : ¬ ReadsAsFloat "abc" := fun h =>
    absurd ((isOk_grtGweiStringToF32_iff parsesFloats_value).mpr h) (by decide +kernel)
  have hsplit : ¬ SplitsCharacter "abc" := fun h => absurd h.1 (by decide)
  exact ⟨(amounts_iff parsesFloats_value).mpr (Or.inl (by decide)),
    (amounts_iff parsesFloats_value).mpr (Or.inr ⟨hread, hsplit⟩)⟩

end GraphcastSdk

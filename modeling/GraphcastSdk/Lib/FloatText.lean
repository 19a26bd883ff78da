import GraphcastSdk.Lib.Decimal

/-!
# Floats as text

The grammar that the documentation of `f32::from_str` gives, letters in either case:

    Float  ::= Sign? ( 'inf' | 'infinity' | 'nan' | Number )
    Number ::= ( Digit+ | Digit+ '.' Digit* | Digit* '.' Digit+ ) Exp?
    Exp    ::= 'e' Sign? Digit+

* `IsFloat` is the grammar, and `read` a reader with the exact values.
* `isSome_read`: the reader accepts the grammar, no more and no less.
* `isFloat_point_iff`: when two texts make a float with a point between them.
-/

namespace FloatText

/-! ## The grammar -/

def Digits (cs : List Char) : Prop := ∀ c ∈ cs, c.isDigit = true

/-- `Sign?`. -/
def Sign (cs : List Char) : Prop := cs = [] ∨ cs = ['+'] ∨ cs = ['-']

/-- `Exp?`. -/
def Exponent (cs : List Char) : Prop :=
  cs = [] ∨ ∃ e sign digits, cs = e :: (sign ++ digits) ∧ (e = 'e' ∨ e = 'E') ∧ Sign sign ∧
    Digits digits ∧ digits ≠ []

/-- A `Number` without its exponent. -/
inductive Mantissa : List Char → Prop where
  | integer {digits} : Digits digits → digits ≠ [] → Mantissa digits
  | point {left right} : Digits left → Digits right → left ++ right ≠ [] →
      Mantissa (left ++ '.' :: right)

def Number (cs : List Char) : Prop := ∃ m e, cs = m ++ e ∧ Mantissa m ∧ Exponent e

/-- `'inf' | 'infinity'`. -/
def IsInfinity (cs : List Char) : Prop :=
  cs.map Char.toLower = "inf".toList ∨ cs.map Char.toLower = "infinity".toList

def IsNan (cs : List Char) : Prop := cs.map Char.toLower = "nan".toList

def IsFloat (s : String) : Prop :=
  ∃ sign body, s.toList = sign ++ body ∧ Sign sign ∧ (IsInfinity body ∨ IsNan body ∨ Number body)

/-! ## The reader -/

/-- An exact float. -/
inductive Value where
  | finite (q : ℚ)
  | infinity (negative : Bool)
  | nan
  deriving DecidableEq

/-- Whether the text has a minus sign, and the text after its sign. -/
def readSign : List Char → Bool × List Char
  | '+' :: cs => (false, cs)
  | '-' :: cs => (true, cs)
  | cs => (false, cs)

def readExponent : List Char → Option Int
  | [] => some 0
  | c :: cs =>
    let (negative, digits) := readSign cs
    if (c = 'e' ∨ c = 'E') ∧ digits.all Char.isDigit = true ∧ digits ≠ [] then
      let n : Int := Nat.ofDigitChars 10 digits 0
      some (if negative then -n else n)
    else none

/-- `n * 10 ^ e`. -/
def scale (n : Nat) : Int → ℚ
  | .ofNat e => (n : ℚ) * 10 ^ e
  | .negSucc e => (n : ℚ) / 10 ^ (e + 1)

def readNumber (cs : List Char) : Option ℚ :=
  let left := cs.takeWhile Char.isDigit
  match cs.dropWhile Char.isDigit with
  | '.' :: rest =>
    let right := rest.takeWhile Char.isDigit
    if left ++ right = [] then none
    else (readExponent (rest.dropWhile Char.isDigit)).map fun e =>
      scale (Nat.ofDigitChars 10 (left ++ right) 0) (e - right.length)
  | rest =>
    if left = [] then none
    else (readExponent rest).map fun e => scale (Nat.ofDigitChars 10 left 0) e

instance (cs : List Char) : Decidable (IsInfinity cs) :=
  inferInstanceAs (Decidable (_ ∨ _))

instance (cs : List Char) : Decidable (IsNan cs) := inferInstanceAs (Decidable (_ = _))

def read (s : String) : Option Value :=
  let (negative, body) := readSign s.toList
  if IsInfinity body then some (.infinity negative)
  else if IsNan body then some .nan
  else (readNumber body).map fun q => .finite (if negative then -q else q)

/-! ## The reader accepts the grammar -/

theorem digits_takeWhile (cs : List Char) : Digits (cs.takeWhile Char.isDigit) := fun _ hc =>
  List.mem_takeWhile_imp hc

/-- What the reader takes off is a sign. -/
theorem exists_readSign (cs : List Char) : ∃ sign, Sign sign ∧ cs = sign ++ (readSign cs).2 := by
  unfold readSign
  split
  · exact ⟨['+'], Or.inr (Or.inl rfl), rfl⟩
  · exact ⟨['-'], Or.inr (Or.inr rfl), rfl⟩
  · exact ⟨[], Or.inl rfl, rfl⟩

/-- A sign is all that the reader takes off, when no other follows. -/
theorem readSign_append {sign body : List Char} (hs : Sign sign)
    (hb : ∀ c ∈ body.head?, c ≠ '+' ∧ c ≠ '-') : (readSign (sign ++ body)).2 = body := by
  rcases hs with rfl | rfl | rfl
  · rw [List.nil_append]
    unfold readSign
    split
    · exact absurd rfl (hb '+' rfl).1
    · exact absurd rfl (hb '-' rfl).2
    · rfl
  · rfl
  · rfl

theorem ne_sign_of_isDigit {c : Char} (h : c.isDigit = true) : c ≠ '+' ∧ c ≠ '-' := by
  constructor
  · rintro rfl
    exact absurd h (by decide)
  · rintro rfl
    exact absurd h (by decide)

theorem isSome_readExponent {cs : List Char} :
    (readExponent cs).isSome = true ↔ Exponent cs := by
  unfold readExponent Exponent
  cases cs with
  | nil => simp
  | cons c cs =>
    simp only [reduceCtorEq, false_or, List.cons.injEq]
    constructor
    · intro h
      split at h
      · rename_i hc
        obtain ⟨sign, hsign, hcs⟩ := exists_readSign cs
        exact ⟨c, sign, _, ⟨rfl, hcs⟩, hc.1, hsign, List.all_eq_true.mp hc.2.1, hc.2.2⟩
      · exact absurd h (by simp)
    · rintro ⟨e, sign, digits, ⟨rfl, rfl⟩, he, hsign, hd, hne⟩
      have hbody : (readSign (sign ++ digits)).2 = digits := readSign_append hsign fun d hd' =>
        ne_sign_of_isDigit (hd d (List.mem_of_head? hd'))
      rw [if_pos ⟨he, by rw [hbody]; exact List.all_eq_true.mpr hd, by rw [hbody]; exact hne⟩]
      rfl

theorem not_isDigit_head_exponent {e : List Char} (he : Exponent e) :
    ∀ c ∈ e.head?, c.isDigit = false := by
  rcases he with rfl | ⟨c, sign, digits, rfl, hc, -, -, -⟩
  · simp
  · intro d hd
    obtain rfl := Option.some.inj hd
    rcases hc with rfl | rfl <;> decide

theorem isSome_readNumber {cs : List Char} : (readNumber cs).isSome = true ↔ Number cs := by
  constructor
  · intro h
    have hleft := digits_takeWhile cs
    have hcs := (List.takeWhile_append_dropWhile (p := Char.isDigit) (l := cs)).symm
    unfold readNumber at h
    dsimp only at h
    split at h
    · rename_i rest hrest
      split at h
      · exact absurd h (by simp)
      · rename_i hne
        rw [Option.isSome_map] at h
        refine ⟨_, _, ?_, .point hleft (digits_takeWhile rest) hne, isSome_readExponent.mp h⟩
        rw [List.append_assoc, List.cons_append, List.takeWhile_append_dropWhile, ← hrest]
        exact hcs
    · split at h
      · exact absurd h (by simp)
      · rename_i hne
        rw [Option.isSome_map] at h
        exact ⟨_, _, hcs, .integer hleft hne, isSome_readExponent.mp h⟩
  · rintro ⟨m, e, rfl, hm, he⟩
    unfold readNumber
    dsimp only
    cases hm with
    | integer hd hne =>
      obtain ⟨htake, hdrop⟩ := Decimal.span_digits hd (not_isDigit_head_exponent he)
      rw [htake, hdrop]
      split
      · -- an exponent does not start with a point
        rcases he with hnil | ⟨c, sign, digits, hcs, hc, -, -, -⟩
        · exact absurd hnil (by simp)
        · obtain ⟨rfl, -⟩ := List.cons.inj hcs
          exact absurd hc (by decide)
      · rw [if_neg hne, Option.isSome_map]
        exact isSome_readExponent.mpr he
    | point hl hr hne =>
      rename_i left right
      obtain ⟨htake, hdrop⟩ :=
        Decimal.span_digits hl (Decimal.not_isDigit_head_point (right ++ e))
      obtain ⟨htake', hdrop'⟩ := Decimal.span_digits hr (not_isDigit_head_exponent he)
      rw [List.append_assoc, List.cons_append, htake, hdrop]
      simp only [htake', hdrop']
      rw [if_neg hne, Option.isSome_map]
      exact isSome_readExponent.mpr he

/-- Words and numbers start with a letter, a digit or a point. -/
theorem ne_sign_of_head {body : List Char} (h : IsInfinity body ∨ IsNan body ∨ Number body) :
    ∀ c ∈ body.head?, c ≠ '+' ∧ c ≠ '-' := by
  have hword : ∀ w : String, body.map Char.toLower = w.toList → '+' ∉ w.toList →
      '-' ∉ w.toList → ∀ c ∈ body.head?, c ≠ '+' ∧ c ≠ '-' := by
    intro w hw hplus hminus c hc
    have hmem : c.toLower ∈ w.toList := by
      rw [← hw]
      exact List.mem_map_of_mem (List.mem_of_head? hc)
    constructor
    · rintro rfl
      exact hplus hmem
    · rintro rfl
      exact hminus hmem
  rcases h with (h | h) | h | ⟨m, e, rfl, hm, -⟩
  · exact hword "inf" h (by decide) (by decide)
  · exact hword "infinity" h (by decide) (by decide)
  · exact hword "nan" h (by decide) (by decide)
  · intro c hc
    cases hm with
    | integer hd hne =>
      rw [List.head?_append_of_ne_nil _ hne] at hc
      exact ne_sign_of_isDigit (hd c (List.mem_of_head? hc))
    | @point left right hl hr hne =>
      cases left with
      | nil =>
        obtain rfl := Option.some.inj hc
        decide
      | cons d left =>
        obtain rfl := Option.some.inj hc
        exact ne_sign_of_isDigit (hl d List.mem_cons_self)

/-- **The reader accepts the grammar, no more and no less.** -/
theorem isSome_read {s : String} : (read s).isSome = true ↔ IsFloat s := by
  have hread : (read s).isSome = true ↔ IsInfinity (readSign s.toList).2 ∨
      IsNan (readSign s.toList).2 ∨ Number (readSign s.toList).2 := by
    rw [← isSome_readNumber]
    unfold read
    dsimp only
    by_cases hinf : IsInfinity (readSign s.toList).2
    · simp [hinf]
    · by_cases hnan : IsNan (readSign s.toList).2 <;> simp [hinf, hnan]
  rw [hread]
  constructor
  · intro h
    obtain ⟨sign, hsign, hs⟩ := exists_readSign s.toList
    exact ⟨sign, _, hs, hsign, h⟩
  · rintro ⟨sign, body, hs, hsign, h⟩
    rw [hs, readSign_append hsign (ne_sign_of_head h)]
    exact h

/-! ## Floats with a point -/

theorem point_notMem_digits {cs : List Char} (h : Digits cs) : '.' ∉ cs := fun hmem =>
  absurd (h _ hmem) (by decide)

theorem point_notMem_sign {cs : List Char} (h : Sign cs) : '.' ∉ cs := by
  rcases h with rfl | rfl | rfl <;> decide

theorem point_notMem_exponent {cs : List Char} (h : Exponent cs) : '.' ∉ cs := by
  rcases h with rfl | ⟨e, sign, digits, rfl, he, hsign, hd, -⟩
  · decide
  · rw [List.mem_cons, List.mem_append, not_or, not_or]
    refine ⟨?_, point_notMem_sign hsign, point_notMem_digits hd⟩
    rcases he with rfl | rfl <;> decide

theorem point_notMem_word {cs : List Char} {w : String} (h : cs.map Char.toLower = w.toList)
    (hw : '.' ∉ w.toList) : '.' ∉ cs := fun hmem =>
  hw (h ▸ List.mem_map_of_mem hmem)

theorem toNat_lt_of_exponent {cs : List Char} (h : Exponent cs) : ∀ c ∈ cs, c.toNat < 128 := by
  intro c hc
  rcases h with rfl | ⟨e, sign, digits, rfl, he, hsign, hd, -⟩
  · exact absurd hc (by simp)
  · rcases List.mem_cons.mp hc with rfl | hc
    · rcases he with rfl | rfl <;> decide
    · rcases List.mem_append.mp hc with hc | hc
      · rcases hsign with rfl | rfl | rfl
        · exact absurd hc (by simp)
        · obtain rfl := List.mem_singleton.mp hc
          decide
        · obtain rfl := List.mem_singleton.mp hc
          decide
      · exact Decimal.toNat_lt_of_isDigit (hd c hc)

/-- **When two texts make a float with a point between them**: digits on both sides of it, not
none at all, after at most a sign and before at most an exponent. -/
theorem isFloat_point_iff {s : String} {a b : List Char} (h : s.toList = a ++ '.' :: b) :
    IsFloat s ↔ ∃ sign left right e, a = sign ++ left ∧ b = right ++ e ∧ Sign sign ∧
      Digits left ∧ Digits right ∧ left ++ right ≠ [] ∧ Exponent e := by
  have hpoint : '.' ∈ s.toList := by rw [h]; simp
  constructor
  · rintro ⟨sign, body, hs, hsign, hbody⟩
    have hbp : '.' ∈ body := by
      rw [hs, List.mem_append] at hpoint
      exact hpoint.resolve_left (point_notMem_sign hsign)
    rcases hbody with (hw | hw) | hw | ⟨m, e, rfl, hm, he⟩
    · exact absurd hbp (point_notMem_word hw (by decide))
    · exact absurd hbp (point_notMem_word hw (by decide))
    · exact absurd hbp (point_notMem_word hw (by decide))
    · cases hm with
      | integer hd hne =>
        rcases List.mem_append.mp hbp with hmem | hmem
        · exact absurd hmem (point_notMem_digits hd)
        · exact absurd hmem (point_notMem_exponent he)
      | @point left right hl hr hne =>
        have hsplit : (sign ++ left) ++ '.' :: (right ++ e) = a ++ '.' :: b := by
          rw [← h, hs]
          simp
        have hx : '.' ∉ sign ++ left := by
          rw [List.mem_append, not_or]
          exact ⟨point_notMem_sign hsign, point_notMem_digits hl⟩
        have hz : '.' ∉ right ++ e := by
          rw [List.mem_append, not_or]
          exact ⟨point_notMem_digits hr, point_notMem_exponent he⟩
        obtain ⟨ha, -, hb⟩ := (List.append_cons_inj_of_notMem hx hz).mp hsplit
        exact ⟨sign, left, right, e, ha.symm, hb.symm, hsign, hl, hr, hne, he⟩
  · rintro ⟨sign, left, right, e, rfl, rfl, hsign, hl, hr, hne, he⟩
    refine ⟨sign, (left ++ '.' :: right) ++ e, ?_, hsign,
      Or.inr (Or.inr ⟨_, e, rfl, .point hl hr hne, he⟩)⟩
    rw [h]
    simp

end FloatText

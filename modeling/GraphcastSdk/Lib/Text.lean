import GraphcastSdk.Lib.Outcome
import Mathlib.Data.List.DropRight
import Mathlib.Data.List.Infix
import Mathlib.Data.String.Basic

/-!
# Text as UTF-8

Byte offsets into a string, substrings, and the two Rust printing formats that error texts use.
The length in bytes of a list of characters is `String.utf8Len`.

* `splitAt s mid` is `str::split_at`: it panics when the byte offset `mid` is past the end or
  falls inside a character (`splitAt_eq_ok`). In an ASCII string every offset is a boundary
  (`splitAt_of_isAscii`).
* `slice s start stop` is `&s[start..stop]`, which panics for the same reasons and when `stop` is
  before `start`.
* `trim` is `str::trim`: it drops `White_Space` characters at both ends.
* `contains s pat` is `str::contains` with a string: `pat` occurs in `s` without gaps.
* `debugStr` is `{:?}` of a string: quoted, with the escapes of `escape_debug`. The control
  characters are those of ASCII and Latin-1; what Rust deems unprintable above U+00A0 is left as it
  is.
* `debugStruct` is `{:#?}` of a derived `Debug`: one field a line.
-/

namespace Text

/-- The characters before and after the byte offset, when it is a character boundary. -/
def splitAtByte : List Char → Nat → Option (List Char × List Char)
  | cs, 0 => some ([], cs)
  | [], _ + 1 => none
  | c :: cs, mid + 1 =>
    if c.utf8Size ≤ mid + 1 then
      (splitAtByte cs (mid + 1 - c.utf8Size)).map fun p => (c :: p.1, p.2)
    else none

/-- `str::split_at`. -/
def splitAt {ε : Type} (s : String) (mid : Nat) : Outcome ε (String × String) :=
  match splitAtByte s.toList mid with
  | some (left, right) => .ok (String.ofList left, String.ofList right)
  | none => .panic "failed to slice string"

/-- `&s[start..stop]`. -/
def slice {ε : Type} (s : String) (start stop : Nat) : Outcome ε String :=
  if stop < start then .panic "begin <= end when slicing"
  else
    match splitAtByte s.toList stop with
    | some (left, _) =>
      match splitAtByte left start with
      | some (_, middle) => .ok (String.ofList middle)
      | none => .panic "failed to slice string"
    | none => .panic "failed to slice string"

/-- `char::is_whitespace`: the characters with the property `White_Space`. -/
def isWhitespace (c : Char) : Bool :=
  c.toNat ∈ [0x20, 0x85, 0xA0, 0x1680, 0x2028, 0x2029, 0x202F, 0x205F, 0x3000] ||
    (0x9 ≤ c.toNat && c.toNat ≤ 0xD) || (0x2000 ≤ c.toNat && c.toNat ≤ 0x200A)

/-- `str::trim`. -/
def trim (s : String) : String :=
  String.ofList ((s.toList.dropWhile isWhitespace).rdropWhile isWhitespace)

/-- `str::starts_with` with a character. -/
def startsWith (s : String) (c : Char) : Bool := s.toList.head? == some c

/-- `str::ends_with` with a character. -/
def endsWith (s : String) (c : Char) : Bool := s.toList.getLast? == some c

/-- `str::contains`. -/
def contains (s pat : String) : Bool := decide (pat.toList <:+: s.toList)

theorem contains_self (s : String) : contains s s = true :=
  decide_eq_true List.infix_rfl

/-- `char::escape_unicode`: the code point in hexadecimal, without leading zeros. -/
def escapeUnicode (c : Char) : String :=
  "\\u\x7b" ++ String.ofList (Nat.toDigits 16 c.toNat) ++ "\x7d"

/-- The control characters, with the no-break space behind the second block of them. -/
def isControl (c : Char) : Bool :=
  c.toNat < 0x20 || (0x7F ≤ c.toNat && c.toNat ≤ 0xA0)

/-- One character of a quoted string. -/
def escapeDebug (c : Char) : String :=
  if c = '"' then "\\\""
  else if c = '\\' then "\\\\"
  else if c = '\n' then "\\n"
  else if c = '\r' then "\\r"
  else if c = '\t' then "\\t"
  else if c = Char.ofNat 0 then "\\0"
  else if isControl c then escapeUnicode c
  else c.toString

/-- `{:?}` of a string. -/
def debugStr (s : String) : String :=
  s.toList.foldl (fun acc c => acc ++ escapeDebug c) "\"" ++ "\""

example : debugStr "a\tb\x1b\x7f" = "\"a\\tb\\u\x7b1b\x7d\\u\x7b7f\x7d\"" := by decide

/-- `{:#?}` of a structure with derived `Debug`: the fields with their printed values. -/
def debugStruct (name : String) (fields : List (String × String)) : String :=
  fields.foldl (fun acc f => acc ++ "    " ++ f.1 ++ ": " ++ f.2 ++ ",\n") (name ++ " \x7b\n") ++
    "\x7d"

/-! ## Character boundaries -/

/-- A list is split at the end of a prefix of `mid` bytes, or not at all. -/
theorem splitAtByte_eq_some {cs : List Char} {mid : Nat} {p : List Char × List Char} :
    splitAtByte cs mid = some p ↔ cs = p.1 ++ p.2 ∧ String.utf8Len p.1 = mid := by
  obtain ⟨left, right⟩ := p
  fun_induction splitAtByte cs mid generalizing left with
  | case1 cs =>
    rw [Option.some.injEq, Prod.mk.injEq, String.utf8Len_eq_zero]
    constructor
    · rintro ⟨rfl, rfl⟩
      exact ⟨rfl, rfl⟩
    · rintro ⟨rfl, rfl⟩
      exact ⟨rfl, rfl⟩
  | case2 mid =>
    constructor
    · intro h
      exact absurd h (by simp)
    · rintro ⟨hnil, hlen⟩
      rw [(List.append_eq_nil_iff.mp hnil.symm).1] at hlen
      exact absurd hlen (by simp)
  | case3 c cs mid hle ih =>
    simp only [Option.map_eq_some_iff, Prod.mk.injEq]
    constructor
    · rintro ⟨⟨left', right'⟩, h, rfl, rfl⟩
      obtain ⟨hcs, hlen⟩ := (ih left').mp h
      refine ⟨by rw [hcs, List.cons_append], ?_⟩
      rw [String.utf8Len_cons, hlen]
      omega
    · rintro ⟨hcs, hlen⟩
      cases left with
      | nil => exact absurd hlen (by simp)
      | cons d left' =>
        obtain ⟨rfl, hcs'⟩ := List.cons.inj hcs
        rw [String.utf8Len_cons] at hlen
        refine ⟨(left', right), (ih left').mpr ⟨hcs', ?_⟩, rfl, rfl⟩
        show String.utf8Len left' = mid + 1 - c.utf8Size
        omega
  | case4 c cs mid hle =>
    constructor
    · intro h
      exact absurd h (by simp)
    · rintro ⟨hcs, hlen⟩
      cases left with
      | nil => exact absurd hlen (by simp)
      | cons d left' =>
        obtain ⟨rfl, -⟩ := List.cons.inj hcs
        rw [String.utf8Len_cons] at hlen
        omega

/-- A string is split in two at the end of `mid` bytes of it, or there is a panic. -/
theorem splitAt_eq_ok {ε : Type} {s left right : String} {mid : Nat} :
    (splitAt s mid : Outcome ε (String × String)) = .ok (left, right) ↔
      s.toList = left.toList ++ right.toList ∧ String.utf8Len left.toList = mid := by
  unfold splitAt
  constructor
  · intro h
    split at h
    · rename_i l r hsome
      obtain ⟨rfl, rfl⟩ := Prod.mk.inj (Outcome.ok.inj h)
      rw [String.toList_ofList, String.toList_ofList]
      exact splitAtByte_eq_some.mp hsome
    · exact absurd h (by simp)
  · intro h
    have hsome : splitAtByte s.toList mid = some (left.toList, right.toList) :=
      splitAtByte_eq_some.mpr h
    rw [hsome]
    dsimp only
    rw [String.ofList_toList, String.ofList_toList]

/-- A slice between two boundaries. -/
theorem slice_eq {ε : Type} {s : String} {left middle right : List Char}
    (h : s.toList = (left ++ middle) ++ right) :
    (slice s (String.utf8Len left) (String.utf8Len (left ++ middle)) : Outcome ε String) =
      .ok (String.ofList middle) := by
  have hle : ¬ String.utf8Len (left ++ middle) < String.utf8Len left := by
    rw [String.utf8Len_append]
    omega
  have hstop : splitAtByte s.toList (String.utf8Len (left ++ middle)) =
      some (left ++ middle, right) := splitAtByte_eq_some.mpr ⟨h, rfl⟩
  have hstart : splitAtByte (left ++ middle) (String.utf8Len left) = some (left, middle) :=
    splitAtByte_eq_some.mpr ⟨rfl, rfl⟩
  unfold slice
  rw [if_neg hle, hstop]
  dsimp only
  rw [hstart]

theorem utf8ByteSize_eq (s : String) : s.utf8ByteSize = String.utf8Len s.toList := by
  rw [← String.utf8ByteSize_ofList, String.ofList_toList]

/-! ## Ends of a string -/

/-- Nothing is trimmed off between two characters that are not white space. -/
theorem trim_eq_self {s : String} {c d : Char} {cs : List Char} (h : s.toList = c :: (cs ++ [d]))
    (hc : isWhitespace c = false) (hd : isWhitespace d = false) : trim s = s := by
  have hlast : (c :: (cs ++ [d])).rdropWhile isWhitespace = c :: (cs ++ [d]) := by
    rw [← List.cons_append, List.rdropWhile_concat_neg isWhitespace _ _ (by simp [hd])]
  unfold trim
  rw [h, List.dropWhile_cons_of_neg (by simp [hc]), hlast, ← h, String.ofList_toList]

/-- A character that a string starts and ends with is the only one in it, or there are two. -/
theorem startsWith_and_endsWith_iff {s : String} {c : Char} :
    (startsWith s c && endsWith s c) = true ↔
      s.toList = [c] ∨ ∃ cs, s.toList = c :: (cs ++ [c]) := by
  unfold startsWith endsWith
  rw [Bool.and_eq_true, beq_iff_eq, beq_iff_eq]
  constructor
  · rintro ⟨hhead, hlast⟩
    obtain ⟨tail, htail⟩ := List.head?_eq_some_iff.mp hhead
    rw [htail] at hlast ⊢
    rcases List.eq_nil_or_concat' tail with rfl | ⟨cs, d, rfl⟩
    · exact Or.inl rfl
    · rw [← List.cons_append, List.getLast?_concat] at hlast
      obtain rfl := Option.some.inj hlast
      exact Or.inr ⟨cs, rfl⟩
  · rintro (h | ⟨cs, h⟩)
    · rw [h]
      exact ⟨rfl, rfl⟩
    · rw [h]
      refine ⟨rfl, ?_⟩
      rw [← List.cons_append, List.getLast?_concat]

/-! ## ASCII -/

/-- Every character is ASCII. -/
def IsAscii (s : String) : Prop := ∀ c ∈ s.toList, c.toNat < 128

instance : DecidablePred IsAscii := fun s =>
  List.decidableBAll (fun c : Char => c.toNat < 128) s.toList

theorem utf8Size_eq_one_of_lt {c : Char} (h : c.toNat < 128) : c.utf8Size = 1 := by
  rw [Char.utf8Size_eq_one_iff]
  exact UInt32.le_iff_toNat_le.mpr (Nat.le_of_lt_succ h)

theorem utf8Len_of_isAscii {cs : List Char} (h : ∀ c ∈ cs, c.toNat < 128) :
    String.utf8Len cs = cs.length := by
  induction cs with
  | nil => rfl
  | cons c cs ih =>
    rw [String.utf8Len_cons, ih fun d hd => h d (List.mem_cons_of_mem c hd),
      utf8Size_eq_one_of_lt (h c List.mem_cons_self), List.length_cons]

/-- An ASCII string has as many bytes as characters. -/
theorem utf8ByteSize_of_isAscii {s : String} (h : IsAscii s) :
    s.utf8ByteSize = s.toList.length := by
  rw [utf8ByteSize_eq, utf8Len_of_isAscii h]

/-- Within an ASCII string every offset is a character boundary. -/
theorem splitAt_of_isAscii {ε : Type} {s : String} {mid : Nat} (h : IsAscii s)
    (hm : mid ≤ s.toList.length) : (splitAt s mid : Outcome ε (String × String)) =
      .ok (String.ofList (s.toList.take mid), String.ofList (s.toList.drop mid)) := by
  rw [splitAt_eq_ok, String.toList_ofList, String.toList_ofList]
  refine ⟨(List.take_append_drop mid s.toList).symm, ?_⟩
  rw [utf8Len_of_isAscii fun c hc => h c (List.mem_of_mem_take hc), List.length_take,
    Nat.min_eq_left hm]

end Text

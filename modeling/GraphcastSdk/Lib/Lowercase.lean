import GraphcastSdk.Lib.Text

/-!
# Lower case

`toLowercase` is `str::to_lowercase`. ASCII is lowered letter by letter; other characters by the
tables of Unicode, which are the parameter `Unicode` (`char::to_lowercase` and the two properties
that its one contextual rule asks about). That rule: a capital sigma is `ς` at the end of a word,
and `σ` elsewhere.

`toLowercase_of_isAscii`: ASCII text does not depend on the tables, and `toLowercase_eq_self_iff`:
it stays as it is iff it has no capital letter.
-/

namespace Text

/-- The tables of Unicode, for the characters outside ASCII. -/
structure Unicode where
  /-- `conversions::to_lower`, one to three characters. -/
  lower : Char → List Char
  /-- `Case_Ignorable`. -/
  caseIgnorable : Char → Bool
  /-- `Cased`. -/
  cased : Char → Bool

namespace Unicode

variable (u : Unicode)

/-- `case_ignorable_then_cased`. -/
def caseIgnorableThenCased (cs : List Char) : Bool :=
  match cs.dropWhile u.caseIgnorable with
  | c :: _ => u.cased c
  | [] => false

/-- `map_uppercase_sigma`, between the characters before it, nearest first, and those after it. -/
def mapUppercaseSigma (before after : List Char) : Char :=
  if u.caseIgnorableThenCased before && !u.caseIgnorableThenCased after then 'ς' else 'σ'

/-- One character in its context. -/
def lowerChar (before : List Char) (c : Char) (after : List Char) : List Char :=
  if c.toNat < 128 then [c.toLower]
  else if c = 'Σ' then [u.mapUppercaseSigma before after]
  else u.lower c

/-- The rest of a text, after the characters `before`, nearest first. -/
def lowerChars : List Char → List Char → List Char
  | _, [] => []
  | before, c :: cs => u.lowerChar before c cs ++ lowerChars (c :: before) cs

/-- `str::to_lowercase`. -/
def toLowercase (s : String) : String := String.ofList (u.lowerChars [] s.toList)

/-! ## ASCII -/

theorem lowerChars_of_isAscii : ∀ {cs : List Char} (before : List Char),
    (∀ c ∈ cs, c.toNat < 128) → u.lowerChars before cs = cs.map Char.toLower
  | [], _, _ => rfl
  | c :: cs, before, h => by
    have hc : u.lowerChar before c cs = [c.toLower] := if_pos (h c List.mem_cons_self)
    have ih := lowerChars_of_isAscii (c :: before) fun d hd => h d (List.mem_cons_of_mem c hd)
    rw [lowerChars, hc, ih]
    rfl

theorem toLowercase_of_isAscii {s : String} (h : IsAscii s) :
    u.toLowercase s = String.ofList (s.toList.map Char.toLower) := by
  unfold toLowercase
  rw [lowerChars_of_isAscii u [] h]

theorem toLower_eq_self_iff {c : Char} : c.toLower = c ↔ c.isUpper = false := by
  unfold Char.toLower Char.isUpper
  split
  · rename_i h
    have hle : c.val.toNat ≤ 90 := UInt32.le_iff_toNat_le.mp h.2
    have hne : (c.val + ('a'.val - 'A'.val)).toNat ≠ c.val.toNat := by
      rw [UInt32.toNat_add]
      have h32 : ('a'.val - 'A'.val).toNat = 32 := rfl
      omega
    constructor
    · intro he
      exact absurd (congrArg (fun d : Char => d.val.toNat) he) hne
    · intro hf
      exact absurd h (of_decide_eq_false hf)
  · rename_i h
    exact iff_of_true rfl (decide_eq_false h)

theorem toLowercase_eq_self_iff {s : String} (h : IsAscii s) :
    u.toLowercase s = s ↔ ∀ c ∈ s.toList, c.isUpper = false := by
  rw [toLowercase_of_isAscii u h]
  constructor
  · intro hs c hc
    have hl : s.toList.map Char.toLower = s.toList.map id := by
      have htoList := congrArg String.toList hs
      rw [String.toList_ofList] at htoList
      rw [htoList, List.map_id]
    exact toLower_eq_self_iff.mp (List.map_inj_left.mp hl c hc)
  · intro hall
    rw [List.map_congr_left fun c hc => toLower_eq_self_iff.mpr (hall c hc), List.map_id',
      String.ofList_toList]

end Unicode

end Text

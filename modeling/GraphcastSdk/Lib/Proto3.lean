import GraphcastSdk.Lib.Text
import Mathlib.Algebra.Group.Nat.Defs

/-!
# The proto3 wire format

Encoders and readers for the fields of a message, as `prost` derives them: a scalar with the
default value is left out, a field met twice keeps what the last one says, and an unknown field is
skipped. A message type brings its own `mergeField`, which says what the field with a given tag
does to a message; `merge` runs it over a buffer.

* A `Reader` takes its value off the front of a buffer and hands on the rest. Each has one lemma:
  after the encoder's bytes, and before any others, it returns what was encoded.
* `Merges` is a buffer read field by field, without the fuel of `merge` (`merge_of_merges`).
  `Merges.string`, `Merges.uint64` and `Merges.message` put one encoded field in front of a buffer,
  whether its bytes are there or left out.
-/

namespace Proto3

abbrev Bytes := List UInt8

/-- Why a buffer is not a message: a description, and the fields it was met in. -/
structure DecodeError where
  description : String
  stack : List (String × String)
  deriving Repr, DecidableEq

/-- The error, met in a field of a message. -/
def DecodeError.push (e : DecodeError) (message field : String) : DecodeError :=
  { e with stack := e.stack ++ [(message, field)] }

/-- `{:?}` of the error. -/
def DecodeError.debug (e : DecodeError) : String :=
  "DecodeError \x7b description: " ++ Text.debugStr e.description ++ ", stack: [" ++
    ", ".intercalate (e.stack.map fun p =>
      "(" ++ Text.debugStr p.1 ++ ", " ++ Text.debugStr p.2 ++ ")") ++ "] \x7d"

/-- What is read off the front of a buffer, and the rest of it. -/
abbrev Reader (α : Type) := Bytes → Outcome DecodeError (α × Bytes)

def fail {α : Type} (description : String) : Outcome DecodeError α := .err ⟨description, []⟩

/-! ## Varints -/

/-- Seven bits a byte, low ones first, in at most `k + 1` bytes. -/
def encodeVarintWithin : Nat → Nat → Bytes
  | 0, n => [UInt8.ofNat n]
  | k + 1, n =>
    if n < 128 then [UInt8.ofNat n]
    else UInt8.ofNat (n % 128 + 128) :: encodeVarintWithin k (n / 128)

/-- A `u64` as a varint. -/
def encodeVarint (n : Nat) : Bytes := encodeVarintWithin 9 n

def readVarintWithin : Nat → Reader Nat
  | _, [] => fail "invalid varint"
  | 0, _ :: _ => fail "invalid varint"
  | k + 1, b :: bs =>
    if b.toNat < 128 then .ok (b.toNat, bs)
    else do
      let (n, rest) ← readVarintWithin k bs
      pure (b.toNat - 128 + 128 * n, rest)

/-- At most ten bytes, and at most a `u64`. -/
def readVarint : Reader Nat := fun bs => do
  let (n, rest) ← readVarintWithin 10 bs
  if n < 2 ^ 64 then pure (n, rest) else fail "invalid varint"

theorem readVarintWithin_encode : ∀ {k n : Nat} (rest : Bytes), n < 128 ^ (k + 1) →
    readVarintWithin (k + 1) (encodeVarintWithin k n ++ rest) = .ok (n, rest)
  | 0, n, rest, h => by
    have hn : (UInt8.ofNat n).toNat = n := by
      rw [UInt8.toNat_ofNat']
      omega
    simp only [encodeVarintWithin, List.cons_append, List.nil_append, readVarintWithin, hn]
    rw [if_pos (by omega)]
  | k + 1, n, rest, h => by
    unfold encodeVarintWithin
    split
    · rename_i hlt
      have hn : (UInt8.ofNat n).toNat = n := by
        rw [UInt8.toNat_ofNat']
        omega
      simp only [List.cons_append, List.nil_append, readVarintWithin, hn, if_pos hlt]
    · rename_i hge
      have hb : (UInt8.ofNat (n % 128 + 128)).toNat = n % 128 + 128 := by
        rw [UInt8.toNat_ofNat']
        omega
      have hdiv : n / 128 < 128 ^ (k + 1) := by
        rw [Nat.div_lt_iff_lt_mul (by omega)]
        exact h
      rw [List.cons_append, readVarintWithin, hb, if_neg (by omega),
        readVarintWithin_encode rest hdiv, Outcome.ok_bind]
      have hsum : n % 128 + 128 - 128 + 128 * (n / 128) = n := by omega
      simp only [hsum, Outcome.pure_def]

theorem readVarint_encode {n : Nat} (h : n < 2 ^ 64) (rest : Bytes) :
    readVarint (encodeVarint n ++ rest) = .ok (n, rest) := by
  have hten : n < 128 ^ (9 + 1) := Nat.lt_trans h (by decide)
  unfold readVarint encodeVarint
  rw [readVarintWithin_encode rest hten, Outcome.ok_bind]
  simp only [if_pos h, Outcome.pure_def]

theorem encodeVarint_ne_nil (n : Nat) : encodeVarint n ≠ [] := by
  unfold encodeVarint encodeVarintWithin
  split <;> simp

/-! ## Keys -/

inductive WireType where
  | varint
  | sixtyFourBit
  | lengthDelimited
  | startGroup
  | endGroup
  | thirtyTwoBit
  deriving Repr, DecidableEq

namespace WireType

def code : WireType → Nat
  | varint => 0
  | sixtyFourBit => 1
  | lengthDelimited => 2
  | startGroup => 3
  | endGroup => 4
  | thirtyTwoBit => 5

def ofCode : Nat → Option WireType
  | 0 => some varint
  | 1 => some sixtyFourBit
  | 2 => some lengthDelimited
  | 3 => some startGroup
  | 4 => some endGroup
  | 5 => some thirtyTwoBit
  | _ => none

/-- `{:?}` of a wire type. -/
def debug : WireType → String
  | varint => "Varint"
  | sixtyFourBit => "SixtyFourBit"
  | lengthDelimited => "LengthDelimited"
  | startGroup => "StartGroup"
  | endGroup => "EndGroup"
  | thirtyTwoBit => "ThirtyTwoBit"

theorem ofCode_code (w : WireType) : ofCode w.code = some w := by
  cases w <;> rfl

theorem code_lt (w : WireType) : w.code < 8 := by
  cases w <;> decide

end WireType

def encodeKey (tag : Nat) (wireType : WireType) : Bytes := encodeVarint (8 * tag + wireType.code)

/-- The tag and wire type of the next field; a key is a `u32`, and no tag is zero. -/
def readKey : Reader (Nat × WireType) := fun bs => do
  let (key, rest) ← readVarint bs
  if key < 2 ^ 32 then
    match WireType.ofCode (key % 8) with
    | none => fail s!"invalid wire type value: {key % 8}"
    | some wireType =>
      if key / 8 = 0 then fail "invalid tag value: 0" else pure ((key / 8, wireType), rest)
  else fail s!"invalid key value: {key}"

theorem readKey_encode {tag : Nat} (h0 : 0 < tag) (h : tag < 2 ^ 29) (wireType : WireType)
    (rest : Bytes) : readKey (encodeKey tag wireType ++ rest) = .ok ((tag, wireType), rest) := by
  have hw := wireType.code_lt
  have hmod : (8 * tag + wireType.code) % 8 = wireType.code := by omega
  have hdiv : (8 * tag + wireType.code) / 8 = tag := by omega
  unfold readKey encodeKey
  rw [readVarint_encode (by omega), Outcome.ok_bind]
  simp only [hmod, hdiv, WireType.ofCode_code]
  rw [if_pos (by omega), if_neg (by omega)]
  rfl

/-! ## Values -/

/-- A reader for one wire type. -/
def expect {α : Type} (expected : WireType) (read : Reader α) (wireType : WireType) : Reader α :=
  fun bs =>
    if wireType = expected then read bs
    else fail s!"invalid wire type: {wireType.debug} (expected {expected.debug})"

/-- The next `n` bytes. -/
def take (n : Nat) : Reader Bytes := fun bs =>
  if n ≤ bs.length then .ok (bs.take n, bs.drop n) else fail "buffer underflow"

/-- As many bytes as the varint in front of them says. -/
def readDelimited : Reader Bytes := fun bs => do
  let (n, rest) ← readVarint bs
  take n rest

def encodeDelimited (tag : Nat) (bytes : Bytes) : Bytes :=
  encodeKey tag .lengthDelimited ++ (encodeVarint bytes.length ++ bytes)

def utf8 (s : String) : Bytes := s.toByteArray.data.toList

def readUtf8 : Reader String := fun bs => do
  let (bytes, rest) ← readDelimited bs
  match String.fromUTF8? ⟨bytes.toArray⟩ with
  | some s => pure (s, rest)
  | none => fail "invalid string value: data is not UTF-8 encoded"

/-- A `string`. -/
def encodeString (tag : Nat) (s : String) : Bytes :=
  if s = "" then [] else encodeDelimited tag (utf8 s)

def readString : WireType → Reader String := expect .lengthDelimited readUtf8

/-- A `uint64`. -/
def encodeUint64 (tag : Nat) (n : UInt64) : Bytes :=
  if n = 0 then [] else encodeKey tag .varint ++ encodeVarint n.toNat

def readUint64 : WireType → Reader UInt64 := expect .varint fun bs => do
  let (n, rest) ← readVarint bs
  pure (UInt64.ofNat n, rest)

/-- A message within a message, by its bytes. -/
def readMessage : WireType → Reader Bytes := expect .lengthDelimited readDelimited

theorem length_le_encodeDelimited {tag : Nat} {bytes : Bytes} :
    bytes.length ≤ (encodeDelimited tag bytes).length := by
  unfold encodeDelimited
  simp only [List.length_append]
  omega

theorem readDelimited_encode {bytes : Bytes} (h : bytes.length < 2 ^ 64) (rest : Bytes) :
    readDelimited (encodeVarint bytes.length ++ bytes ++ rest) = .ok (bytes, rest) := by
  unfold readDelimited take
  rw [List.append_assoc, readVarint_encode h, Outcome.ok_bind]
  simp only [List.length_append, Nat.le_add_right, if_true, List.take_left, List.drop_left]

theorem readUtf8_encode {s : String} (h : (utf8 s).length < 2 ^ 64) (rest : Bytes) :
    readUtf8 (encodeVarint (utf8 s).length ++ utf8 s ++ rest) = .ok (s, rest) := by
  have hs : String.fromUTF8? ⟨(utf8 s).toArray⟩ = some s := by
    unfold utf8
    rw [Array.toArray_toList]
    exact dif_pos s.isValidUTF8
  unfold readUtf8
  rw [readDelimited_encode h, Outcome.ok_bind]
  simp only [hs, Outcome.pure_def]

/-! ## Unknown fields -/

/-- Past the value of a field that is not a group. -/
def skipValue (wireType : WireType) (bs : Bytes) : Outcome DecodeError Bytes :=
  match wireType with
  | .varint => do
    let (_, rest) ← readVarint bs
    pure rest
  | .sixtyFourBit => do
    let (_, rest) ← take 8 bs
    pure rest
  | .lengthDelimited => do
    let (_, rest) ← readDelimited bs
    pure rest
  | .thirtyTwoBit => do
    let (_, rest) ← take 4 bs
    pure rest
  | .startGroup | .endGroup => fail "unexpected end group tag"

/-- Past the end of every open group; `groups` are their tags, innermost first, and a field within
`limit` of them is refused. A step reads a key, so the length of the buffer is enough fuel. -/
def skipGroups (limit : Nat) : Nat → List Nat → Bytes → Outcome DecodeError Bytes
  | _, [], bs => .ok bs
  | 0, _ :: _, _ => fail "invalid varint"
  | fuel + 1, group :: groups, bs => do
    let ((tag, wireType), rest) ← readKey bs
    if wireType = .endGroup then
      if tag = group then skipGroups limit fuel groups rest else fail "unexpected end group tag"
    else if limit ≤ groups.length + 1 then fail "recursion limit reached"
    else if wireType = .startGroup then skipGroups limit fuel (tag :: group :: groups) rest
    else do
      let rest ← skipValue wireType rest
      skipGroups limit fuel (group :: groups) rest

/-- `skip_field`. -/
def skipField (limit tag : Nat) (wireType : WireType) (bs : Bytes) : Outcome DecodeError Bytes :=
  if limit = 0 then fail "recursion limit reached"
  else if wireType = .startGroup then skipGroups limit bs.length [tag] bs
  else skipValue wireType bs

/-! ## Messages -/

section Merge

variable {M : Type} (mergeField : M → Nat → WireType → Reader M)

def mergeWithin : Nat → M → Bytes → Outcome DecodeError M
  | _, m, [] => .ok m
  | 0, _, _ :: _ => fail "invalid varint"
  | fuel + 1, m, b :: bs => do
    let ((tag, wireType), rest) ← readKey (b :: bs)
    let (m, rest) ← mergeField m tag wireType rest
    mergeWithin fuel m rest

/-- The fields of a buffer, merged into a message in their order. -/
def merge (m : M) (bs : Bytes) : Outcome DecodeError M := mergeWithin mergeField bs.length m bs

/-- The buffer takes one message to another, field by field. -/
inductive Merges : M → Bytes → M → Prop where
  | nil (m : M) : Merges m [] m
  | field {m m₁ m₂ : M} {bs rest rest₁ : Bytes} {tag : Nat} {wireType : WireType}
    (hkey : readKey bs = .ok ((tag, wireType), rest))
    (hfield : mergeField m tag wireType rest = .ok (m₁, rest₁)) (hlt : rest₁.length < bs.length)
    (hrest : Merges m₁ rest₁ m₂) : Merges m bs m₂

variable {mergeField} {m m₁ m₂ : M} {rest : Bytes} {tag : Nat}

theorem mergeWithin_of_merges {bs : Bytes} (h : Merges mergeField m bs m₂) :
    ∀ {fuel : Nat}, bs.length ≤ fuel → mergeWithin mergeField fuel m bs = .ok m₂ := by
  induction h with
  | nil m =>
    intro fuel _
    simp only [mergeWithin]
  | @field m m₁ m₂ bs rest rest₁ tag wireType hkey hfield hlt _ ih =>
    intro fuel hfuel
    cases bs with
    | nil => exact absurd hlt (by simp)
    | cons b bs =>
      cases fuel with
      | zero => exact absurd hfuel (by simp)
      | succ fuel =>
        simp only [mergeWithin, hkey, hfield, Outcome.ok_bind]
        exact ih (by simp only [List.length_cons] at hlt hfuel; omega)

theorem merge_of_merges {bs : Bytes} (h : Merges mergeField m bs m₂) :
    merge mergeField m bs = .ok m₂ :=
  mergeWithin_of_merges h (Nat.le_refl _)

/-- A field in front of a buffer, by what `mergeField` does with its value. -/
theorem Merges.encoded (h0 : 0 < tag) (h : tag < 2 ^ 29) {wireType : WireType} {value : Bytes}
    (hfield : mergeField m tag wireType (value ++ rest) = .ok (m₁, rest))
    (hrest : Merges mergeField m₁ rest m₂) :
    Merges mergeField m (encodeKey tag wireType ++ value ++ rest) m₂ := by
  rw [List.append_assoc]
  refine Merges.field (readKey_encode h0 h wireType _) hfield ?_ hrest
  have hpos : 0 < (encodeKey tag wireType).length :=
    List.length_pos_iff.mpr (encodeVarint_ne_nil _)
  simp only [List.length_append]
  omega

/-- A field of bytes, present whatever they are. -/
theorem Merges.delimited (h0 : 0 < tag) (h : tag < 2 ^ 29) {bytes : Bytes}
    (hfield : mergeField m tag .lengthDelimited (encodeVarint bytes.length ++ bytes ++ rest) =
      .ok (m₁, rest)) (hrest : Merges mergeField m₁ rest m₂) :
    Merges mergeField m (encodeDelimited tag bytes ++ rest) m₂ :=
  Merges.encoded h0 h hfield hrest

/-- A `string` that `mergeField` puts in its place, left out when that leaves the message as it
was. -/
theorem Merges.string (m₁ : M) (h0 : 0 < tag) (h : tag < 2 ^ 29) {s : String}
    (hlen : (encodeString tag s).length < 2 ^ 64)
    (hfield : ∀ bs, readString .lengthDelimited bs = .ok (s, rest) →
      mergeField m tag .lengthDelimited bs = .ok (m₁, rest)) (hdefault : s = "" → m₁ = m)
    (hrest : Merges mergeField m₁ rest m₂) :
    Merges mergeField m (encodeString tag s ++ rest) m₂ := by
  unfold encodeString at hlen ⊢
  split
  · rename_i he
    rw [← hdefault he]
    exact hrest
  · rename_i hne
    rw [if_neg hne] at hlen
    have hs : (utf8 s).length < 2 ^ 64 := Nat.lt_of_le_of_lt length_le_encodeDelimited hlen
    exact Merges.delimited h0 h (hfield _ (readUtf8_encode hs rest)) hrest

/-- A `uint64`, likewise. -/
theorem Merges.uint64 (m₁ : M) (h0 : 0 < tag) (h : tag < 2 ^ 29) {n : UInt64}
    (hfield : ∀ bs, readUint64 .varint bs = .ok (n, rest) →
      mergeField m tag .varint bs = .ok (m₁, rest)) (hdefault : n = 0 → m₁ = m)
    (hrest : Merges mergeField m₁ rest m₂) :
    Merges mergeField m (encodeUint64 tag n ++ rest) m₂ := by
  unfold encodeUint64
  split
  · rename_i hz
    rw [← hdefault hz]
    exact hrest
  · refine Merges.encoded h0 h (hfield _ ?_) hrest
    show (do
      let (n, rest) ← readVarint (encodeVarint n.toNat ++ rest)
      pure (UInt64.ofNat n, rest) : Outcome DecodeError (UInt64 × Bytes)) = _
    rw [readVarint_encode n.toNat_lt, Outcome.ok_bind]
    simp only [UInt64.ofNat_toNat, Outcome.pure_def]

/-- A message within the message, present whatever it is. -/
theorem Merges.message (m₁ : M) (h0 : 0 < tag) (h : tag < 2 ^ 29) {bytes : Bytes}
    (hlen : (encodeDelimited tag bytes).length < 2 ^ 64)
    (hfield : ∀ bs, readMessage .lengthDelimited bs = .ok (bytes, rest) →
      mergeField m tag .lengthDelimited bs = .ok (m₁, rest))
    (hrest : Merges mergeField m₁ rest m₂) :
    Merges mergeField m (encodeDelimited tag bytes ++ rest) m₂ := by
  have hb : bytes.length < 2 ^ 64 := Nat.lt_of_le_of_lt length_le_encodeDelimited hlen
  exact Merges.delimited h0 h (hfield _ (readDelimited_encode hb rest)) hrest

end Merge

end Proto3

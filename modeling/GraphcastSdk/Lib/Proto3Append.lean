import GraphcastSdk.Lib.Proto3

/-!
# Concatenated buffers

A message has no end of its own: its fields stand one after the other until the buffer is used up,
and bytes put behind it are more fields of it. What these make of the message is a law of the
format, for any message type.

A reader looks at nothing past the bytes it takes off (`Local`), so what stands behind them does
not matter. `merge` therefore distributes over concatenation: where a buffer merges, more bytes
behind it merge into the result. A message type brings one premise, that its `mergeField` is local,
and has it from the rules here: every reader of `Proto3` is local, composed readers are, and so is
skipping an unknown field, however its groups are nested.

* `merge_eq_ok_iff`: `merge` succeeds exactly on the buffers that `Merges` reads.
* `merge_append`: the concatenation law, errors included.
* `merge_encodeString`, `merge_encodeUint64`, `merge_encodeDelimited`: what one encoded field does
  to any message. With the law they give what an encoded message does to another.
-/

namespace Proto3

variable {α β M : Type}

/-! ## Local readers -/

/-- The reader takes `used` off the front, whatever stands behind it. -/
def Local (read : Reader α) : Prop :=
  ∀ ⦃bs a rest⦄, read bs = .ok (a, rest) →
    ∃ used, bs = used ++ rest ∧ ∀ more, read (used ++ more) = .ok (a, more)

/-- The same for code that reads no value. -/
def LocalSkip (skip : Bytes → Outcome DecodeError Bytes) : Prop :=
  ∀ ⦃bs rest⦄, skip bs = .ok rest →
    ∃ used, bs = used ++ rest ∧ ∀ more, skip (used ++ more) = .ok more

/-- Nothing is taken. -/
theorem local_pure (a : α) : Local fun bs => .ok (a, bs) := by
  intro bs b rest h
  obtain ⟨rfl, rfl⟩ := Prod.mk.inj (Outcome.ok.inj h)
  exact ⟨[], rfl, fun _ => rfl⟩

/-- A reader that never succeeds has nothing to show. -/
theorem local_fail (description : String) :
    Local fun _ => (fail description : Outcome DecodeError (α × Bytes)) := by
  intro bs a rest h
  exact absurd h (by simp [fail])

/-- One local reader after the other. -/
theorem Local.bind {read : Reader α} {next : α → Reader β} (hread : Local read)
    (hnext : ∀ a, Local (next a)) :
    Local fun bs => (do
      let (a, rest) ← read bs
      next a rest) := by
  intro bs b rest h
  obtain ⟨⟨a, rest₁⟩, h₁, h₂⟩ := Outcome.bind_eq_ok.mp h
  obtain ⟨used₁, rfl, hmore₁⟩ := hread h₁
  obtain ⟨used₂, rfl, hmore₂⟩ := hnext a h₂
  refine ⟨used₁ ++ used₂, (List.append_assoc _ _ _).symm, fun more => ?_⟩
  rw [List.append_assoc]
  exact Outcome.bind_eq_ok.mpr ⟨(a, used₂ ++ more), hmore₁ _, hmore₂ more⟩

/-- A choice that does not look at the buffer. -/
theorem Local.ite {p : Prop} [Decidable p] {read read' : Reader α} (h : Local read)
    (h' : Local read') : Local fun bs => if p then read bs else read' bs := by
  by_cases hp : p
  · simp only [if_pos hp]
    exact h
  · simp only [if_neg hp]
    exact h'

/-- The errors play no part. -/
theorem Local.mapErr {read : Reader α} (f : DecodeError → DecodeError) (h : Local read) :
    Local fun bs => Outcome.mapErr f (read bs) := by
  intro bs a rest hread
  obtain ⟨used, hbs, hmore⟩ := h (Outcome.mapErr_eq_ok.mp hread)
  exact ⟨used, hbs, fun more => Outcome.mapErr_eq_ok.mpr (hmore more)⟩

/-- A reader that drops what it reads. -/
theorem Local.skip {read : Reader α} (h : Local read) :
    LocalSkip fun bs => (do
      let (_, rest) ← read bs
      pure rest) := by
  intro bs rest hskip
  obtain ⟨⟨a, rest₁⟩, h₁, h₂⟩ := Outcome.bind_eq_ok.mp hskip
  obtain rfl := Outcome.ok.inj h₂
  obtain ⟨used, hbs, hmore⟩ := h h₁
  exact ⟨used, hbs, fun more => Outcome.bind_eq_ok.mpr ⟨(a, more), hmore more, rfl⟩⟩

/-- Code that skips, as a reader of nothing new. -/
theorem LocalSkip.reads {skip : Bytes → Outcome DecodeError Bytes} (h : LocalSkip skip) (a : α) :
    Local fun bs => (do
      let rest ← skip bs
      pure (a, rest)) := by
  intro bs b rest hread
  obtain ⟨rest₁, h₁, h₂⟩ := Outcome.bind_eq_ok.mp hread
  obtain ⟨rfl, rfl⟩ := Prod.mk.inj (Outcome.ok.inj h₂)
  obtain ⟨used, hbs, hmore⟩ := h h₁
  exact ⟨used, hbs, fun more => Outcome.bind_eq_ok.mpr ⟨more, hmore more, rfl⟩⟩

/-! ## The readers are local

A varint says with its last byte that it ends, and a delimited value with its length how long it is;
keys and the readers of fields are made of these.
-/

theorem local_readVarintWithin : ∀ k, Local (readVarintWithin k)
  | 0 => by
    intro bs n rest h
    cases bs <;> exact absurd h (by simp [readVarintWithin, fail])
  | k + 1 => by
    intro bs n rest h
    cases bs with
    | nil => exact absurd h (by simp [readVarintWithin, fail])
    | cons b bs =>
      simp only [readVarintWithin] at h
      split at h
      · -- the high bit is clear: this is the last byte
        rename_i hlt
        obtain ⟨rfl, rfl⟩ := Prod.mk.inj (Outcome.ok.inj h)
        exact ⟨[b], rfl, fun more => by simp [readVarintWithin, hlt]⟩
      · rename_i hge
        obtain ⟨⟨n', rest'⟩, h₁, h₂⟩ := Outcome.bind_eq_ok.mp h
        obtain ⟨rfl, rfl⟩ := Prod.mk.inj (Outcome.ok.inj h₂)
        obtain ⟨used, rfl, hmore⟩ := local_readVarintWithin k h₁
        exact ⟨b :: used, rfl, fun more => by simp [readVarintWithin, hge, hmore]⟩

theorem local_readVarint : Local readVarint := by
  have hnext : ∀ n : Nat, Local fun rest =>
      if n < 2 ^ 64 then .ok (n, rest) else fail "invalid varint" := fun n =>
    (local_pure n).ite (local_fail _)
  exact (local_readVarintWithin 10).bind hnext

/-- A key is a varint of 32 bits that names a wire type and a tag other than zero. -/
theorem readKey_eq_ok {bs rest : Bytes} {tag : Nat} {wireType : WireType} :
    readKey bs = .ok ((tag, wireType), rest) ↔ ∃ key, readVarint bs = .ok (key, rest) ∧
      key < 2 ^ 32 ∧ WireType.ofCode (key % 8) = some wireType ∧ key / 8 ≠ 0 ∧ key / 8 = tag := by
  unfold readKey
  rw [Outcome.bind_eq_ok]
  constructor
  · rintro ⟨⟨key, rest'⟩, hkey, h⟩
    dsimp only at h
    split at h
    · rename_i hlt
      split at h
      · exact absurd h (by simp [fail])
      · rename_i wireType' hcode
        split at h
        · exact absurd h (by simp [fail])
        · rename_i hzero
          obtain ⟨hpair, rfl⟩ := Prod.mk.inj (Outcome.ok.inj h)
          obtain ⟨htag, rfl⟩ := Prod.mk.inj hpair
          exact ⟨key, hkey, hlt, hcode, hzero, htag⟩
    · exact absurd h (by simp [fail])
  · rintro ⟨key, hkey, hlt, hcode, hzero, rfl⟩
    refine ⟨(key, rest), hkey, ?_⟩
    simp only [if_pos hlt, hcode, if_neg hzero]
    rfl

theorem local_readKey : Local readKey := by
  rintro bs ⟨tag, wireType⟩ rest h
  obtain ⟨key, hkey, hrest⟩ := readKey_eq_ok.mp h
  obtain ⟨used, rfl, hused⟩ := local_readVarint hkey
  exact ⟨used, rfl, fun more => readKey_eq_ok.mpr ⟨key, hused more, hrest⟩⟩

theorem local_take (n : Nat) : Local (take n) := by
  intro bs a rest h
  unfold take at h ⊢
  split at h
  · rename_i hle
    obtain ⟨rfl, rfl⟩ := Prod.mk.inj (Outcome.ok.inj h)
    refine ⟨bs.take n, (List.take_append_drop n bs).symm, fun more => ?_⟩
    have hlen : (bs.take n).length = n := List.length_take_of_le hle
    rw [if_pos (by rw [List.length_append, hlen]; exact Nat.le_add_right _ _)]
    rw [List.take_append_of_le_length (Nat.le_of_eq hlen.symm), List.take_of_length_le
      (Nat.le_of_eq hlen), List.drop_left' hlen]
  · exact absurd h (by simp [fail])

theorem local_readDelimited : Local readDelimited := local_readVarint.bind local_take

theorem Local.expect {read : Reader α} (h : Local read) (expected wireType : WireType) :
    Local (expect expected read wireType) :=
  h.ite (local_fail _)

/-- A string is a delimited value that is valid UTF-8. -/
theorem readUtf8_eq_ok {bs rest : Bytes} {s : String} : readUtf8 bs = .ok (s, rest) ↔
    ∃ bytes, readDelimited bs = .ok (bytes, rest) ∧
      String.fromUTF8? ⟨bytes.toArray⟩ = some s := by
  unfold readUtf8
  rw [Outcome.bind_eq_ok]
  constructor
  · rintro ⟨⟨bytes, rest'⟩, hbytes, h⟩
    dsimp only at h
    split at h
    · rename_i s' hs
      obtain ⟨rfl, rfl⟩ := Prod.mk.inj (Outcome.ok.inj h)
      exact ⟨bytes, hbytes, hs⟩
    · exact absurd h (by simp [fail])
  · rintro ⟨bytes, hbytes, hs⟩
    refine ⟨(bytes, rest), hbytes, ?_⟩
    simp only [hs]
    rfl

theorem local_readUtf8 : Local readUtf8 := by
  intro bs s rest h
  obtain ⟨bytes, hbytes, hs⟩ := readUtf8_eq_ok.mp h
  obtain ⟨used, rfl, hused⟩ := local_readDelimited hbytes
  exact ⟨used, rfl, fun more => readUtf8_eq_ok.mpr ⟨bytes, hused more, hs⟩⟩

theorem local_readString (wireType : WireType) : Local (readString wireType) :=
  local_readUtf8.expect _ wireType

theorem local_readUint64 (wireType : WireType) : Local (readUint64 wireType) :=
  Local.expect (local_readVarint.bind fun n => local_pure (UInt64.ofNat n)) _ wireType

theorem local_readMessage (wireType : WireType) : Local (readMessage wireType) :=
  local_readDelimited.expect _ wireType

/-! ## Skipping is local

`skip_field` recurses into groups, and the model runs it on fuel with the tags of the groups that
are open. `closeGroups` is the same without the fuel, by its equations `closeGroups_nil` and
`closeGroups_cons`.
-/

theorem readVarintWithin_ne_nil {k n : Nat} {bs rest : Bytes}
    (h : readVarintWithin k bs = .ok (n, rest)) : bs ≠ [] := by
  rintro rfl
  cases k <;> exact absurd h (by simp [readVarintWithin, fail])

/-- A key takes at least a byte. -/
theorem readKey_ne_nil {key : Nat × WireType} {bs rest : Bytes}
    (h : readKey bs = .ok (key, rest)) : bs ≠ [] := by
  obtain ⟨⟨n, rest₁⟩, h₁, -⟩ := Outcome.bind_eq_ok.mp h
  obtain ⟨⟨n', rest₂⟩, h₂, -⟩ := Outcome.bind_eq_ok.mp h₁
  exact readVarintWithin_ne_nil h₂

/-- A key is read off the front, and it is not empty. -/
theorem exists_of_readKey {key : Nat × WireType} {bs rest : Bytes}
    (h : readKey bs = .ok (key, rest)) : ∃ used, used ≠ [] ∧ bs = used ++ rest ∧
      ∀ more, readKey (used ++ more) = .ok (key, more) := by
  obtain ⟨used, rfl, hmore⟩ := local_readKey h
  refine ⟨used, ?_, rfl, hmore⟩
  have hnil := readKey_ne_nil (hmore [])
  rwa [List.append_nil] at hnil

theorem localSkip_skipValue : ∀ wireType, LocalSkip (skipValue wireType)
  | .varint => local_readVarint.skip
  | .sixtyFourBit => (local_take 8).skip
  | .lengthDelimited => local_readDelimited.skip
  | .startGroup => fun _ _ h => absurd h (by simp [skipValue, fail])
  | .endGroup => fun _ _ h => absurd h (by simp [skipValue, fail])
  | .thirtyTwoBit => (local_take 4).skip

/-- Fuel for the length of the buffer is enough. -/
theorem skipGroups_fuel {limit : Nat} : ∀ {fuel fuel' : Nat} {groups : List Nat} {bs : Bytes},
    bs.length ≤ fuel → bs.length ≤ fuel' →
      skipGroups limit fuel groups bs = skipGroups limit fuel' groups bs
  | _, _, [], _, _, _ => by simp only [skipGroups]
  | 0, 0, _ :: _, _, _, _ => rfl
  | 0, _ + 1, _ :: _, bs, h, _ => by
    obtain rfl := List.eq_nil_of_length_eq_zero (Nat.le_zero.mp h)
    rfl
  | _ + 1, 0, _ :: _, bs, _, h => by
    obtain rfl := List.eq_nil_of_length_eq_zero (Nat.le_zero.mp h)
    rfl
  | fuel + 1, fuel' + 1, group :: groups, bs, h, h' => by
    simp only [skipGroups]
    cases hkey : readKey bs with
    | err e => rfl
    | panic p => rfl
    | ok x =>
      obtain ⟨⟨tag, wireType⟩, rest⟩ := x
      obtain ⟨key, hne, rfl, -⟩ := exists_of_readKey hkey
      have hpos : 0 < key.length := List.length_pos_iff.mpr hne
      rw [List.length_append] at h h'
      -- a key takes a byte, so what is left is short enough for the fuel that is left
      have hrest : rest.length ≤ fuel ∧ rest.length ≤ fuel' := by omega
      simp only [Outcome.ok_bind]
      rw [skipGroups_fuel hrest.1 hrest.2, skipGroups_fuel hrest.1 hrest.2]
      cases hvalue : skipValue wireType rest with
      | err e => rfl
      | panic p => rfl
      | ok rest' =>
        obtain ⟨used, rfl, -⟩ := localSkip_skipValue wireType hvalue
        rw [List.length_append] at hrest
        simp only [Outcome.ok_bind]
        rw [skipGroups_fuel (by omega : rest'.length ≤ fuel) (by omega : rest'.length ≤ fuel')]

/-- Past the end of every open group. -/
def closeGroups (limit : Nat) (groups : List Nat) (bs : Bytes) : Outcome DecodeError Bytes :=
  skipGroups limit bs.length groups bs

theorem closeGroups_nil (limit : Nat) (bs : Bytes) : closeGroups limit [] bs = .ok bs := by
  simp only [closeGroups, skipGroups]

/-- `closeGroups` without the fuel. -/
theorem closeGroups_cons (limit group : Nat) (groups : List Nat) (bs : Bytes) :
    closeGroups limit (group :: groups) bs = (do
      let ((tag, wireType), rest) ← readKey bs
      if wireType = .endGroup then
        if tag = group then closeGroups limit groups rest else fail "unexpected end group tag"
      else if limit ≤ groups.length + 1 then fail "recursion limit reached"
      else if wireType = .startGroup then closeGroups limit (tag :: group :: groups) rest
      else do
        let rest ← skipValue wireType rest
        closeGroups limit (group :: groups) rest) := by
  have hfuel : closeGroups limit (group :: groups) bs =
      skipGroups limit (bs.length + 1) (group :: groups) bs :=
    skipGroups_fuel (Nat.le_refl _) (Nat.le_succ _)
  rw [hfuel, skipGroups]
  cases hkey : readKey bs with
  | err e => rfl
  | panic p => rfl
  | ok x =>
    obtain ⟨⟨tag, wireType⟩, rest⟩ := x
    obtain ⟨key, -, rfl, -⟩ := exists_of_readKey hkey
    have hrest : rest.length ≤ (key ++ rest).length := by
      rw [List.length_append]
      exact Nat.le_add_left _ _
    simp only [Outcome.ok_bind]
    rw [skipGroups_fuel hrest (Nat.le_refl _), skipGroups_fuel hrest (Nat.le_refl _)]
    cases hvalue : skipValue wireType rest with
    | err e => rfl
    | panic p => rfl
    | ok rest' =>
      obtain ⟨used, rfl, -⟩ := localSkip_skipValue wireType hvalue
      have hrest' : rest'.length ≤ (key ++ (used ++ rest')).length := by
        simp only [List.length_append]
        omega
      simp only [Outcome.ok_bind]
      rw [skipGroups_fuel hrest' (Nat.le_refl _)]
      rfl

/-- The end of the open groups is found in the bytes up to it. -/
theorem localSkip_closeGroups (limit : Nat) (groups : List Nat) :
    LocalSkip (closeGroups limit groups) := by
  -- by induction on the fuel of one run, for the groups that are open in it
  have hrun : ∀ {fuel : Nat} {groups : List Nat} {bs rest : Bytes},
      skipGroups limit fuel groups bs = .ok rest → ∃ used, bs = used ++ rest ∧
        ∀ more, closeGroups limit groups (used ++ more) = .ok more := by
    intro fuel
    induction fuel with
    | zero =>
      intro groups bs rest h
      cases groups with
      | nil =>
        simp only [skipGroups] at h
        obtain rfl := Outcome.ok.inj h
        exact ⟨[], rfl, closeGroups_nil limit⟩
      | cons group groups => exact absurd h (by simp [skipGroups, fail])
    | succ fuel ih =>
      intro groups bs rest h
      cases groups with
      | nil =>
        simp only [skipGroups] at h
        obtain rfl := Outcome.ok.inj h
        exact ⟨[], rfl, closeGroups_nil limit⟩
      | cons group groups =>
        simp only [skipGroups] at h
        obtain ⟨⟨⟨tag, wireType⟩, rest₁⟩, hkey, hbody⟩ := Outcome.bind_eq_ok.mp h
        obtain ⟨key, -, rfl, hkey'⟩ := exists_of_readKey hkey
        dsimp only at hbody
        split at hbody
        · -- the key ends a group, which has to be the innermost one
          rename_i hend
          split at hbody
          · rename_i htag
            obtain ⟨used, rfl, hmore⟩ := ih hbody
            refine ⟨key ++ used, (List.append_assoc _ _ _).symm, fun more => ?_⟩
            rw [List.append_assoc, closeGroups_cons, hkey', Outcome.ok_bind]
            dsimp only
            rw [if_pos hend, if_pos htag]
            exact hmore more
          · exact absurd hbody (by simp [fail])
        · rename_i hend
          split at hbody
          · exact absurd hbody (by simp [fail])
          · rename_i hlimit
            split at hbody
            · -- a group opens within the others
              rename_i hstart
              obtain ⟨used, rfl, hmore⟩ := ih hbody
              refine ⟨key ++ used, (List.append_assoc _ _ _).symm, fun more => ?_⟩
              rw [List.append_assoc, closeGroups_cons, hkey', Outcome.ok_bind]
              dsimp only
              rw [if_neg hend, if_neg hlimit, if_pos hstart]
              exact hmore more
            · -- a value is skipped, then the rest
              rename_i hstart
              obtain ⟨rest₂, hvalue, hskip⟩ := Outcome.bind_eq_ok.mp hbody
              obtain ⟨value, rfl, hvalue'⟩ := localSkip_skipValue wireType hvalue
              obtain ⟨used, rfl, hmore⟩ := ih hskip
              refine ⟨key ++ (value ++ used), by simp only [List.append_assoc], fun more => ?_⟩
              rw [List.append_assoc, List.append_assoc, closeGroups_cons, hkey', Outcome.ok_bind]
              dsimp only
              rw [if_neg hend, if_neg hlimit, if_neg hstart, hvalue', Outcome.ok_bind]
              exact hmore more
  exact fun _ _ h => hrun h

/-- `skip_field` for a group and for anything else. -/
theorem skipField_eq (limit tag : Nat) (wireType : WireType) (bs : Bytes) :
    skipField limit tag wireType bs =
      if limit = 0 then fail "recursion limit reached"
      else if wireType = .startGroup then closeGroups limit [tag] bs
      else skipValue wireType bs := rfl

/-- An unknown field ends where its value does. -/
theorem localSkip_skipField (limit tag : Nat) (wireType : WireType) :
    LocalSkip (skipField limit tag wireType) := by
  intro bs rest h
  simp only [skipField_eq] at h ⊢
  split at h
  · exact absurd h (by simp [fail])
  · rename_i hlimit
    simp only [if_neg hlimit]
    split at h
    · rename_i hstart
      simp only [if_pos hstart]
      exact localSkip_closeGroups limit [tag] h
    · rename_i hstart
      simp only [if_neg hstart]
      exact localSkip_skipValue wireType h

/-! ## Messages, concatenated

From here on `mergeField` is any that is local. `Merges` follows the fields of a buffer without the
fuel of `merge`, so the law is by induction on it.
-/

section Merge

variable {mergeField : M → Nat → WireType → Reader M} {m m₁ m₂ : M} {bs bs' : Bytes}

/-- Fuel for the length of the buffer is enough. -/
theorem mergeWithin_fuel (hlocal : ∀ m tag wireType, Local (mergeField m tag wireType)) :
    ∀ {fuel fuel' : Nat} {m : M} {bs : Bytes}, bs.length ≤ fuel → bs.length ≤ fuel' →
      mergeWithin mergeField fuel m bs = mergeWithin mergeField fuel' m bs
  | _, _, m, [], _, _ => by simp only [mergeWithin]
  | 0, _, _, _ :: _, h, _ => absurd h (by simp)
  | _ + 1, 0, _, _ :: _, _, h => absurd h (by simp)
  | fuel + 1, fuel' + 1, m, b :: bs, h, h' => by
    simp only [mergeWithin]
    cases hkey : readKey (b :: bs) with
    | err e => rfl
    | panic p => rfl
    | ok x =>
      obtain ⟨⟨tag, wireType⟩, rest⟩ := x
      obtain ⟨key, hne, hbs, -⟩ := exists_of_readKey hkey
      have hpos : 0 < key.length := List.length_pos_iff.mpr hne
      rw [hbs, List.length_append] at h h'
      simp only [Outcome.ok_bind]
      cases hfield : mergeField m tag wireType rest with
      | err e => rfl
      | panic p => rfl
      | ok y =>
        obtain ⟨m₁, rest₁⟩ := y
        -- the field may be empty, but its key is not
        obtain ⟨used, rfl, -⟩ := hlocal m tag wireType hfield
        rw [List.length_append] at h h'
        have hrest : rest₁.length ≤ fuel ∧ rest₁.length ≤ fuel' := by omega
        exact mergeWithin_fuel hlocal hrest.1 hrest.2

/-- **`merge` succeeds exactly on the buffers that are read field by field.** -/
theorem merge_eq_ok_iff (hlocal : ∀ m tag wireType, Local (mergeField m tag wireType)) :
    merge mergeField m bs = .ok m₁ ↔ Merges mergeField m bs m₁ := by
  have hrun : ∀ {fuel : Nat} {m : M} {bs : Bytes},
      mergeWithin mergeField fuel m bs = .ok m₁ → Merges mergeField m bs m₁ := by
    intro fuel
    induction fuel with
    | zero =>
      intro m bs h
      cases bs with
      | nil =>
        simp only [mergeWithin] at h
        obtain rfl := Outcome.ok.inj h
        exact Merges.nil m
      | cons b bs => exact absurd h (by simp [mergeWithin, fail])
    | succ fuel ih =>
      intro m bs h
      cases bs with
      | nil =>
        simp only [mergeWithin] at h
        obtain rfl := Outcome.ok.inj h
        exact Merges.nil m
      | cons b bs =>
        simp only [mergeWithin] at h
        obtain ⟨⟨⟨tag, wireType⟩, rest⟩, hkey, hbody⟩ := Outcome.bind_eq_ok.mp h
        obtain ⟨⟨m', rest₁⟩, hfield, hrest⟩ := Outcome.bind_eq_ok.mp hbody
        obtain ⟨key, hne, hbs, -⟩ := exists_of_readKey hkey
        obtain ⟨used, rfl, -⟩ := hlocal m tag wireType hfield
        have hpos : 0 < key.length := List.length_pos_iff.mpr hne
        refine Merges.field hkey hfield ?_ (ih hrest)
        rw [hbs, List.length_append, List.length_append]
        omega
  exact ⟨hrun, merge_of_merges⟩

/-- **Concatenation.** Behind a buffer that merges, more bytes merge into the result. -/
theorem merge_append (hlocal : ∀ m tag wireType, Local (mergeField m tag wireType))
    (h : merge mergeField m bs = .ok m₁) (bs' : Bytes) :
    merge mergeField m (bs ++ bs') = merge mergeField m₁ bs' := by
  have hm := (merge_eq_ok_iff hlocal).mp h
  clear h
  induction hm with
  | nil m => rfl
  | @field m m₁ m₂ bs rest rest₁ tag wireType hkey hfield hlt _ ih =>
    rw [← ih]
    obtain ⟨key, hne, rfl, hkey'⟩ := exists_of_readKey hkey
    obtain ⟨used, rfl, hfield'⟩ := hlocal m tag wireType hfield
    obtain ⟨b, key', rfl⟩ := List.exists_cons_of_ne_nil hne
    -- with more bytes behind it the first field is read as before, and leaves them where they are
    have hstep : merge mergeField m (b :: key' ++ (used ++ rest₁) ++ bs') =
        mergeWithin mergeField (key' ++ (used ++ rest₁) ++ bs').length m₁ (rest₁ ++ bs') := by
      show mergeWithin mergeField ((key' ++ (used ++ rest₁) ++ bs').length + 1) m
        (b :: (key' ++ (used ++ rest₁) ++ bs')) = _
      have hk : readKey (b :: (key' ++ (used ++ rest₁) ++ bs')) =
          .ok ((tag, wireType), used ++ (rest₁ ++ bs')) := by
        have := hkey' (used ++ (rest₁ ++ bs'))
        simpa only [List.cons_append, List.append_assoc] using this
      rw [mergeWithin, hk, Outcome.ok_bind]
      dsimp only
      rw [hfield', Outcome.ok_bind]
    rw [hstep]
    refine mergeWithin_fuel hlocal ?_ (Nat.le_refl _)
    simp only [List.length_append]
    omega

/-! ### One encoded field, merged into any message -/

variable {tag : Nat}

/-- A `string`; the empty one is left out and leaves the message as it is. -/
theorem merge_encodeString (m₁ : M) (h0 : 0 < tag) (h : tag < 2 ^ 29) {s : String}
    (hlen : (encodeString tag s).length < 2 ^ 64)
    (hfield : ∀ bs, readString .lengthDelimited bs = .ok (s, []) →
      mergeField m tag .lengthDelimited bs = .ok (m₁, [])) :
    merge mergeField m (encodeString tag s) = .ok (if s = "" then m else m₁) := by
  rw [← List.append_nil (encodeString tag s)]
  by_cases hs : s = ""
  · subst hs
    rw [encodeString, if_pos rfl, if_pos rfl]
    exact merge_of_merges (Merges.nil m)
  · rw [if_neg hs]
    exact merge_of_merges
      (Merges.string m₁ h0 h hlen hfield (fun he => absurd he hs) (Merges.nil m₁))

/-- A `uint64`, likewise. -/
theorem merge_encodeUint64 (m₁ : M) (h0 : 0 < tag) (h : tag < 2 ^ 29) {n : UInt64}
    (hfield : ∀ bs, readUint64 .varint bs = .ok (n, []) →
      mergeField m tag .varint bs = .ok (m₁, [])) :
    merge mergeField m (encodeUint64 tag n) = .ok (if n = 0 then m else m₁) := by
  rw [← List.append_nil (encodeUint64 tag n)]
  by_cases hn : n = 0
  · subst hn
    rw [encodeUint64, if_pos rfl, if_pos rfl]
    exact merge_of_merges (Merges.nil m)
  · rw [if_neg hn]
    exact merge_of_merges (Merges.uint64 m₁ h0 h hfield (fun he => absurd he hn) (Merges.nil m₁))

/-- A message within the message. -/
theorem merge_encodeDelimited (m₁ : M) (h0 : 0 < tag) (h : tag < 2 ^ 29) {bytes : Bytes}
    (hlen : (encodeDelimited tag bytes).length < 2 ^ 64)
    (hfield : ∀ bs, readMessage .lengthDelimited bs = .ok (bytes, []) →
      mergeField m tag .lengthDelimited bs = .ok (m₁, [])) :
    merge mergeField m (encodeDelimited tag bytes) = .ok m₁ := by
  rw [← List.append_nil (encodeDelimited tag bytes)]
  exact merge_of_merges (Merges.message m₁ h0 h hlen hfield (Merges.nil m₁))

end Merge

end Proto3

import GraphcastSdk.Lib.LastWrite

/-!
# Maps that keep the first write

As in `LastWrite`, each event of a list writes at most one key, but a key that is there keeps its
value: `or_insert`. `lookup_keep`: a key holds the first value written at it.
-/

namespace FirstWrite

open LastWrite (writtenBy)

variable {κ ν ε : Type} [DecidableEq κ] (write : ε → Option (κ × ν))

/-- One event. -/
def record (m : HashMap κ ν) (e : ε) : HashMap κ ν :=
  match write e with
  | some (k, v) => if k ∈ m then m else m.insert k v
  | none => m

/-- The events in order. -/
def keep (m : HashMap κ ν) (es : List ε) : HashMap κ ν := es.foldl (record write) m

variable {write}

theorem lookup_record (m : HashMap κ ν) (e : ε) (k : κ) :
    (record write m e).lookup k = (m.lookup k).or (writtenBy write k e) := by
  unfold record writtenBy
  cases write e with
  | none => exact Option.or_none.symm
  | some kv =>
    obtain ⟨k', v⟩ := kv
    dsimp only
    by_cases hmem : k' ∈ m
    · rw [if_pos hmem]
      by_cases hk : k = k'
      · subst hk
        obtain ⟨w, hw⟩ := Finmap.mem_iff.mp hmem
        rw [hw, Option.some_or]
      · rw [if_neg hk, Option.or_none]
    · rw [if_neg hmem, HashMap.lookup_insert_ite]
      by_cases hk : k = k'
      · subst hk
        rw [if_pos rfl, if_pos rfl, Finmap.lookup_eq_none.mpr hmem, Option.none_or]
      · rw [if_neg hk, if_neg hk, Option.or_none]

/-- **The first write wins.** -/
theorem lookup_keep (es : List ε) (m : HashMap κ ν) (k : κ) :
    (keep write m es).lookup k = (m.lookup k).or (es.findSome? (writtenBy write k)) := by
  induction es generalizing m with
  | nil => exact Option.or_none.symm
  | cons e es ih =>
    show (keep write (record write m e) es).lookup k = _
    rw [ih, lookup_record, Option.or_assoc, List.findSome?_cons]
    cases writtenBy write k e with
    | none => rw [Option.none_or]
    | some v => rw [Option.some_or]

end FirstWrite

import GraphcastSdk.Lib.Prelude
import Mathlib.Data.List.Perm.Basic

/-!
# Maps filled by writes in order

Each event of a list writes at most one key; `fill` takes the events in order, a later write
replacing an earlier one. `written k` are the values written at `k`.

* `lookup_fill`: a key holds the last value written at it.
* `lookup_fill_eq_some`: the event that wrote it is followed by none that writes the key.
* `lookup_fill_perm`: whatever the values written at a key agree on does not depend on the order.
-/

namespace LastWrite

variable {κ ν ε : Type} [DecidableEq κ] (write : ε → Option (κ × ν))

/-- One event. -/
def record (m : HashMap κ ν) (e : ε) : HashMap κ ν :=
  match write e with
  | some (k, v) => m.insert k v
  | none => m

/-- The events in order. -/
def fill (m : HashMap κ ν) (es : List ε) : HashMap κ ν := es.foldl (record write) m

/-- What an event writes at `k`. -/
def writtenBy (k : κ) (e : ε) : Option ν :=
  match write e with
  | some (k', v) => if k = k' then some v else none
  | none => none

/-- The values written at `k`, in order. -/
def written (k : κ) (es : List ε) : List ν := es.filterMap (writtenBy write k)

variable {write}

theorem lookup_record (m : HashMap κ ν) (e : ε) (k : κ) :
    (record write m e).lookup k = (writtenBy write k e).or (m.lookup k) := by
  unfold record writtenBy
  split
  · rename_i k' v h
    rw [HashMap.lookup_insert_ite]
    split_ifs with hk <;> rfl
  · rfl

/-- **The last write wins.** -/
theorem lookup_fill : ∀ (es : List ε) (m : HashMap κ ν) (k : κ),
    (fill write m es).lookup k = (written write k es).getLast?.or (m.lookup k)
  | [], m, k => rfl
  | e :: es, m, k => by
    show (fill write (record write m e) es).lookup k = _
    rw [lookup_fill es, lookup_record, ← Option.or_assoc]
    unfold written
    rw [List.filterMap_cons]
    cases writtenBy write k e with
    | none => rw [Option.or_none]
    | some v => rw [List.getLast?_cons]; cases (es.filterMap _).getLast? <;> rfl

theorem mem_written {k : κ} {v : ν} {es : List ε} :
    v ∈ written write k es ↔ ∃ e ∈ es, writtenBy write k e = some v :=
  List.mem_filterMap

/-- A key is in the map iff some event writes it. -/
theorem exists_lookup_fill {k : κ} {es : List ε} :
    (∃ v, (fill write ∅ es).lookup k = some v) ↔ ∃ e ∈ es, ∃ v, writtenBy write k e = some v := by
  rw [lookup_fill, Finmap.lookup_empty, Option.or_none]
  constructor
  · rintro ⟨v, h⟩
    obtain ⟨e, he, hv⟩ := mem_written.mp (List.mem_of_getLast? h)
    exact ⟨e, he, v, hv⟩
  · rintro ⟨e, he, v, hv⟩
    have hne : written write k es ≠ [] := List.ne_nil_of_mem (mem_written.mpr ⟨e, he, hv⟩)
    exact ⟨_, List.getLast?_eq_some_getLast hne⟩

/-- **The value at a key was written by an event that no other write of the key follows.** -/
theorem lookup_fill_eq_some {k : κ} {v : ν} {es : List ε} :
    (fill write ∅ es).lookup k = some v ↔
      ∃ es₁ e es₂, es = es₁ ++ e :: es₂ ∧ writtenBy write k e = some v ∧
        ∀ e' ∈ es₂, writtenBy write k e' = none := by
  rw [lookup_fill, Finmap.lookup_empty, Option.or_none]
  constructor
  · intro h
    obtain ⟨vs, hvs⟩ := List.getLast?_eq_some_iff.mp h
    obtain ⟨l₁, l₂, rfl, -, h₂⟩ := List.filterMap_eq_append_iff.mp hvs
    obtain ⟨l₃, e, l₄, rfl, h₃, he, h₄⟩ := List.filterMap_eq_cons_iff.mp h₂
    refine ⟨l₁ ++ l₃, e, l₄, by simp, he, fun e' he' => ?_⟩
    exact List.filterMap_eq_nil_iff.mp h₄ e' he'
  · rintro ⟨es₁, e, es₂, rfl, he, hnone⟩
    have hnil : es₂.filterMap (writtenBy write k) = [] := List.filterMap_eq_nil_iff.mpr hnone
    unfold written
    rw [List.filterMap_append, List.filterMap_cons_some he, hnil, List.getLast?_concat]

/-- **Order does not matter to what all values written at a key agree on.** -/
theorem lookup_fill_perm {β : Type} {f : ν → β} {k : κ} {es es' : List ε} (hp : es'.Perm es)
    (hf : ∀ v ∈ written write k es, ∀ w ∈ written write k es, f v = f w) :
    ((fill write ∅ es').lookup k).map f = ((fill write ∅ es).lookup k).map f := by
  have hmem : ∀ v, v ∈ written write k es' ↔ v ∈ written write k es := fun v => by
    rw [mem_written, mem_written]
    exact exists_congr fun e => and_congr_left fun _ => hp.mem_iff
  simp only [lookup_fill, Finmap.lookup_empty, Option.or_none]
  cases h : (written write k es).getLast? with
  | none =>
    have hnil : written write k es = [] := List.getLast?_eq_none_iff.mp h
    have hnil' : written write k es' = [] :=
      List.eq_nil_iff_forall_not_mem.mpr fun v hv => by
        rw [hmem, hnil] at hv
        exact absurd hv (by simp)
    rw [hnil']
    rfl
  | some v =>
    have hv := List.mem_of_getLast? h
    have hne : written write k es' ≠ [] := List.ne_nil_of_mem ((hmem v).mpr hv)
    have hlast := List.getLast?_eq_some_getLast hne
    rw [hlast, Option.map_some, Option.map_some]
    exact congrArg some (hf _ ((hmem _).mp (List.getLast_mem hne)) v hv)

end LastWrite

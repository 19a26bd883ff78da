import GraphcastSdk.Lib.CallTrace
import GraphcastSdk.Lib.Run
import Mathlib.Algebra.Order.BigOperators.Group.Finset
import Mathlib.Data.Fintype.Pi
import Mathlib.Order.WellFounded

/-!
# Threads that take locks

A thread works on a task, which is a list of operations: it takes and frees locks, and does other
things. A lock that somebody holds is waited for. Threads start on new tasks when they like.

Tasks that take locks in increasing order only, and free all of them, do not deadlock:

* `exists_go`: as long as a task is unfinished, some thread can go on with its own;
* `exists_drained`: from every state reached, all tasks can be finished, and then all locks are
  free; `length_add_remaining`: that takes as many steps as there are operations left, in whatever
  order.

A panic frees the locks of its thread and poisons them; `rest_run` says that operations which no
task has are not done.

`Orders spared held x` says that code which starts with the locks `held` keeps to the order, ends
with the same locks and does not panic under a lock of `spared`; it has a rule for each way to
compose code, and `kept_of_performs` carries this over to its tasks.
-/

namespace Locks

/-- What a thread does: an operation on a lock, or anything else. -/
inductive Op (L : Type) where
  | lock (l : L)
  /-- `poisoned` when a panic frees it. -/
  | unlock (l : L) (poisoned : Bool)
  | work
  deriving Repr, DecidableEq

/-- The locks that a thread holds, and what is left of its task. -/
structure Thread (L : Type) where
  held : List L
  rest : List (Op L)
  deriving Repr, DecidableEq

/-- Between two tasks. -/
def Thread.idle {L : Type} : Thread L := ⟨[], []⟩

inductive Event (ι L : Type) where
  /-- A thread that has no task starts on one. -/
  | start (i : ι) (task : List (Op L))
  /-- A thread does its next operation. -/
  | go (i : ι)
  deriving DecidableEq

section Machine

variable {ι L : Type} [DecidableEq ι] [Fintype ι] [DecidableEq L]

/-- The threads. -/
abbrev System (ι L : Type) := ι → Thread L

/-- Nobody holds the lock. -/
abbrev Free (s : System ι L) (l : L) : Prop := ∀ i, l ∉ (s i).held

def step (s : System ι L) : Event ι L → Option (System ι L)
  | .start i task =>
    if (s i).rest = [] then some (Function.update s i { s i with rest := task }) else none
  | .go i =>
    match (s i).rest with
    | [] => none
    | .lock l :: rest =>
      if Free s l then some (Function.update s i ⟨l :: (s i).held, rest⟩) else none
    | .unlock l _ :: rest => some (Function.update s i ⟨(s i).held.erase l, rest⟩)
    | .work :: rest => some (Function.update s i { s i with rest })

/-- A thread's next operation, with what makes it possible. -/
inductive Goes (s : System ι L) (i : ι) : System ι L → Prop
  | lock {l : L} {rest : List (Op L)} (hrest : (s i).rest = .lock l :: rest) (hfree : Free s l) :
    Goes s i (Function.update s i ⟨l :: (s i).held, rest⟩)
  | unlock {l : L} {poisoned : Bool} {rest : List (Op L)}
    (hrest : (s i).rest = .unlock l poisoned :: rest) :
    Goes s i (Function.update s i ⟨(s i).held.erase l, rest⟩)
  | work {rest : List (Op L)} (hrest : (s i).rest = .work :: rest) :
    Goes s i (Function.update s i { s i with rest })

theorem step_go_eq_some {s s' : System ι L} {i : ι} : step s (.go i) = some s' ↔ Goes s i s' := by
  constructor
  · intro h
    simp only [step] at h
    split at h
    · exact absurd h (by simp)
    · rename_i hrest
      split at h
      · rename_i hfree
        exact Option.some.inj h ▸ .lock hrest hfree
      · exact absurd h (by simp)
    · rename_i hrest
      exact Option.some.inj h ▸ .unlock hrest
    · rename_i hrest
      exact Option.some.inj h ▸ .work hrest
  · intro h
    cases h with
    | lock hrest hfree => simp only [step, hrest, if_pos hfree]
    | unlock hrest => simp only [step, hrest]
    | work hrest => simp only [step, hrest]

end Machine

/-! ## Tasks in order -/

section Ordered

variable {L : Type} [DecidableEq L] [LT L]

/-- From the locks `held`, the operations take greater locks only and free all of them. -/
def Ordered : List L → List (Op L) → Prop
  | held, [] => held = []
  | held, .lock l :: rest => (∀ h ∈ held, h < l) ∧ Ordered (l :: held) rest
  | held, .unlock l _ :: rest => l ∈ held ∧ Ordered (held.erase l) rest
  | held, .work :: rest => Ordered held rest

/-- Operations that keep to the order and end with the locks they start with. -/
def Orderly (held : List L) (ops : List (Op L)) : Prop :=
  ∀ rest, Ordered held rest → Ordered held (ops ++ rest)

theorem Orderly.nil (held : List L) : Orderly held [] := fun _ h => h

theorem Orderly.append {held : List L} {ops ops' : List (Op L)} (h : Orderly held ops)
    (h' : Orderly held ops') : Orderly held (ops ++ ops') := by
  intro rest hrest
  rw [List.append_assoc]
  exact h _ (h' rest hrest)

/-- A lock above those held, taken and freed again. -/
theorem Orderly.bracket {held : List L} {l : L} {poisoned : Bool} {ops : List (Op L)}
    (hl : ∀ h ∈ held, h < l) (h : Orderly (l :: held) ops) :
    Orderly held (.lock l :: (ops ++ [.unlock l poisoned])) := by
  intro rest hrest
  refine ⟨hl, ?_⟩
  show Ordered (l :: held) (ops ++ [.unlock l poisoned] ++ rest)
  rw [List.append_assoc]
  refine h _ ⟨List.mem_cons_self, ?_⟩
  rwa [List.erase_cons_head]

theorem Orderly.ordered {ops : List (Op L)} (h : Orderly [] ops) : Ordered [] ops := by
  have hnil := h [] rfl
  rwa [List.append_nil] at hnil

end Ordered

/-! ## No deadlock -/

section Progress

variable {ι L : Type} [DecidableEq L] [LT L] {s s' : System ι L}

/-- Every thread's task is in order, and no lock is held by two threads. -/
structure Inv (s : System ι L) : Prop where
  ordered : ∀ i, Ordered (s i).held (s i).rest
  exclusive : ∀ i j l, l ∈ (s i).held → l ∈ (s j).held → i = j

theorem inv_idle : Inv (fun _ : ι => (Thread.idle : Thread L)) where
  ordered _ := rfl
  exclusive i j l h := absurd h (by simp [Thread.idle])

/-- A thread that holds a lock is not done. -/
theorem Inv.rest_ne_nil (hi : Inv s) {i : ι} {l : L} (hl : l ∈ (s i).held) : (s i).rest ≠ [] := by
  intro hrest
  have horder := hi.ordered i
  rw [hrest] at horder
  rw [show (s i).held = [] from horder] at hl
  exact absurd hl (by simp)

variable [DecidableEq ι]

/-- A new state of one thread, which holds no lock that another one holds. -/
theorem Inv.update (hi : Inv s) (i : ι) {t : Thread L} (ht : Ordered t.held t.rest)
    (hheld : ∀ l ∈ t.held, l ∈ (s i).held ∨ Free s l) : Inv (Function.update s i t) := by
  have hother : ∀ j l, j ≠ i → l ∈ t.held → l ∉ (s j).held := by
    intro j l hj hl hmem
    rcases hheld l hl with h | h
    · exact hj (hi.exclusive j i l hmem h)
    · exact h j hmem
  refine ⟨fun j => ?_, fun j k l hjl hkl => ?_⟩
  · by_cases hj : j = i
    · subst hj
      rwa [Function.update_self]
    · rw [Function.update_of_ne hj]
      exact hi.ordered j
  · by_cases hj : j = i <;> by_cases hk : k = i
    · rw [hj, hk]
    · subst hj
      rw [Function.update_self] at hjl
      rw [Function.update_of_ne hk] at hkl
      exact absurd hkl (hother k l hk hjl)
    · subst hk
      rw [Function.update_self] at hkl
      rw [Function.update_of_ne hj] at hjl
      exact absurd hjl (hother j l hj hkl)
    · rw [Function.update_of_ne hj] at hjl
      rw [Function.update_of_ne hk] at hkl
      exact hi.exclusive j k l hjl hkl

variable [Fintype ι]

/-- Threads start on tasks in order. -/
def InOrder (e : Event ι L) : Prop := ∀ i task, e = .start i task → Ordered [] task

theorem inv_step {e : Event ι L} (he : InOrder e) (hi : Inv s) (h : step s e = some s') :
    Inv s' := by
  cases e with
  | start i task =>
    simp only [step] at h
    split at h
    · rename_i hrest
      obtain rfl := Option.some.inj h
      have hidle := hi.ordered i
      rw [hrest] at hidle
      refine hi.update i ?_ fun l hl => Or.inl hl
      show Ordered (s i).held task
      rw [show (s i).held = [] from hidle]
      exact he i task rfl
    · exact absurd h (by simp)
  | go i =>
    have horder := hi.ordered i
    cases step_go_eq_some.mp h with
    | lock hrest hfree =>
      rw [hrest] at horder
      refine hi.update i horder.2 fun k hk => ?_
      rcases List.mem_cons.mp hk with rfl | hk
      · exact Or.inr hfree
      · exact Or.inl hk
    | unlock hrest =>
      rw [hrest] at horder
      exact hi.update i horder.2 fun k hk => Or.inl (List.mem_of_mem_erase hk)
    | work hrest =>
      rw [hrest] at horder
      exact hi.update i horder fun k hk => Or.inl hk

/-- An unfinished thread that cannot go on waits for a lock above its own, which another one
holds. -/
theorem Inv.waits (hi : Inv s) {i : ι} (hrest : (s i).rest ≠ [])
    (hstuck : ∀ s', step s (.go i) ≠ some s') :
    ∃ l j, l ∈ (s j).held ∧ ∀ h ∈ (s i).held, h < l := by
  have horder := hi.ordered i
  cases hops : (s i).rest with
  | nil => exact absurd hops hrest
  | cons op rest =>
    rw [hops] at horder
    cases op with
    | lock l =>
      by_cases hfree : Free s l
      · exact absurd (step_go_eq_some.mpr (.lock hops hfree)) (hstuck _)
      · obtain ⟨j, hj⟩ := not_forall_not.mp hfree
        exact ⟨l, j, hj, horder.1⟩
    | unlock l poisoned => exact absurd (step_go_eq_some.mpr (.unlock hops)) (hstuck _)
    | work => exact absurd (step_go_eq_some.mpr (.work hops)) (hstuck _)

/-- **No deadlock.** -/
theorem exists_go [WellFoundedGT L] (hi : Inv s) (hrest : ∃ i, (s i).rest ≠ []) :
    ∃ i s', step s (.go i) = some s' := by
  by_contra hno
  have hstuck : ∀ i s', step s (.go i) ≠ some s' := fun i s' h => hno ⟨i, s', h⟩
  -- the holder of a lock waits for a greater one, whose holder waits for a greater one
  have hfree : ∀ l i, l ∉ (s i).held := by
    intro l
    induction l using WellFoundedGT.induction with
    | ind l ih =>
      intro i hl
      obtain ⟨l', j, hj, habove⟩ := hi.waits (hi.rest_ne_nil hl) (hstuck i)
      exact ih l' (habove l hl) j hj
  obtain ⟨i, hi'⟩ := hrest
  obtain ⟨l, j, hj, -⟩ := hi.waits hi' (hstuck i)
  exact hfree l j hj

/-- The operations that are left. -/
def remaining (s : System ι L) : Nat := ∑ i, (s i).rest.length

omit [DecidableEq L] [LT L] in
theorem remaining_update (i : ι) (t : Thread L) :
    remaining (Function.update s i t) + (s i).rest.length = remaining s + t.rest.length := by
  have hother : ∑ j ∈ Finset.univ.erase i, (Function.update s i t j).rest.length =
      ∑ j ∈ Finset.univ.erase i, (s j).rest.length :=
    Finset.sum_congr rfl fun j hj => by rw [Function.update_of_ne (Finset.ne_of_mem_erase hj)]
  unfold remaining
  rw [← Finset.add_sum_erase _ _ (Finset.mem_univ i), hother, Function.update_self,
    ← Finset.add_sum_erase Finset.univ (fun j => (s j).rest.length) (Finset.mem_univ i)]
  omega

omit [LT L] in
/-- Going on is one operation less. -/
theorem remaining_go {i : ι} (h : step s (.go i) = some s') : remaining s' + 1 = remaining s := by
  have hupdate : ∀ {op : Op L} (t : Thread L), (s i).rest = op :: t.rest →
      remaining (Function.update s i t) + 1 = remaining s := by
    intro op t hrest
    have hsum := remaining_update (s := s) i t
    rw [hrest, List.length_cons] at hsum
    omega
  cases step_go_eq_some.mp h with
  | lock hrest hfree => exact hupdate _ hrest
  | unlock hrest => exact hupdate _ hrest
  | work hrest => exact hupdate _ hrest

/-- Threads only go on. -/
def GoesOn (es : List (Event ι L)) : Prop := ∀ e ∈ es, ∃ i, e = .go i

omit [LT L] in
/-- However the threads go on, it takes as many steps as there are operations left. -/
theorem length_add_remaining : ∀ {es : List (Event ι L)} {s : System ι L}, GoesOn es →
    Run.run step s es = some s' → es.length + remaining s' = remaining s
  | [], s, _, h => by
    obtain rfl := Option.some.inj h
    exact Nat.zero_add _
  | e :: es, s, hes, h => by
    obtain ⟨s₁, h₁, h₂⟩ := Run.run_cons h
    obtain ⟨i, rfl⟩ := hes e List.mem_cons_self
    have hlen := length_add_remaining (fun e he => hes e (List.mem_cons_of_mem _ he)) h₂
    have hone := remaining_go h₁
    rw [List.length_cons]
    omega

/-- Threads that start on tasks in order only. -/
theorem inv_run {es : List (Event ι L)} (hes : ∀ e ∈ es, InOrder e)
    (hr : Run.run step (fun _ => Thread.idle) es = some s) : Inv s :=
  Run.run_invariant_of (fun _ _ _ hi he h => inv_step he hi h) inv_idle
    (Run.alongRun_of_forall fun _ => hes) hr

omit [LT L] in
/-- What no task has, no thread is about to do. -/
theorem rest_run {op : Op L} {es : List (Event ι L)}
    (hes : ∀ i task, .start i task ∈ es → op ∉ task)
    (hr : Run.run step (fun _ => Thread.idle) es = some s) (i : ι) : op ∉ (s i).rest := by
  have hstep : ∀ (t : System ι L) (e : Event ι L) (t' : System ι L), (∀ i, op ∉ (t i).rest) →
      (∀ i task, e = .start i task → op ∉ task) → step t e = some t' → ∀ i, op ∉ (t' i).rest := by
    intro t e t' ht he h
    have hupdate : ∀ {i : ι} {x : Thread L}, op ∉ x.rest →
        ∀ j, op ∉ (Function.update t i x j).rest := by
      intro i x hx j
      by_cases hj : j = i
      · subst hj
        rwa [Function.update_self]
      · rw [Function.update_of_ne hj]
        exact ht j
    cases e with
    | start i task =>
      simp only [step] at h
      split at h
      · exact Option.some.inj h ▸ hupdate (he i task rfl)
      · exact absurd h (by simp)
    | go i =>
      have hrest := ht i
      cases step_go_eq_some.mp h with
      | lock hops hfree => exact hupdate fun hmem => hrest (hops ▸ List.mem_cons_of_mem _ hmem)
      | unlock hops => exact hupdate fun hmem => hrest (hops ▸ List.mem_cons_of_mem _ hmem)
      | work hops => exact hupdate fun hmem => hrest (hops ▸ List.mem_cons_of_mem _ hmem)
  refine Run.run_invariant_of hstep (fun i => by simp [Thread.idle]) ?_ hr i
  exact Run.alongRun_of_forall fun _ e he i task h => hes i task (h ▸ he)

/-- **Every task can be finished**, and then all locks are free. -/
theorem exists_drained [WellFoundedGT L] (hi : Inv s) :
    ∃ es, GoesOn es ∧ Run.run step s es = some fun _ => Thread.idle := by
  induction hn : remaining s generalizing s with
  | zero =>
    have hnil : ∀ i, (s i).rest = [] := fun i =>
      List.length_eq_zero_iff.mp (Finset.sum_eq_zero_iff.mp hn i (Finset.mem_univ i))
    refine ⟨[], by simp [GoesOn], congrArg some (funext fun i => ?_)⟩
    have horder := hi.ordered i
    rw [hnil i] at horder
    exact (congrArg (Thread.mk · _) horder).trans (congrArg _ (hnil i))
  | succ n ih =>
    have hrest : ∃ i, (s i).rest ≠ [] := by
      by_contra hno
      have hzero : remaining s = 0 := Finset.sum_eq_zero fun i _ =>
        List.length_eq_zero_iff.mpr (not_not.mp (not_exists.mp hno i))
      omega
    obtain ⟨i, s₁, h₁⟩ := exists_go hi hrest
    have hone := remaining_go h₁
    obtain ⟨es, hes, hrun⟩ := ih (inv_step (by simp [InOrder]) hi h₁) (by omega)
    refine ⟨.go i :: es, ?_, ?_⟩
    · exact List.forall_mem_cons.mpr ⟨⟨i, rfl⟩, hes⟩
    · simp only [Run.run, h₁, Option.bind_some, hrun]

end Progress

/-! ## Code that takes locks -/

section Code

open Calls (Calling Service Traces)

variable {L ρ ε α β : Type}

/-- A lock held while `body` runs, however it ends; `body` gets what the lock protects. -/
def withLock (l : L) (body : ρ → Calling (Op L) ρ ε α) : Calling (Op L) ρ ε α :=
  fun service made =>
    let run := body (service made (.lock l)) service (made ++ [.lock l])
    (run.1, run.2 ++ [.unlock l run.1.isPanic])

/-- A task that the code may come to, by what it finds under the locks. -/
def Performs (x : Calling (Op L) ρ ε α) (task : List (Op L)) : Prop :=
  ∃ service, (x service []).2 = task

/-- What holds of the operations under a lock, and then of these between its own two. -/
theorem traces_withLock {service : Service (Op L) ρ} {l : L} {body : ρ → Calling (Op L) ρ ε α}
    {Q R : List (Op L) → Outcome ε α → Prop}
    (h : ∀ r, Traces service (body r) fun trace o => Q (trace.map Prod.fst) o)
    (hQ : ∀ ops o, Q ops o → R (.lock l :: (ops ++ [.unlock l o.isPanic])) o) :
    Traces service (withLock l body) fun trace o => R (trace.map Prod.fst) o := by
  intro made
  obtain ⟨trace, hmade, hans, hq⟩ := h (service made (.lock l)) (made ++ [.lock l])
  rcases hrun : body (service made (.lock l)) service (made ++ [.lock l]) with ⟨o, made'⟩
  rw [hrun] at hmade hq
  obtain rfl : made' = made ++ [.lock l] ++ trace.map Prod.fst := hmade
  have hlock : withLock l body service made =
      (o, made ++ [.lock l] ++ trace.map Prod.fst ++ [.unlock l o.isPanic]) := by
    simp only [withLock, hrun]
  refine ⟨(.lock l, service made (.lock l)) :: (trace ++ [(.unlock l o.isPanic,
    service (made ++ [.lock l] ++ trace.map Prod.fst) (.unlock l o.isPanic))]), ?_, ?_, ?_⟩
  · simp [hlock]
  · exact ⟨rfl, hans.append ⟨rfl, trivial⟩⟩
  · rw [hlock]
    show R (.lock l :: (trace ++ [_]).map Prod.fst) o
    rw [List.map_append]
    exact hQ _ _ hq

/-! ### Code that does not panic -/

def Calm (x : Calling (Op L) ρ ε α) : Prop :=
  ∀ service made, (x service made).1.isPanic = false

theorem Calm.lift {x : Outcome ε α} (h : x.isPanic = false) :
    Calm (Calls.lift x : Calling (Op L) ρ ε α) := fun _ _ => h

theorem Calm.pure (a : α) : Calm (Pure.pure a : Calling (Op L) ρ ε α) := fun _ _ => rfl

theorem Calm.bind {x : Calling (Op L) ρ ε α} {f : α → Calling (Op L) ρ ε β} (hx : Calm x)
    (hf : ∀ a, Calm (f a)) : Calm (x >>= f) := by
  intro service made
  have hcalm := hx service made
  rcases hrun : x service made with ⟨o, made'⟩
  rw [hrun] at hcalm
  cases o with
  | ok a => rw [Calls.bind_of_ok hrun]; exact hf a service made'
  | err e => rw [Calls.bind_of_err hrun]; rfl
  | panic p => exact absurd hcalm (by simp [Outcome.isPanic])

theorem Calm.withLock {l : L} {body : ρ → Calling (Op L) ρ ε α} (h : ∀ r, Calm (body r)) :
    Calm (withLock l body) := fun service _ => h _ service _

/-! ### Code that keeps to the order -/

variable [DecidableEq L] [LT L]

/-- Operations in order, among which no panic frees a lock of `spared`. -/
def Kept (spared : L → Prop) (held : List L) (ops : List (Op L)) : Prop :=
  Orderly held ops ∧ ∀ l, spared l → .unlock l true ∉ ops

/-- From the locks `held` the code keeps to the order, ends with the same locks, and does not panic
under a lock of `spared`. -/
def Orders (spared : L → Prop) (held : List L) (x : Calling (Op L) ρ ε α) : Prop :=
  ∀ service, Traces service x fun trace _ => Kept spared held (trace.map Prod.fst)

variable {spared : L → Prop} {held : List L}

theorem Kept.nil : Kept spared held [] := ⟨Orderly.nil held, by simp⟩

theorem Kept.append {ops ops' : List (Op L)} (h : Kept spared held ops)
    (h' : Kept spared held ops') : Kept spared held (ops ++ ops') := by
  refine ⟨h.1.append h'.1, fun l hl hmem => ?_⟩
  rcases List.mem_append.mp hmem with hmem | hmem
  · exact h.2 l hl hmem
  · exact h'.2 l hl hmem

theorem Kept.bracket {l : L} {poisoned : Bool} {ops : List (Op L)} (hl : ∀ h ∈ held, h < l)
    (hpoisoned : spared l → poisoned = false) (h : Kept spared (l :: held) ops) :
    Kept spared held (.lock l :: (ops ++ [.unlock l poisoned])) := by
  refine ⟨h.1.bracket hl, fun k hk hmem => ?_⟩
  rw [List.mem_cons, List.mem_append, List.mem_singleton] at hmem
  rcases hmem with hmem | hmem | hmem
  · exact absurd hmem (by simp)
  · exact h.2 k hk hmem
  · obtain ⟨rfl, htrue⟩ := Op.unlock.inj hmem
    exact absurd (htrue.trans (hpoisoned hk)) (by simp)

namespace Orders

theorem pure (a : α) : Orders spared held (Pure.pure a : Calling (Op L) ρ ε α) := fun _ =>
  Traces.pure a Kept.nil

theorem lift (x : Outcome ε α) : Orders spared held (Calls.lift x : Calling (Op L) ρ ε α) :=
  fun _ => Traces.lift x Kept.nil

theorem work : Orders spared held (Calls.call .work : Calling (Op L) ρ ε ρ) := fun _ =>
  Traces.call _ fun _ => ⟨fun _ h => h, by simp⟩

theorem bind {x : Calling (Op L) ρ ε α} {f : α → Calling (Op L) ρ ε β} (hx : Orders spared held x)
    (hf : ∀ a, Orders spared held (f a)) : Orders spared held (x >>= f) := fun service =>
  Traces.bind_of_append (R := fun trace => Kept spared held (trace.map Prod.fst))
    (fun _ _ h h' => by rw [List.map_append]; exact h.append h') (hx service)
      fun a => hf a service

theorem forEach {body : α → Calling (Op L) ρ ε Unit} (h : ∀ a, Orders spared held (body a)) :
    ∀ as : List α, Orders spared held (Calls.forEach body as)
  | [] => pure ()
  | a :: as => bind (h a) fun _ => forEach h as

theorem attempt {ε' : Type} {x : Calling (Op L) ρ ε α} (h : Orders spared held x) :
    Orders spared held (Calls.attempt x : Calling (Op L) ρ ε' _) := fun service =>
  Traces.attempt (R := fun trace => Kept spared held (trace.map Prod.fst)) (h service)

/-- **The rule for locks**: the lock is above those held, and nothing panics under it if it is to
be spared. -/
theorem withLock {l : L} {body : ρ → Calling (Op L) ρ ε α} (hl : ∀ h ∈ held, h < l)
    (hcalm : spared l → ∀ r, Calm (body r)) (h : ∀ r, Orders spared (l :: held) (body r)) :
    Orders spared held (Locks.withLock l body) := by
  intro service
  refine traces_withLock (R := fun ops _ => Kept spared held ops)
    (Q := fun ops o => Kept spared (l :: held) ops ∧ (spared l → o.isPanic = false)) (fun r => ?_)
    fun ops o hops => hops.1.bracket hl hops.2
  intro made
  obtain ⟨trace, hmade, hans, hkept⟩ := h r service made
  exact ⟨trace, hmade, hans, hkept, fun hs => hcalm hs r service made⟩

end Orders

/-- The calls of such code are a task in order. -/
theorem kept_of_performs {x : Calling (Op L) ρ ε α} {task : List (Op L)} (h : Orders spared held x)
    (hx : Performs x task) : Kept spared held task := by
  obtain ⟨service, rfl⟩ := hx
  obtain ⟨trace, hmade, -, hkept⟩ := h service []
  rwa [hmade, List.nil_append]

/-- A lock that is not taken again under itself is poisoned exactly when its code panics. -/
theorem poisons_iff {l : L} {body : ρ → Calling (Op L) ρ ε α} {service : Service (Op L) ρ}
    (h : ∀ r, Orders (· = l) (l :: held) (body r)) :
    .unlock l true ∈ (withLock l body service []).2 ↔
      (withLock l body service []).1.isPanic = true := by
  obtain ⟨trace, hmade, -, hkept⟩ := h (service [] (.lock l)) service [.lock l]
  show _ ∈ (body (service [] (.lock l)) service [.lock l]).2 ++ [.unlock l _] ↔ _
  rw [hmade, List.mem_append, List.mem_append, List.mem_singleton, List.mem_singleton]
  constructor
  · rintro ((hmem | hmem) | hmem)
    · exact absurd hmem (by simp)
    · exact absurd hmem (hkept.2 l rfl)
    · exact (Op.unlock.inj hmem).2.symm
  · intro hpanic
    exact Or.inr (congrArg _ hpanic.symm)

end Code

end Locks

import Pdr.StoreProgram.Program
import Mathlib.Logic.Function.Basic

/-!
# Programs among others

Any number of programs share one state. A step picks one of them, makes its next call
against the state and hands it the answer; which program is picked next is nobody's
decision, so a law about the system is a law about every run.

A run is recorded step by step together with the states around each step. What a single
program did in it is the part of the record that carries its index, and that part is one
of the histories the program follows by itself. Facts about one scenario therefore need
only its text, and facts about the state need only the steps between two moments.

## Main definitions

* `StoreProgram.Step`: one call of one program, its answer and the states around it.
* `StoreProgram.Runs`: the runs of a family of programs over a shared state.
* `StoreProgram.historyOf`: what one program did in a run.
* `StoreProgram.play`: the run that a list of picks produces.

## Main results

* `StoreProgram.Runs.follows`: in every run each program follows its own history.
* `StoreProgram.Runs.keeps`: what every step keeps, the run keeps.
* `StoreProgram.Runs.keeps_between`: what holds after one step holds before a later one,
  if the steps between them keep it.
* `StoreProgram.play_runs`: what `play` computes is a run.
-/

namespace StoreProgram

variable {ι Op : Type} {Answer : Op → Type} {ε α σ : Type}

/-- One step of a run: whose it was, the call with its answer, the states around it. -/
structure Step (ι : Type) {Op : Type} (Answer : Op → Type) (ε σ : Type) where
  thread : ι
  entry : Entry Answer ε
  before : σ
  after : σ

/-- The part of a record that belongs to one program. -/
def historyOf [DecidableEq ι] (i : ι) (steps : List (Step ι Answer ε σ)) : List (Entry Answer ε) :=
  (steps.filter (·.thread = i)).map (·.entry)

theorem historyOf_append [DecidableEq ι] (i : ι) (early late : List (Step ι Answer ε σ)) :
    historyOf i (early ++ late) = historyOf i early ++ historyOf i late := by
  rw [historyOf, List.filter_append, List.map_append, historyOf, historyOf]

theorem historyOf_cons_self [DecidableEq ι] (t : Step ι Answer ε σ)
    (steps : List (Step ι Answer ε σ)) :
    historyOf t.thread (t :: steps) = t.entry :: historyOf t.thread steps := by
  rw [historyOf, List.filter_cons_of_pos (by simp), List.map_cons, historyOf]

/-- How often a program made a step of some kind, counted in the record and in its history. -/
theorem count_threads [DecidableEq ι] {i : ι} {steps : List (Step ι Answer ε σ)}
    {chosen : Step ι Answer ε σ → Bool} {wanted : Entry Answer ε → Bool}
    (h : ∀ t : Step ι Answer ε σ, t.thread = i → chosen t = wanted t.entry) :
    ((steps.filter chosen).map (·.thread)).count i = (historyOf i steps).countP wanted := by
  induction steps with
  | nil => rfl
  | cons t steps ih =>
    by_cases hthread : t.thread = i
    · subst hthread
      rw [historyOf_cons_self, List.countP_cons, ← h t rfl, ← ih, List.filter_cons]
      split <;> simp [*]
    · have hother : historyOf i (t :: steps) = historyOf i steps := by
        rw [historyOf, List.filter_cons_of_neg (by simp [hthread]), historyOf]
      rw [hother, ← ih, List.filter_cons]
      split <;> simp [hthread]

/-- `Runs M pool s steps pool' s'`: taking `steps` one after another, the programs of
`pool` and the state `s` become those of `pool'` and the state `s'`. -/
inductive Runs [DecidableEq ι] (M : Machine Answer ε σ) :
    (ι → Program Answer ε α) → σ → List (Step ι Answer ε σ) → (ι → Program Answer ε α) → σ →
      Prop where
  | stop (pool : ι → Program Answer ε α) (s : σ) : Runs M pool s [] pool s
  | step {pool pool' : ι → Program Answer ε α} {s s' : σ} {steps : List (Step ι Answer ε σ)} (i : ι)
      {op : Op} {rest : Except ε (Answer op) → Program Answer ε α}
      (next : pool i = .call op rest) (ready : M.ready op s = true)
      (later : Runs M (Function.update pool i (rest (M.exec op s).1)) (M.exec op s).2
        steps pool' s') :
      Runs M pool s (⟨i, ⟨op, (M.exec op s).1⟩, s, (M.exec op s).2⟩ :: steps) pool' s'

/-- Where a program's history is cut at an entry, the record can be cut at its step. -/
theorem exists_cut [DecidableEq ι] {i : ι} {steps : List (Step ι Answer ε σ)}
    {early late : List (Entry Answer ε)} {entry : Entry Answer ε}
    (h : historyOf i steps = early ++ entry :: late) :
    ∃ before t after, steps = before ++ t :: after ∧ t.thread = i ∧ t.entry = entry ∧
      historyOf i before = early := by
  obtain ⟨mine, others, hsplit, rfl, hothers⟩ := List.map_eq_append_iff.1 h
  obtain ⟨t, rest, rfl, rfl, -⟩ := List.map_eq_cons_iff.1 hothers
  obtain ⟨before, later, rfl, rfl, hlater⟩ := List.filter_eq_append_iff.1 hsplit
  obtain ⟨skipped, after, rfl, hskipped, hthread, -⟩ := List.filter_eq_cons_iff.1 hlater
  refine ⟨before ++ skipped, t, after, by simp, of_decide_eq_true hthread, rfl, ?_⟩
  have hnone : skipped.filter (fun u => decide (u.thread = i)) = [] :=
    List.filter_eq_nil_iff.2 fun u hu => hskipped u hu
  rw [historyOf, List.filter_append, hnone, List.append_nil]

/-- The states of the record fit together: the first is `s`, the last is `s'`, and each
step leaves the state the next one finds. -/
def Linked (M : Machine Answer ε σ) : σ → List (Step ι Answer ε σ) → σ → Prop
  | s, [], s' => s = s'
  | s, t :: steps, s' =>
    t.before = s ∧ M.exec t.entry.op t.before = (t.entry.answer, t.after) ∧
      Linked M t.after steps s'

namespace Linked

variable {M : Machine Answer ε σ} {s s' : σ} {steps early late : List (Step ι Answer ε σ)}

theorem append : Linked M s (early ++ late) s' ↔
    ∃ between, Linked M s early between ∧ Linked M between late s' := by
  induction early generalizing s with
  | nil =>
    constructor
    · intro h
      exact ⟨s, rfl, h⟩
    · rintro ⟨between, rfl, h⟩
      exact h
  | cons t early ih =>
    simp only [List.cons_append, Linked, ih]
    constructor
    · rintro ⟨hbefore, hexec, between, hearly, hlate⟩
      exact ⟨between, ⟨hbefore, hexec, hearly⟩, hlate⟩
    · rintro ⟨between, ⟨hbefore, hexec, hearly⟩, hlate⟩
      exact ⟨hbefore, hexec, between, hearly, hlate⟩

theorem exec_eq (h : Linked M s steps s') {t : Step ι Answer ε σ} (ht : t ∈ steps) :
    M.exec t.entry.op t.before = (t.entry.answer, t.after) := by
  induction steps generalizing s with
  | nil => cases ht
  | cons first steps ih =>
    rcases List.mem_cons.1 ht with rfl | hlater
    · exact h.2.1
    · exact ih h.2.2 hlater

theorem keeps (h : Linked M s steps s') {P : σ → Prop}
    (kept : ∀ t ∈ steps, P t.before → P t.after) (start : P s) : P s' := by
  induction steps generalizing s with
  | nil => exact h ▸ start
  | cons t steps ih =>
    obtain ⟨hbefore, -, hlater⟩ := h
    refine ih hlater (fun u hu => kept u (List.mem_cons_of_mem t hu)) ?_
    exact kept t List.mem_cons_self (hbefore ▸ start)

end Linked

namespace Runs

variable [DecidableEq ι] {M : Machine Answer ε σ} {pool pool' : ι → Program Answer ε α} {s s' : σ}
  {steps : List (Step ι Answer ε σ)}

theorem linked (h : Runs M pool s steps pool' s') : Linked M s steps s' := by
  induction h with
  | stop pool s => rfl
  | step i next ready later ih => exact ⟨rfl, rfl, ih⟩

/-- In a run each program follows its own history. -/
theorem follows (h : Runs M pool s steps pool' s') (i : ι) :
    (pool i).Follows (historyOf i steps) (pool' i) := by
  induction h with
  | stop pool s => exact .stay _
  | @step pool pool' s s' steps j op rest next ready later ih =>
    by_cases hij : j = i
    · subst hij
      rw [Function.update_self] at ih
      rw [next]
      simp only [historyOf, List.filter_cons, decide_true, if_true, List.map_cons]
      exact .step ih
    · rw [Function.update_of_ne (Ne.symm hij)] at ih
      simpa only [historyOf, List.filter_cons, hij, decide_false, Bool.false_eq_true,
        if_false] using ih

theorem done_of_done (h : Runs M pool s steps pool' s') {i : ι} {value : α}
    (hdone : pool i = .done value) : pool' i = .done value := by
  have hfollows := h.follows i
  rw [hdone] at hfollows
  generalize pool' i = program at hfollows ⊢
  generalize historyOf i steps = history at hfollows
  cases hfollows
  rfl

theorem mem_historyOf {t : Step ι Answer ε σ} (ht : t ∈ steps) :
    t.entry ∈ historyOf t.thread steps :=
  List.mem_map_of_mem (List.mem_filter.2 ⟨ht, by simp⟩)

theorem exists_step {i : ι} {entry : Entry Answer ε} (h : entry ∈ historyOf i steps) :
    ∃ t ∈ steps, t.thread = i ∧ t.entry = entry := by
  obtain ⟨t, ht, rfl⟩ := List.mem_map.1 h
  obtain ⟨hmem, hthread⟩ := List.mem_filter.1 ht
  exact ⟨t, hmem, of_decide_eq_true hthread, rfl⟩

theorem only (h : Runs M pool s steps pool' s') {allowed : ι → Op → Prop}
    (hallowed : ∀ i, (pool i).Only (allowed i)) :
    ∀ t ∈ steps, allowed t.thread t.entry.op := fun t ht =>
  (h.follows t.thread).only (hallowed t.thread) t.entry (mem_historyOf ht)

/-- A record of two parts is a run of two parts. -/
theorem split {early late : List (Step ι Answer ε σ)}
    (h : Runs M pool s (early ++ late) pool' s') :
    ∃ between s₁, Runs M pool s early between s₁ ∧ Runs M between s₁ late pool' s' := by
  induction early generalizing pool s with
  | nil => exact ⟨pool, s, .stop pool s, h⟩
  | cons t early ih =>
    cases h with
    | step i next ready later =>
      obtain ⟨between, s₁, hearly, hlate⟩ := ih later
      exact ⟨between, s₁, .step i next ready hearly, hlate⟩

/-- Programs that keep their promises as long as the answers can be relied on, over an
invariant that makes the answers reliable and that kept promises preserve: the invariant
holds in the end, and every step kept its promise. -/
theorem honours (h : Runs M pool s steps pool' s') {promise : ι → Op → Prop}
    {rely : (op : Op) → Except ε (Answer op) → Prop} {P : σ → Prop}
    (hpool : ∀ i, (pool i).Honours (promise i) rely)
    (hrely : ∀ op s, P s → rely op (M.exec op s).1)
    (hkeep : ∀ t ∈ steps, promise t.thread t.entry.op → P t.before → P t.after)
    (start : P s) : P s' ∧ ∀ t ∈ steps, promise t.thread t.entry.op := by
  induction h with
  | stop pool s => exact ⟨start, by simp⟩
  | @step pool pool' s s' steps i op rest next ready later ih =>
    have hcall := hpool i
    rw [next] at hcall
    have hfirst := hkeep _ List.mem_cons_self hcall.1 start
    have hpool' : ∀ j, (Function.update pool i (rest (M.exec op s).1) j).Honours (promise j)
        rely := by
      intro j
      by_cases hij : j = i
      · subst hij
        rw [Function.update_self]
        exact hcall.2 _ (hrely op s start)
      · rw [Function.update_of_ne hij]
        exact hpool j
    obtain ⟨hlast, hsteps⟩ :=
      ih hpool' (fun t ht => hkeep t (List.mem_cons_of_mem _ ht)) hfirst
    refine ⟨hlast, fun t ht => ?_⟩
    rcases List.mem_cons.1 ht with rfl | ht
    · exact hcall.1
    · exact hsteps t ht

theorem exec_eq (h : Runs M pool s steps pool' s') {t : Step ι Answer ε σ} (ht : t ∈ steps) :
    M.exec t.entry.op t.before = (t.entry.answer, t.after) :=
  h.linked.exec_eq ht

theorem entry_eq (h : Runs M pool s steps pool' s') {t : Step ι Answer ε σ} (ht : t ∈ steps)
    {op : Op} (hop : t.entry.op = op) : t.entry = ⟨op, (M.exec op t.before).1⟩ := by
  subst hop
  rw [h.exec_eq ht]

theorem kept_step (h : Runs M pool s steps pool' s') {P : σ → Prop} (kept : M.Keeps P)
    {t : Step ι Answer ε σ} (ht : t ∈ steps) (before : P t.before) : P t.after :=
  kept.of_exec (h.exec_eq ht) before

/-- What every step keeps, the run keeps. -/
theorem keeps (h : Runs M pool s steps pool' s') {P : σ → Prop}
    (kept : ∀ t ∈ steps, P t.before → P t.after) (start : P s) : P s' :=
  h.linked.keeps kept start

/-- What holds after a step holds before a later one, if the steps between keep it. -/
theorem keeps_between {early middle late : List (Step ι Answer ε σ)} {t u : Step ι Answer ε σ}
    (h : Runs M pool s (early ++ t :: middle ++ u :: late) pool' s') {P : σ → Prop}
    (kept : ∀ v ∈ middle, P v.before → P v.after) (start : P t.after) : P u.before := by
  obtain ⟨between, hearly, hlate⟩ := Linked.append.1 h.linked
  obtain ⟨_, -, hstart⟩ := Linked.append.1 hearly
  obtain ⟨rfl, -⟩ := hlate
  exact hstart.2.2.keeps kept start

theorem keeps_after {early late : List (Step ι Answer ε σ)} {t : Step ι Answer ε σ}
    (h : Runs M pool s (early ++ t :: late) pool' s') {P : σ → Prop}
    (kept : ∀ v ∈ late, P v.before → P v.after) (start : P t.after) : P s' := by
  obtain ⟨_, -, hlate⟩ := Linked.append.1 h.linked
  exact hlate.2.2.keeps kept start

theorem keeps_before {early late : List (Step ι Answer ε σ)} {t : Step ι Answer ε σ}
    (h : Runs M pool s (early ++ t :: late) pool' s') {P : σ → Prop}
    (kept : ∀ v ∈ early, P v.before → P v.after) (start : P s) : P t.before := by
  obtain ⟨_, hearly, hlate⟩ := Linked.append.1 h.linked
  obtain ⟨rfl, -⟩ := hlate
  exact hearly.keeps kept start

end Runs

/-- Of two different steps of a record one comes first. -/
theorem exists_order {steps : List (Step ι Answer ε σ)} {t u : Step ι Answer ε σ} (ht : t ∈ steps)
    (hu : u ∈ steps) (hne : t ≠ u) :
    (∃ early middle late, steps = early ++ t :: middle ++ u :: late) ∨
      ∃ early middle late, steps = early ++ u :: middle ++ t :: late := by
  obtain ⟨early, late, rfl⟩ := List.append_of_mem ht
  rcases List.mem_append.1 hu with hearly | hlate
  · obtain ⟨first, middle, rfl⟩ := List.append_of_mem hearly
    exact Or.inr ⟨first, middle, late, rfl⟩
  · rcases List.mem_cons.1 hlate with rfl | hlate
    · exact absurd rfl hne
    · obtain ⟨middle, last, rfl⟩ := List.append_of_mem hlate
      exact Or.inl ⟨early, middle, last, by simp⟩

/-! ### Playing a list of picks -/

/-- Let the programs step in the order of `picks`. A pick of a program that is finished or
has to wait is skipped. -/
def play [DecidableEq ι] (M : Machine Answer ε σ) :
    List ι → (ι → Program Answer ε α) → σ → List (Step ι Answer ε σ) × (ι → Program Answer ε α) × σ
  | [], pool, s => ([], pool, s)
  | i :: picks, pool, s =>
    match pool i with
    | .call op rest =>
      if M.ready op s then
        let played := play M picks (Function.update pool i (rest (M.exec op s).1)) (M.exec op s).2
        (⟨i, ⟨op, (M.exec op s).1⟩, s, (M.exec op s).2⟩ :: played.1, played.2)
      else play M picks pool s
    | _ => play M picks pool s

theorem play_runs [DecidableEq ι] (M : Machine Answer ε σ) (picks : List ι)
    (pool : ι → Program Answer ε α) (s : σ) :
    Runs M pool s (play M picks pool s).1 (play M picks pool s).2.1
      (play M picks pool s).2.2 := by
  induction picks generalizing pool s with
  | nil => exact .stop pool s
  | cons i picks ih =>
    rw [play]
    split
    · rename_i op rest next
      split
      · rename_i ready
        exact .step i next ready (ih _ _)
      · exact ih pool s
    · exact ih pool s

end StoreProgram

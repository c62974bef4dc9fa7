import Pdr.StoreProgram.Sequence

/-!
# Checks and acts that are two calls

A program asks whether a thing is taken, and takes it by a later call if it is not. Nothing ties
the two calls together: a second program that asks between them is told that the thing is free,
and takes it too. The thing is taken at most once exactly if nobody asks between the question
and the taking of another.

## Main definitions

* `StoreProgram.Unraced`: nobody checks between the check and the act of a program.
* `StoreProgram.ChecksFirst`: who acts checked before, and found the thing free.

## Main results

* `StoreProgram.ChecksFirst.countP_le_one`: where nobody checks in between, one acts at most.
* `StoreProgram.ChecksFirst.countP_le_one_iff`: and only there, if who finds it free acts.
-/

namespace StoreProgram

variable {ι Op : Type} {Answer : Op → Type} {ε σ : Type} {M : Machine Answer ε σ} {s s' : σ}
  {steps early middle late : List (Step ι Answer ε σ)} {t u : Step ι Answer ε σ} {taken : σ → Prop}
  {checks acts : Step ι Answer ε σ → Bool}

/-- Between the check of a program and its act there is no other check. -/
def Unraced (checks acts : Step ι Answer ε σ → Bool) (steps : List (Step ι Answer ε σ)) : Prop :=
  ∀ early t middle u late, steps = early ++ t :: middle ++ u :: late → checks t = true →
    acts u = true → t.thread = u.thread → ∀ v ∈ middle, checks v = false

/-- What is taken stays so; who acts takes the thing, and is the only one who does; and the act
of a program, of which there is one, comes after a check of its own that found it free. -/
structure ChecksFirst (taken : σ → Prop) (checks acts : Step ι Answer ε σ → Bool)
    (steps : List (Step ι Answer ε σ)) : Prop where
  stays : ∀ t ∈ steps, taken t.before → taken t.after
  takes : ∀ t ∈ steps, acts t = true → taken t.after
  only : ∀ t ∈ steps, taken t.after → ¬ taken t.before → acts t = true
  checked : ∀ early u late, steps = early ++ u :: late → acts u = true →
    ∃ t ∈ early, t.thread = u.thread ∧ checks t = true ∧ ¬ taken t.before
  once : ∀ early t middle u late, steps = early ++ t :: middle ++ u :: late → acts t = true →
    acts u = true → t.thread ≠ u.thread

/-- Of a list in which more than one member is wanted, two are, one after the other. -/
theorem exists_two {α : Type} {wanted : α → Bool} {members : List α}
    (h : 1 < members.countP wanted) :
    ∃ early a middle b late, members = early ++ a :: middle ++ b :: late ∧ wanted a = true ∧
      wanted b = true := by
  induction members with
  | nil => simp at h
  | cons a members ih =>
    by_cases ha : wanted a = true
    · rw [List.countP_cons_of_pos ha] at h
      obtain ⟨b, hb, hwanted⟩ := List.countP_pos_iff.1 (Nat.lt_of_succ_lt_succ h)
      obtain ⟨middle, late, rfl⟩ := List.append_of_mem hb
      exact ⟨[], a, middle, b, late, rfl, ha, hwanted⟩
    · rw [List.countP_cons_of_neg ha] at h
      obtain ⟨early, b, middle, c, late, rfl, hb, hc⟩ := ih h
      exact ⟨a :: early, b, middle, c, late, rfl, hb, hc⟩

theorem one_lt_countP {α : Type} {wanted : α → Bool} {early middle late : List α} {a b : α}
    (ha : wanted a = true) (hb : wanted b = true) :
    1 < (early ++ a :: middle ++ b :: late).countP wanted := by
  simp only [List.countP_append, List.countP_cons_of_pos ha, List.countP_cons_of_pos hb]
  omega

theorem one_lt_countP_of_mem {wanted : Step ι Answer ε σ → Bool} (ht : t ∈ steps) (hu : u ∈ steps)
    (hne : t ≠ u) (htw : wanted t = true) (huw : wanted u = true) : 1 < steps.countP wanted := by
  rcases exists_order ht hu hne with ⟨a, m, z, rfl⟩ | ⟨a, m, z, rfl⟩
  · exact one_lt_countP htw huw
  · exact one_lt_countP huw htw

theorem threads_ne_of_countP_le_one [DecidableEq ι] {wanted : Entry Answer ε → Bool}
    (h : (historyOf t.thread (early ++ t :: middle ++ u :: late)).countP wanted ≤ 1)
    (ht : wanted t.entry = true) (hu : wanted u.entry = true) : t.thread ≠ u.thread := by
  intro hthread
  rw [historyOf_append, historyOf_append, historyOf_cons_self, hthread, historyOf_cons_self] at h
  exact Nat.not_lt.2 h (one_lt_countP ht hu)

/-- Where the first wanted entry of a script stands, it is reached with all before it. -/
theorem eq_of_append_cons_prefix {α : Type} {wanted : α → Bool} {before after pre post : List α}
    {a b : α} (h : before ++ a :: after <+: pre ++ b :: post) (ha : wanted a = true)
    (hpre : ∀ c ∈ pre, wanted c = false) (hpost : ∀ c ∈ post, wanted c = false) :
    before = pre := by
  obtain ⟨more, hmore⟩ := h
  rw [List.append_assoc, List.cons_append] at hmore
  rcases List.append_eq_append_iff.1 hmore with ⟨rest, rfl, hrest⟩ | ⟨rest, rfl, hrest⟩
  · rcases rest with _ | ⟨c, rest⟩
    · simp
    · obtain ⟨rfl, -⟩ := List.cons.inj hrest
      have hnot := hpre a (by simp)
      rw [ha] at hnot
      cases hnot
  · rcases rest with _ | ⟨c, rest⟩
    · simp
    · obtain ⟨rfl, rfl⟩ := List.cons.inj hrest
      have hnot := hpost a (by simp)
      rw [ha] at hnot
      cases hnot

namespace ChecksFirst

theorem taken_later (h : ChecksFirst taken checks acts (early ++ t :: middle ++ u :: late))
    (hlinked : Linked M s (early ++ t :: middle ++ u :: late) s') (ht : acts t = true) :
    taken u.before := by
  have hafter : taken t.after := h.takes t (by simp) ht
  rw [List.append_assoc, List.cons_append] at hlinked
  refine hlinked.holds_later (fun v hv => h.stays v ?_) hafter u (by simp)
  simp only [List.mem_append, List.mem_cons] at hv ⊢
  tauto

/-- **Where nobody checks between the check and the act of another, one acts at most.** -/
theorem countP_le_one (h : ChecksFirst taken checks acts steps) (hlinked : Linked M s steps s')
    (hunraced : Unraced checks acts steps) : steps.countP acts ≤ 1 := by
  by_contra hmore
  obtain ⟨early, t, middle, u, late, rfl, ht, hu⟩ := exists_two (Nat.lt_of_not_le hmore)
  have hthreads := h.once early t middle u late rfl ht hu
  obtain ⟨c, hc, hcthread, hcchecks, -⟩ := h.checked early t (middle ++ u :: late) (by simp) ht
  obtain ⟨d, hd, hdthread, hdchecks, hfree⟩ := h.checked (early ++ t :: middle) u late rfl hu
  have hne : c ≠ d := by
    rintro rfl
    exact hthreads (hcthread.symm.trans hdthread)
  rcases List.mem_append.1 hd with hdearly | hdlater
  · -- Both checks come before the first act; the first of them is overtaken by the second.
    rcases exists_order hc hdearly hne with ⟨a, b, r, rfl⟩ | ⟨a, b, r, rfl⟩
    · have hquiet := hunraced a c (b ++ d :: r) t (middle ++ u :: late) (by simp) hcchecks ht
        hcthread d (by simp)
      rw [hdchecks] at hquiet
      cases hquiet
    · have hquiet := hunraced a d (b ++ c :: r ++ t :: middle) u late (by simp) hdchecks hu
        hdthread c (by simp)
      rw [hcchecks] at hquiet
      cases hquiet
  · rcases List.mem_cons.1 hdlater with rfl | hdmiddle
    · exact hthreads hdthread
    · -- The second check comes after the first act, and cannot have found the thing free.
      obtain ⟨b, r, rfl⟩ := List.append_of_mem hdmiddle
      have hsplit : early ++ t :: (b ++ d :: r) ++ u :: late =
          early ++ t :: b ++ d :: (r ++ u :: late) := by simp
      rw [hsplit] at h hlinked
      exact hfree (h.taken_later hlinked ht)

/-- **When at most one acts.** If a program checks once, and acts after a check that found the
thing free, then at most one acts exactly where nobody checks between the check and the act of
another. -/
theorem countP_le_one_iff (h : ChecksFirst taken checks acts steps)
    (hlinked : Linked M s steps s')
    (honce : ∀ early t middle u late, steps = early ++ t :: middle ++ u :: late →
      checks t = true → checks u = true → t.thread ≠ u.thread)
    (hacts : ∀ t ∈ steps, checks t = true → ¬ taken t.before →
      ∃ u ∈ steps, u.thread = t.thread ∧ acts u = true) :
    steps.countP acts ≤ 1 ↔ Unraced checks acts steps := by
  refine ⟨fun hone => ?_, h.countP_le_one hlinked⟩
  rintro early t middle u late rfl ht hu hthread v hv
  rw [Bool.eq_false_iff]
  intro hchecks
  obtain ⟨b, r, rfl⟩ := List.append_of_mem hv
  refine Nat.not_lt.2 hone ?_
  by_cases htaken : taken v.before
  · -- Somebody acted after the check of `t`, which had found the thing free, and before `v`.
    obtain ⟨c, hc, hcthread, hcchecks, hfree⟩ :=
      h.checked (early ++ t :: (b ++ v :: r)) u late rfl hu
    have hsame : c.thread = t.thread := hcthread.trans hthread.symm
    obtain rfl : c = t := by
      by_contra hne
      rcases exists_order (List.mem_append_left _ hc) (by simp) hne with
        ⟨a, m, z, hsplit⟩ | ⟨a, m, z, hsplit⟩
      · exact honce a c m t z hsplit hcchecks ht hsame
      · exact honce a t m c z hsplit ht hcchecks hsame.symm
    have hrecord : Linked M s (early ++ c :: b ++ v :: (r ++ u :: late)) s' := by
      simpa using hlinked
    have hspan : Linked M c.before (c :: b) v.before := by
      have hfirst := hrecord.split.1
      have hcut := hfirst.split
      exact ⟨rfl, hcut.2.1, hcut.2.2⟩
    obtain ⟨first, w, last, hsplit, hwfree, hwtaken⟩ := hspan.exists_change hfree htaken
    have hw : acts w = true := by
      refine h.only w ?_ hwtaken hwfree
      have hmem : w ∈ c :: b := by
        rw [hsplit]
        simp
      simp only [List.mem_append, List.mem_cons] at hmem ⊢
      tauto
    have hshape : early ++ c :: (b ++ v :: r) ++ u :: late =
        (early ++ first) ++ w :: (last ++ v :: r) ++ u :: late := by
      have hpart : early ++ c :: (b ++ v :: r) = early ++ (c :: b) ++ v :: r := by simp
      rw [hpart, hsplit]
      simp
    rw [hshape]
    exact one_lt_countP hw hu
  · obtain ⟨w, hw, hwthread, hwacts⟩ := hacts v (by simp) hchecks htaken
    have hother : w ≠ u := by
      rintro rfl
      exact honce early t b v (r ++ w :: late) (by simp) ht hchecks
        (hthread.trans hwthread)
    exact one_lt_countP_of_mem hw (by simp) hother hwacts hu

end ChecksFirst

end StoreProgram

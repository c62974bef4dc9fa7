import Mathlib.Data.List.MinMax
import Pdr.Identity.Policies.Policy

/-!
# The combinators as maximum and first refusal

Answers are compared by how much they say: a refusal by the rank of its reason, and a permission
says more than any refusal. The loop of `anyOf` keeps the first of the greatest answers, beginning
with a seed that says no more than any other, so its answer does not depend on the order of the
parts, on repetitions and on nesting. The loop of `allOf` stops at the first refusal. Both only
grow with their parts, and so does every tree made of them.

## Main definitions

* `Pdr.Identity.PolicyDecision.weight`, `Pdr.Identity.PolicyDecision.refusal`: what is compared of
  an answer, and what an answer tells.
* `Pdr.Identity.Policy.IsProper`, `Pdr.Identity.Policy.IsPlain`: what refusals and permissions of a
  policy look like.
* `Pdr.Identity.Rule`, `Pdr.Identity.Rule.Widened`: trees, and a part replaced by a wider one.

## Main results

* `Pdr.Identity.Policy.argmax_answers`: the loop of `anyOf` as a greatest answer.
* `Pdr.Identity.Policy.combinators_are_a_lattice`: what trees of combinators answer.
-/

namespace Pdr.Identity

/-! ### Answers -/

namespace PolicyDecision

variable {first second : PolicyDecision}

/-- How much an answer says: a permission more than any refusal. -/
def weight (decision : PolicyDecision) : Nat := if decision.allowed then 8 else rank decision.reason

/-- What an answer tells: nothing for a permission, the reason for a refusal. -/
def refusal (decision : PolicyDecision) : Option DenyReason :=
  if decision.allowed then none else some decision.reason

/-- A refusal has a reason that is one. -/
def IsProper (decision : PolicyDecision) : Prop :=
  decision.allowed = false → decision.reason ≠ .allowed ∧ decision.reason ≠ .boundary

/-- A permission is the one that `Allowed` makes. -/
def IsPlain (decision : PolicyDecision) : Prop :=
  decision.allowed = true → decision = allowedDecision

theorem rank_le (reason : DenyReason) : rank reason ≤ 7 := by cases reason <;> decide

theorem eq_of_rank_eq {reason other : DenyReason} (h : reason ≠ .boundary) (h' : other ≠ .boundary)
    (hrank : rank reason = rank other) : reason = other := by
  cases reason <;> cases other <;> simp_all [rank]

theorem weight_le (decision : PolicyDecision) : decision.weight ≤ 8 := by
  unfold weight
  split
  · exact le_rfl
  · exact (rank_le _).trans (by omega)

theorem weight_eq_eight_iff : first.weight = 8 ↔ first.allowed = true := by
  have := rank_le first.reason
  unfold weight
  split
  · simp [*]
  · rename_i hrefused
    exact iff_of_false (by omega) hrefused

theorem IsProper.eq_seed (h : first.IsProper) (hle : first.weight ≤ 1) :
    first = denied .roleMissing := by
  obtain ⟨allowed, reason⟩ := first
  cases allowed with
  | true => simp [weight] at hle
  | false =>
    obtain ⟨hreason, -⟩ := h rfl
    cases reason <;> simp_all [weight, rank, denied]

/-- Answers that say as much tell the same. -/
theorem refusal_eq_of_weight_eq (hfirst : first.IsProper) (hsecond : second.IsProper)
    (h : first.weight = second.weight) : first.refusal = second.refusal := by
  have hallowed : first.allowed = true ↔ second.allowed = true := by
    rw [← weight_eq_eight_iff, ← weight_eq_eight_iff, h]
  unfold refusal
  by_cases hpermitted : first.allowed = true
  · rw [if_pos hpermitted, if_pos (hallowed.1 hpermitted)]
  · have hother := fun h => hpermitted (hallowed.2 h)
    rw [weight, weight, if_neg hpermitted, if_neg hother] at h
    rw [if_neg hpermitted, if_neg hother, eq_of_rank_eq (hfirst (by simpa using hpermitted)).2
      (hsecond (by simpa using hother)).2 h]

/-- Answers that tell the same are the same, if permissions are the usual one. -/
theorem eq_of_refusal_eq (hfirst : first.IsPlain) (hsecond : second.IsPlain)
    (h : first.refusal = second.refusal) : first = second := by
  unfold refusal at h
  split at h
  · rename_i hpermitted
    split at h
    · rename_i hother
      rw [hfirst hpermitted, hsecond hother]
    · cases h
  · rename_i hrefused
    split at h
    · cases h
    · rename_i hother
      rcases first with ⟨_ | _, reason⟩
      · rcases second with ⟨_ | _, other⟩
        · simpa using h
        · exact absurd rfl hother
      · exact absurd rfl hrefused

theorem same_of_weight_eq (hfirst : first.IsProper) (hsecond : second.IsProper)
    (h : first.weight = second.weight) :
    first.refusal = second.refusal ∧ (first.IsPlain → second.IsPlain → first = second) :=
  ⟨refusal_eq_of_weight_eq hfirst hsecond h, fun hplain hother =>
    eq_of_refusal_eq hplain hother (refusal_eq_of_weight_eq hfirst hsecond h)⟩

end PolicyDecision

namespace Policy

open PolicyDecision (weight refusal)

/-- Refusals of the policy have a reason that is one. -/
def IsProper (policy : Policy) : Prop :=
  ∀ subject action resource, (policy subject action resource).IsProper

/-- Permissions of the policy are the one that `Allowed` makes. -/
def IsPlain (policy : Policy) : Prop :=
  ∀ subject action resource, (policy subject action resource).IsPlain

variable {parts others front inner back : List Policy} {part : Policy} {subject : Subject}
  {action : Action} {resource : Resource}

/-! ### The greatest answer -/

/-- A round of the loop keeps the answer that says more. -/
theorem anyOf_round (best decision : PolicyDecision) :
    (if best.allowed then best
      else if decision.allowed || rank best.reason < rank decision.reason then decision
      else best) = if best.weight < decision.weight then decision else best := by
  have hbest := PolicyDecision.rank_le best.reason
  have hdecision := decision.weight_le
  unfold weight at hdecision ⊢
  by_cases hkept : best.allowed = true
  · simp only [hkept, if_true]
    rw [if_neg (by omega)]
  · by_cases hpermitted : decision.allowed = true
    · rw [if_neg hkept, if_pos (by simp [hpermitted]), if_neg hkept, if_pos hpermitted,
        if_pos (by omega)]
    · simp [hkept, hpermitted]

/-- **The loop of `anyOf`.** Its answer is the first of the greatest ones among the seed and the
answers of the parts. -/
theorem argmax_answers (parts : List Policy) (subject : Subject) (action : Action)
    (resource : Resource) :
    (denied .roleMissing :: parts.map (· subject action resource)).argmax weight =
      some (anyOf parts subject action resource) := by
  rw [anyOf, List.argmax, List.foldl_cons]
  change (parts.map (· subject action resource)).foldl _ (some (denied .roleMissing)) = _
  generalize denied .roleMissing = best
  induction parts generalizing best with
  | nil => rfl
  | cons part parts ih =>
    rw [List.map_cons, List.foldl_cons, List.foldl_cons]
    dsimp only
    rw [anyOf_round, ← ih]
    congr 1
    simp only [List.argAux]
    split <;> rfl

theorem weight_le_anyOf (hpart : part ∈ parts) :
    (part subject action resource).weight ≤ (anyOf parts subject action resource).weight :=
  List.le_of_mem_argmax (List.mem_cons_of_mem _ (List.mem_map.2 ⟨part, hpart, rfl⟩))
    (argmax_answers parts subject action resource)

/-- The answer is that of a part: the seed stays only if all the parts say what it says. -/
theorem exists_part (hne : parts ≠ []) (hproper : ∀ part ∈ parts, part.IsProper) :
    ∃ part ∈ parts, anyOf parts subject action resource = part subject action resource := by
  have hmem := List.argmax_mem (argmax_answers parts subject action resource)
  rcases List.mem_cons.1 hmem with hseed | hanswer
  · obtain ⟨part, parts, rfl⟩ := List.exists_cons_of_ne_nil hne
    refine ⟨part, List.mem_cons_self, hseed.trans (Eq.symm ?_)⟩
    refine (hproper part List.mem_cons_self subject action resource).eq_seed ?_
    have hle := @weight_le_anyOf (part :: parts) part subject action resource List.mem_cons_self
    rwa [hseed] at hle
  · obtain ⟨part, hpart, hanswer⟩ := List.mem_map.1 hanswer
    exact ⟨part, hpart, hanswer.symm⟩

/-- More is said by parts of which each part of the first list has one that says as much. -/
theorem weight_anyOf_le (hne : parts ≠ []) (hproper : ∀ part ∈ parts, part.IsProper)
    (h : ∀ part ∈ parts, ∃ other ∈ others,
      (part subject action resource).weight ≤ (other subject action resource).weight) :
    (anyOf parts subject action resource).weight ≤
      (anyOf others subject action resource).weight := by
  obtain ⟨part, hpart, hanswer⟩ := exists_part hne hproper
  obtain ⟨other, hother, hle⟩ := h part hpart
  rw [hanswer]
  exact hle.trans (weight_le_anyOf hother)

theorem isProper_anyOf (hne : parts ≠ []) (hproper : ∀ part ∈ parts, part.IsProper) :
    (anyOf parts).IsProper := by
  intro subject action resource
  obtain ⟨part, hpart, hanswer⟩ := exists_part hne hproper
  rw [hanswer]
  exact hproper part hpart subject action resource

theorem isPlain_anyOf (hne : parts ≠ []) (hproper : ∀ part ∈ parts, part.IsProper)
    (hplain : ∀ part ∈ parts, part.IsPlain) : (anyOf parts).IsPlain := by
  intro subject action resource
  obtain ⟨part, hpart, hanswer⟩ := exists_part hne hproper
  rw [hanswer]
  exact hplain part hpart subject action resource

/-- **Order and repetition do not matter.** -/
theorem weight_anyOf_congr (hne : parts ≠ []) (hproper : ∀ part ∈ parts, part.IsProper)
    (hsame : ∀ part, part ∈ others ↔ part ∈ parts) :
    (anyOf others subject action resource).weight =
      (anyOf parts subject action resource).weight := by
  obtain ⟨part, hpart⟩ := List.exists_mem_of_ne_nil parts hne
  refine le_antisymm (weight_anyOf_le (List.ne_nil_of_mem ((hsame part).2 hpart)) ?_ ?_)
    (weight_anyOf_le hne hproper ?_)
  · exact fun other hother => hproper other ((hsame other).1 hother)
  · exact fun other hother => ⟨other, (hsame other).1 hother, le_rfl⟩
  · exact fun other hother => ⟨other, (hsame other).2 hother, le_rfl⟩

theorem forall_mem_nested {P : Policy → Prop} (h : ∀ part ∈ front ++ (inner ++ back), P part)
    (hnested : P (anyOf inner)) : ∀ part ∈ front ++ anyOf inner :: back, P part := by
  intro part hpart
  rcases List.mem_append.1 hpart with hfront | hlater
  · exact h part (List.mem_append_left _ hfront)
  · rcases List.mem_cons.1 hlater with rfl | hback
    · exact hnested
    · exact h part (List.mem_append_right _ (List.mem_append_right _ hback))

/-- **Nesting does not matter.** -/
theorem weight_anyOf_nested (hne : inner ≠ [])
    (hproper : ∀ part ∈ front ++ (inner ++ back), part.IsProper) :
    (anyOf (front ++ anyOf inner :: back) subject action resource).weight =
      (anyOf (front ++ (inner ++ back)) subject action resource).weight := by
  have hinner : ∀ part ∈ inner, part.IsProper := fun part hpart =>
    hproper part (List.mem_append_right _ (List.mem_append_left _ hpart))
  refine le_antisymm (weight_anyOf_le (by simp)
    (forall_mem_nested hproper (isProper_anyOf hne hinner)) fun part hpart => ?_)
    (weight_anyOf_le (by simp [hne]) hproper fun part hpart => ?_)
  · rcases List.mem_append.1 hpart with hfront | hlater
    · exact ⟨part, List.mem_append_left _ hfront, le_rfl⟩
    · rcases List.mem_cons.1 hlater with rfl | hback
      · obtain ⟨best, hbest, hanswer⟩ := exists_part hne hinner
        exact ⟨best, List.mem_append_right _ (List.mem_append_left _ hbest), by rw [hanswer]⟩
      · exact ⟨part, List.mem_append_right _ (List.mem_append_right _ hback), le_rfl⟩
  · rcases List.mem_append.1 hpart with hfront | hlater
    · exact ⟨part, List.mem_append_left _ hfront, le_rfl⟩
    · rcases List.mem_append.1 hlater with hmiddle | hback
      · exact ⟨anyOf inner, by simp, weight_le_anyOf hmiddle⟩
      · exact ⟨part, by simp [hback], le_rfl⟩

/-! ### The first refusal -/

theorem foldl_of_refused (parts : List Policy) {decision : PolicyDecision}
    (h : decision.allowed = false) :
    parts.foldl (fun decision part =>
      if decision.allowed then part subject action resource else decision) decision =
        decision := by
  induction parts with
  | nil => rfl
  | cons part parts ih => rw [List.foldl_cons, h, if_neg (by decide), ih]

/-- **The loop of `allOf`.** Behind parts that allow, the first refusal is the answer. -/
theorem allOf_of_refused (hfront : ∀ other ∈ front, (other subject action resource).allowed = true)
    (hpart : (part subject action resource).allowed = false) :
    allOf (front ++ part :: back) subject action resource = part subject action resource := by
  have hpermitted : (allOf front subject action resource).allowed = true := by
    rw [allowed_allOf, List.all_eq_true]
    exact hfront
  rw [allOf] at hpermitted ⊢
  rw [List.foldl_append, List.foldl_cons, if_pos hpermitted, foldl_of_refused back hpart]

/-- A refusal of `allOf` is that of its first part that refuses. -/
theorem exists_first_refusal (h : (allOf parts subject action resource).allowed = false) :
    ∃ front part back, parts = front ++ part :: back ∧
      (∀ other ∈ front, (other subject action resource).allowed = true) ∧
      (part subject action resource).allowed = false ∧
      allOf parts subject action resource = part subject action resource := by
  rw [allowed_allOf, List.all_eq_false] at h
  obtain ⟨refusing, hrefusing, hrefused⟩ := h
  have hsome : (parts.find? fun part => !(part subject action resource).allowed).isSome = true :=
    List.find?_isSome.2 ⟨refusing, hrefusing, by simpa using hrefused⟩
  obtain ⟨part, hpart⟩ := Option.isSome_iff_exists.1 hsome
  obtain ⟨hfirst, front, back, rfl, hfront⟩ := List.find?_eq_some_iff_append.1 hpart
  have hallowed : ∀ other ∈ front, (other subject action resource).allowed = true := by
    simpa using hfront
  have hfails : (part subject action resource).allowed = false := by simpa using hfirst
  exact ⟨front, part, back, rfl, hallowed, hfails, allOf_of_refused hallowed hfails⟩

end Policy

/-! ### Trees -/

/-- A tree of combinators over policies. -/
inductive Rule where
  | leaf (policy : Policy)
  | allOf (parts : List Rule)
  | anyOf (parts : List Rule)

namespace Rule

/-- The policy that a tree is. -/
def policy : Rule → Policy
  | leaf policy => policy
  | allOf parts => Policy.allOf (parts.map policy)
  | anyOf parts => Policy.anyOf (parts.map policy)

/-- The second tree has one part of the first replaced, at any depth, by one that allows at least
what that part allows. -/
inductive Widened : Rule → Rule → Prop
  | part {first second : Rule} (h : ∀ subject action resource,
      (first.policy subject action resource).allowed = true →
        (second.policy subject action resource).allowed = true) : Widened first second
  | allOf {first second : Rule} (front back : List Rule) (h : Widened first second) :
      Widened (allOf (front ++ first :: back)) (allOf (front ++ second :: back))
  | anyOf {first second : Rule} (front back : List Rule) (h : Widened first second) :
      Widened (anyOf (front ++ first :: back)) (anyOf (front ++ second :: back))

/-- **Combinators only grow with their parts.** -/
theorem Widened.allowed {first second : Rule} (h : Widened first second) (subject : Subject)
    (action : Action) (resource : Resource)
    (hallowed : (first.policy subject action resource).allowed = true) :
    (second.policy subject action resource).allowed = true := by
  induction h with
  | part h => exact h subject action resource hallowed
  | allOf front back h ih =>
    simp only [policy, Policy.allowed_allOf, List.map_append, List.map_cons, List.all_append,
      List.all_cons, Bool.and_eq_true] at hallowed ⊢
    exact ⟨hallowed.1, ih hallowed.2.1, hallowed.2.2⟩
  | anyOf front back h ih =>
    simp only [policy, Policy.allowed_anyOf, List.map_append, List.map_cons, List.any_append,
      List.any_cons, Bool.or_eq_true] at hallowed ⊢
    exact hallowed.imp_right (Or.imp_left ih)

end Rule

namespace Policy

open PolicyDecision (refusal)

/-- **What combinators answer.** `anyOf` allows exactly if a part does, and else its answer is that
of a part whose reason has the highest rank; order, repetition and nesting change nothing in what
it tells, and nothing at all if permissions are the usual one. `allOf` allows exactly if all parts
do, and else gives the answer of the first that does not. In a tree of them, no permission is lost
when a part is replaced by one that allows more. -/
theorem combinators_are_a_lattice :
    (∀ parts : List Policy, parts ≠ [] → (∀ part ∈ parts, part.IsProper) →
      ∀ subject action resource,
        ((anyOf parts subject action resource).allowed = true ↔
          ∃ part ∈ parts, (part subject action resource).allowed = true) ∧
        ((anyOf parts subject action resource).allowed = false →
          ∃ part ∈ parts, anyOf parts subject action resource = part subject action resource ∧
            ∀ other ∈ parts, rank (other subject action resource).reason ≤
              rank (part subject action resource).reason) ∧
        (∀ others, (∀ part, part ∈ others ↔ part ∈ parts) →
          refusal (anyOf others subject action resource) =
            refusal (anyOf parts subject action resource) ∧
          ((∀ part ∈ parts, part.IsPlain) →
            anyOf others subject action resource = anyOf parts subject action resource)) ∧
        (∀ front inner back, inner ≠ [] → parts = front ++ (inner ++ back) →
          refusal (anyOf (front ++ anyOf inner :: back) subject action resource) =
            refusal (anyOf parts subject action resource) ∧
          ((∀ part ∈ parts, part.IsPlain) →
            anyOf (front ++ anyOf inner :: back) subject action resource =
              anyOf parts subject action resource)) ∧
        ((allOf parts subject action resource).allowed = true ↔
          ∀ part ∈ parts, (part subject action resource).allowed = true) ∧
        ((allOf parts subject action resource).allowed = false →
          ∃ front part back, parts = front ++ part :: back ∧
            (∀ other ∈ front, (other subject action resource).allowed = true) ∧
            (part subject action resource).allowed = false ∧
            allOf parts subject action resource = part subject action resource)) ∧
    ∀ first second, Rule.Widened first second → ∀ subject action resource,
      (first.policy subject action resource).allowed = true →
        (second.policy subject action resource).allowed = true := by
  refine ⟨fun parts hne hproper subject action resource => ⟨?_, ?_, ?_, ?_, ?_, ?_⟩,
    fun first second h => h.allowed⟩
  · simp [List.any_eq_true]
  · intro hrefused
    obtain ⟨part, hpart, hanswer⟩ := exists_part hne hproper
    refine ⟨part, hpart, hanswer, fun other hother => ?_⟩
    have hle := @weight_le_anyOf parts other subject action resource hother
    rw [allowed_anyOf, List.any_eq_false] at hrefused
    rwa [hanswer, PolicyDecision.weight, PolicyDecision.weight, if_neg (hrefused other hother),
      if_neg (hrefused part hpart)] at hle
  · intro others hsame
    obtain ⟨part, hpart⟩ := List.exists_mem_of_ne_nil parts hne
    have hsome : others ≠ [] := List.ne_nil_of_mem ((hsame part).2 hpart)
    have hothers : ∀ other ∈ others, other.IsProper := fun other hother =>
      hproper other ((hsame other).1 hother)
    obtain ⟨hrefusal, heq⟩ := PolicyDecision.same_of_weight_eq
      (isProper_anyOf hsome hothers subject action resource)
      (isProper_anyOf hne hproper subject action resource) (weight_anyOf_congr hne hproper hsame)
    refine ⟨hrefusal, fun hplain => heq ?_ ?_⟩
    · refine isPlain_anyOf hsome hothers (fun other hother => ?_) subject action resource
      exact hplain other ((hsame other).1 hother)
    · exact isPlain_anyOf hne hproper hplain subject action resource
  · rintro front inner back hinner rfl
    have hmiddle : ∀ part ∈ inner, part ∈ front ++ (inner ++ back) := fun part hpart =>
      List.mem_append_right _ (List.mem_append_left _ hpart)
    have hnested := forall_mem_nested hproper
      (isProper_anyOf hinner fun part hpart => hproper part (hmiddle part hpart))
    obtain ⟨hrefusal, heq⟩ := PolicyDecision.same_of_weight_eq
      (isProper_anyOf (by simp) hnested subject action resource)
      (isProper_anyOf hne hproper subject action resource) (weight_anyOf_nested hinner hproper)
    refine ⟨hrefusal, fun hplain => heq ?_ ?_⟩
    · refine isPlain_anyOf (by simp) hnested (forall_mem_nested hplain ?_) subject action resource
      exact isPlain_anyOf hinner (fun part hpart => hproper part (hmiddle part hpart))
        fun part hpart => hplain part (hmiddle part hpart)
    · exact isPlain_anyOf hne hproper hplain subject action resource
  · simp [List.all_eq_true]
  · exact exists_first_refusal

/-- A tutor who is not tied to what he asks about. -/
def tutorOfOthers : Subject :=
  ⟨⟨Vector.replicate 16 1⟩, ⟨Vector.replicate 16 10⟩, BitSet.insert .tutor BitSet.empty, .none, {},
    BitSet.empty⟩

/-- He hears the same whichever part of the rule comes first. -/
theorem combinators_are_a_lattice_tutor :
    refusal (anyOf [tied .mine, hasRole .student] tutorOfOthers .bookLesson
        ⟨⟨Vector.replicate 16 1⟩, none, none⟩) =
      refusal (anyOf [hasRole .student, tied .mine] tutorOfOthers .bookLesson
        ⟨⟨Vector.replicate 16 1⟩, none, none⟩) := by
  have hproper : ∀ part ∈ [hasRole .student, tied .mine], part.IsProper := by
    intro part hpart subject action resource
    simp only [List.mem_cons, List.not_mem_nil, or_false] at hpart
    rcases hpart with rfl | rfl
    · unfold hasRole
      split <;> simp [PolicyDecision.IsProper, allowedDecision, denied]
    · unfold tied
      split <;> simp [PolicyDecision.IsProper, allowedDecision, denied]
  obtain ⟨-, -, hsame, -⟩ := combinators_are_a_lattice.1 [hasRole .student, tied .mine] (by simp)
    hproper tutorOfOthers .bookLesson ⟨⟨Vector.replicate 16 1⟩, none, none⟩
  exact (hsame [tied .mine, hasRole .student] fun part => by simp [or_comm]).1

end Policy

end Pdr.Identity

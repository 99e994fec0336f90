import WafWatch.Attack.Classification
import Mathlib.Data.List.Basic

/-!
This module contains what the classification of a request can come to. The second stage always tells a category,
and the rank of that category says how many groups of patterns have been looked at in vain; so nothing but a
request without a rule and without a target stays unknown.
-/

namespace WafWatch

open WafWatch.Text

namespace Heuristics

/--
The categories that the second stage tells, in the order in which they are looked for.
-/
def checkingOrder : List AttackCategory :=
  [.commandInjection, .crossSiteScripting, .sqlInjection, .localFileInclusion, .remoteFileInclusion,
    .pathTraversal, .phpInjection, .securityPolicyViolation]

def rank (category : AttackCategory) : Nat :=
  checkingOrder.idxOf category

/--
What is told of a text if only the given groups are looked for; `categorize` looks for all of them.
-/
def firstShown (groups : List (AttackCategory × Pattern)) (s : List Char) : AttackCategory :=
  match groups.find? (shows s) with
  | some group => group.1
  | none => .securityPolicyViolation

/--
The categories that can be told if only the given groups are looked for.
-/
def tellable (groups : List (AttackCategory × Pattern)) : List AttackCategory :=
  groups.map Prod.fst ++ [.securityPolicyViolation]

theorem firstShown_mem_tellable (groups : List (AttackCategory × Pattern)) (s : List Char) :
    firstShown groups s ∈ tellable groups := by
  unfold firstShown
  split
  . next group hfound =>
    exact List.mem_append_left _ (List.mem_map_of_mem (List.mem_of_find?_eq_some hfound))
  . exact List.mem_append_right _ (List.mem_singleton_self _)

/--
As many categories can be told before the one that is told as there are groups looked for in vain.
-/
theorem idxOf_firstShown {groups : List (AttackCategory × Pattern)} (hgroups : (tellable groups).Nodup)
    (s : List Char)
    : (tellable groups).idxOf (firstShown groups s) = groups.findIdx (shows s) := by
  induction groups with
  | nil => rfl
  | cons group groups ih =>
    have hcons : tellable (group :: groups) = group.1 :: tellable groups := rfl
    rw [hcons] at hgroups ⊢
    rw [List.nodup_cons] at hgroups
    cases hshown : shows s group with
    | true => simp [firstShown, List.findIdx_cons, hshown]
    | false =>
      have hlater : firstShown (group :: groups) s = firstShown groups s := by
        simp [firstShown, hshown]
      have hother : group.1 ≠ firstShown groups s := by
        intro heq
        exact hgroups.1 (heq ▸ firstShown_mem_tellable groups s)
      rw [hlater, List.idxOf_cons_ne _ hother, ih hgroups.2, List.findIdx_cons, hshown]
      rfl

theorem categorize_mem_checkingOrder (target : List Char) : categorize target ∈ checkingOrder :=
  firstShown_mem_tellable groups _

/--
The rank of a target is the number of groups that are looked at before one is shown.
-/
theorem rank_categorize (target : List Char) :
    rank (categorize target) = groups.findIdx (shows (Target.normalize target)) :=
  idxOf_firstShown (by decide) _

/--
Only a target that shows nothing is a violation of policy.
-/
theorem categorize_eq_securityPolicyViolation_iff {target : List Char}
    : categorize target = .securityPolicyViolation
        ↔ ∀ group ∈ groups, shows (Target.normalize target) group = false := by
  have hgroups : ∀ group ∈ groups, group.1 ≠ .securityPolicyViolation := by decide
  unfold categorize
  constructor
  . intro hpolicy group hgroup
    split at hpolicy
    . next found hfound => exact absurd hpolicy (hgroups found (List.mem_of_find?_eq_some hfound))
    . next hnone => exact Bool.eq_false_iff.mpr (List.find?_eq_none.mp hnone group hgroup)
  . intro hnothing
    have hnone : groups.find? (shows (Target.normalize target)) = none :=
      List.find?_eq_none.mpr fun group hgroup => Bool.eq_false_iff.mp (hnothing group hgroup)
    rw [hnone]

theorem isInconclusive_categorize (target : List Char) : (categorize target).isInconclusive = false := by
  have hall : ∀ category ∈ checkingOrder, category.isInconclusive = false := by decide
  exact hall _ (categorize_mem_checkingOrder target)

end Heuristics

namespace AttackCategory

theorem classify_of_isInconclusive {ruleId target : List Char}
    (hrule : (ofRule (trim ruleId)).isInconclusive = true) (htarget : target ≠ [])
    : classify ruleId target = Heuristics.categorize target := by
  simp [classify, hrule, htarget]

theorem classify_congr {target target' : List Char} (hempty : target = [] ↔ target' = [])
    (hnormal : Target.normalize target = Target.normalize target') (ruleId : List Char)
    : classify ruleId target = classify ruleId target' := by
  have hcategory : Heuristics.categorize target = Heuristics.categorize target' := by
    simp only [Heuristics.categorize, hnormal]
  have hisEmpty : target.isEmpty = target'.isEmpty := by
    rw [Bool.eq_iff_iff, List.isEmpty_iff, List.isEmpty_iff, hempty]
  unfold classify
  rw [hcategory, hisEmpty]

/--
A request of which there is a rule or a target is told a category.
-/
theorem isInconclusive_classify {ruleId target : List Char} (h : ¬(trim ruleId = [] ∧ target = [])) :
    (classify ruleId target).isInconclusive = false := by
  have hsome : ((trim ruleId).isEmpty && target.isEmpty) = false := by
    simpa [Bool.eq_false_iff] using h
  unfold classify
  dsimp only
  rw [if_neg (by simp [hsome])]
  split
  . exact Heuristics.isInconclusive_categorize target
  . next hrule => exact Bool.eq_false_iff.mpr hrule

theorem classify_nothing {ruleId : List Char} (h : trim ruleId = []) : classify ruleId [] = .unknown := by
  simp [classify, h]

theorem classify_eq_unknown_iff {ruleId target : List Char} :
    classify ruleId target = .unknown ↔ trim ruleId = [] ∧ target = [] := by
  constructor
  . intro hunknown
    by_contra h
    have htold := isInconclusive_classify h
    rw [hunknown] at htold
    contradiction
  . rintro ⟨hrule, rfl⟩
    exact classify_nothing hrule

theorem classify_ne_anomalyScoreExceeded (ruleId target : List Char) :
    classify ruleId target ≠ .anomalyScoreExceeded := by
  intro hscore
  by_cases h : trim ruleId = [] ∧ target = []
  . rw [classify_eq_unknown_iff.mpr h] at hscore
    contradiction
  . have htold := isInconclusive_classify h
    rw [hscore] at htold
    contradiction

/-! ### Labels -/

theorem label_ne_empty (category : AttackCategory) : category.label ≠ "" := by
  cases category <;> decide

/--
No two categories are told by the same words.
-/
theorem label_injective : Function.Injective label := by
  intro category other h
  cases category <;> cases other <;> first | rfl | (revert h; decide)

end AttackCategory

end WafWatch

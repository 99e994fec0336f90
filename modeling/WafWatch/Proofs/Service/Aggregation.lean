import Mathlib.Data.List.Perm.Basic
import WafWatch.Service.Health

/-!
This module contains the proof that the health of a daemon is the worst one of its enabled modules, with the
reasons of the modules that are as bad and of no others.
-/

namespace WafWatch

/--
How bad a health is.
-/
def Health.level : Health → Nat
  | .healthy => 0
  | .degraded _ => 1
  | .unhealthy _ => 2

namespace ModuleHealth

variable {modules : List ModuleHealth}

theorem unhealthyReasons_append (modules more : List ModuleHealth)
    : unhealthyReasons (modules ++ more) = unhealthyReasons modules ++ unhealthyReasons more := by
  apply List.filterMap_append

theorem degradedReasons_append (modules more : List ModuleHealth)
    : degradedReasons (modules ++ more) = degradedReasons modules ++ degradedReasons more := by
  apply List.filterMap_append

theorem unhealthyReasons_eq_nil_iff
    : unhealthyReasons modules = [] ↔ ∀ module ∈ modules, module.status.isUnhealthy = false := by
  unfold unhealthyReasons
  rw [List.filterMap_eq_nil_iff]
  refine forall₂_congr fun module _ => ?_
  cases module.status <;> simp [Health.isUnhealthy]

theorem degradedReasons_eq_nil_iff
    : degradedReasons modules = []
        ↔
      ∀ module ∈ modules, module.status = .healthy ∨ module.status.isUnhealthy = true := by
  unfold degradedReasons
  rw [List.filterMap_eq_nil_iff]
  refine forall₂_congr fun module _ => ?_
  cases module.status <;> simp [Health.isUnhealthy]

end ModuleHealth

namespace Health

open ModuleHealth

/--
What is known after a list of modules: the worst health without its reason, and the reasons of the modules that
are as bad.
-/
def sumUp (modules : List ModuleHealth) : Health × List String :=
  if unhealthyReasons modules ≠ [] then (.unhealthy "", unhealthyReasons modules)
  else if degradedReasons modules ≠ [] then (.degraded "", degradedReasons modules)
  else (.healthy, [])

theorem worsen_sumUp (modules : List ModuleHealth) (module : ModuleHealth)
    : worsen (sumUp modules) module = sumUp (modules ++ [module]) := by
  unfold sumUp
  rw [unhealthyReasons_append, degradedReasons_append]
  -- what is known already is a matter of two lists of reasons
  generalize unhealthyReasons modules = worse
  generalize degradedReasons modules = bad
  unfold worsen unhealthyReasons degradedReasons
  cases hstatus : module.status with
  | healthy => simp [hstatus]
  | degraded reason =>
    by_cases hworse : worse = [] <;> by_cases hbad : bad = [] <;> simp [hstatus, hworse, hbad, isUnhealthy]
  | unhealthy reason =>
    by_cases hworse : worse = [] <;> by_cases hbad : bad = [] <;> simp [hstatus, hworse, hbad, isUnhealthy]

theorem foldl_worsen_sumUp (before after : List ModuleHealth)
    : after.foldl worsen (sumUp before) = sumUp (before ++ after) := by
  induction after generalizing before with
  | nil => rw [List.foldl_nil, List.append_nil]
  | cons module after ih =>
    rw [List.foldl_cons, worsen_sumUp, ih, List.append_assoc, List.singleton_append]

theorem aggregate_eq (modules : List ModuleHealth)
    : let enabled := modules.filter (·.enabled)
      aggregate modules
        =
      if unhealthyReasons enabled ≠ [] then .unhealthy ("; ".intercalate (unhealthyReasons enabled))
      else if degradedReasons enabled ≠ [] then .degraded ("; ".intercalate (degradedReasons enabled))
      else .healthy := by
  intro enabled
  have hpass : enabled.foldl worsen (.healthy, []) = sumUp enabled := foldl_worsen_sumUp [] enabled
  unfold aggregate
  rw [hpass]
  unfold sumUp
  by_cases hworse : unhealthyReasons enabled = []
  . by_cases hbad : degradedReasons enabled = [] <;> simp [hworse, hbad]
  . simp [hworse]

/-! ### Levels -/

theorem level_worsen (state : Health × List String) (module : ModuleHealth)
    : (worsen state module).1.level = max state.1.level module.status.level := by
  obtain ⟨worst, reasons⟩ := state
  unfold worsen
  cases module.status <;> cases worst <;> rfl

theorem level_foldl_worsen (state : Health × List String) (modules : List ModuleHealth)
    : (modules.foldl worsen state).1.level = (modules.map (·.status.level)).foldl max state.1.level := by
  induction modules generalizing state with
  | nil => rfl
  | cons module modules ih => rw [List.foldl_cons, List.map_cons, List.foldl_cons, ih, level_worsen]

theorem level_aggregate (modules : List ModuleHealth)
    : (aggregate modules).level = ((modules.filter (·.enabled)).map (·.status.level)).foldl max 0 := by
  have hpass := level_foldl_worsen (.healthy, []) (modules.filter (·.enabled))
  have hlevel : (aggregate modules).level
      = ((modules.filter (·.enabled)).foldl worsen (.healthy, [])).1.level := by
    unfold aggregate
    cases (modules.filter (·.enabled)).foldl worsen (.healthy, []) with
    | mk worst reasons => cases worst <;> rfl
  exact hlevel.trans hpass

theorem level_aggregate_perm {modules others : List ModuleHealth} (h : modules.Perm others)
    : (aggregate modules).level = (aggregate others).level := by
  rw [level_aggregate, level_aggregate]
  exact ((h.filter _).map _).foldl_op_eq

/--
The health of a daemon is the worst one of its enabled modules. It is healthy if all of them are; it is unhealthy
if one of them is, for the reasons of the unhealthy ones in their order; and otherwise it is degraded, for the
reasons of the degraded ones. How bad it is does not depend on the order of the modules.
-/
theorem aggregate_is_worst (modules : List ModuleHealth)
    : let enabled := modules.filter (·.enabled)
      ((∀ module ∈ enabled, module.status = .healthy) → aggregate modules = .healthy)
        ∧
      ((∃ module ∈ enabled, module.status.isUnhealthy = true) →
        aggregate modules = .unhealthy ("; ".intercalate (unhealthyReasons enabled)))
        ∧
      ((∃ module ∈ enabled, module.status ≠ .healthy) →
        (∀ module ∈ enabled, module.status.isUnhealthy = false) →
          aggregate modules = .degraded ("; ".intercalate (degradedReasons enabled)))
        ∧
      (aggregate modules).level = (enabled.map (·.status.level)).foldl max 0
        ∧
      (∀ others, modules.Perm others → (aggregate others).level = (aggregate modules).level) := by
  intro enabled
  rw [aggregate_eq]
  refine ⟨?_, ?_, ?_, ?_, ?_⟩
  . intro hhealthy
    have hworse : unhealthyReasons enabled = [] := unhealthyReasons_eq_nil_iff.mpr fun module hmodule => by
      rw [hhealthy module hmodule]
      rfl
    have hbad : degradedReasons enabled = [] :=
      degradedReasons_eq_nil_iff.mpr fun module hmodule => .inl (hhealthy module hmodule)
    rw [if_neg (not_not.mpr hworse), if_neg (not_not.mpr hbad)]
  . intro ⟨module, hmodule, hunhealthy⟩
    apply if_pos
    intro hworse
    rw [unhealthyReasons_eq_nil_iff.mp hworse module hmodule] at hunhealthy
    contradiction
  . intro ⟨module, hmodule, hdegraded⟩ hnone
    rw [if_neg (not_not.mpr (unhealthyReasons_eq_nil_iff.mpr hnone))]
    apply if_pos
    intro hbad
    rcases degradedReasons_eq_nil_iff.mp hbad module hmodule with hhealthy | hunhealthy
    . exact hdegraded hhealthy
    . rw [hnone module hmodule] at hunhealthy
      contradiction
  . rw [← aggregate_eq, level_aggregate]
  . intro others hothers
    rw [← aggregate_eq]
    exact (level_aggregate_perm hothers).symm

/-- What is degraded is not told of once something is unhealthy, and nothing is told of what is not enabled. -/
example
    : aggregate [⟨"a", true, .degraded "slow"⟩, ⟨"b", true, .unhealthy "gone"⟩, ⟨"c", false, .unhealthy "off"⟩,
        ⟨"d", true, .degraded "late"⟩, ⟨"e", true, .unhealthy "stopped"⟩]
        = .unhealthy "b: gone; e: stopped" := by
  decide +kernel

end Health

end WafWatch

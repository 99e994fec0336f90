import WafWatch.Store.Snapshot

/-!
This module contains what the numbers of a snapshot add up to: every stored event that was blocked and has an
attack type is counted under one name, and no other event is. The numbers are exact, and they do not depend on the
order of the events.
-/

namespace WafWatch.Snapshot

/--
The sum of the counts, under whatever name.
-/
def total : List (String × Nat) → Nat
  | [] => 0
  | (_, n) :: rest => n + total rest

theorem total_bump (name : String) (counts : List (String × Nat)) :
    total (bump name counts) = total counts + 1 := by
  fun_induction bump name counts with
  | case1 => rfl
  | case2 other n rest hsame =>
    simp only [total]
    omega
  | case3 other n rest hother hbefore =>
    simp only [total]
    omega
  | case4 other n rest hother hbehind ih =>
    simp only [total, ih]
    omega

theorem total_foldl_bump (names : List String) (counts : List (String × Nat)) :
    total (names.foldl (fun counts name => bump name counts) counts) = total counts + names.length := by
  induction names generalizing counts with
  | nil => rfl
  | cons name names ih =>
    rw [List.foldl_cons, ih, total_bump, List.length_cons]
    omega

theorem total_countAttacks (events : List SecurityEvent) :
    total (countAttacks events) = (attackTypes events).length := by
  unfold countAttacks
  rw [total_foldl_bump]
  exact Nat.zero_add _

theorem length_attackTypes (events : List SecurityEvent) :
    (attackTypes events).length = events.countP fun event => event.blocked && !event.attackType.isEmpty := by
  rw [attackTypes, List.length_map, List.countP_eq_length_filter]

/--
Where every event was blocked and has an attack type, each is counted both as blocked and under its type.
-/
theorem totals_eq_size {store : EventStore}
    (h : ∀ event ∈ store.events, event.blocked = true ∧ event.attackType ≠ "") (now : Time.Timestamp)
    : (store.snapshot now).blockedRequests = store.size
        ∧ total (store.snapshot now).attacksByType = store.size := by
  constructor
  . exact List.countP_eq_length.mpr fun event hevent => (h event hevent).1
  . refine (total_countAttacks store.events).trans ((length_attackTypes store.events).trans ?_)
    rw [EventStore.size, List.countP_eq_length]
    intro event hevent
    simp [h event hevent]

/-! ### Tallies -/

/--
How often a name was counted.
-/
def held (name : String) (counts : List (String × Nat)) : Nat :=
  (counts.lookup name).getD 0

/--
Every name stands in one place, in ascending order, and only if it was counted.
-/
structure IsTally (counts : List (String × Nat)) : Prop where
  ascending : counts.Pairwise fun a b => a.1 < b.1
  positive : ∀ entry ∈ counts, 0 < entry.2

@[simp]
theorem held_nil (name : String) : held name [] = 0 := rfl

theorem held_cons (name other : String) (n : Nat) (counts : List (String × Nat)) :
    held name ((other, n) :: counts) = if name = other then n else held name counts := by
  unfold held
  rw [List.lookup_cons]
  by_cases hsame : name = other
  . rw [if_pos hsame, beq_iff_eq.mpr hsame]
    rfl
  . rw [if_neg hsame, beq_eq_false_iff_ne.mpr hsame]

theorem isTally_nil : IsTally [] :=
  ⟨List.Pairwise.nil, by simp⟩

theorem isTally_cons_iff {name : String} {n : Nat} {counts : List (String × Nat)}
    : IsTally ((name, n) :: counts) ↔ 0 < n ∧ (∀ entry ∈ counts, name < entry.1) ∧ IsTally counts := by
  constructor
  . rintro ⟨hascending, hpositive⟩
    obtain ⟨hfirst, hrest⟩ := List.pairwise_cons.mp hascending
    exact ⟨hpositive _ List.mem_cons_self, hfirst, hrest, fun entry hentry => hpositive _ (.tail _ hentry)⟩
  . rintro ⟨hn, hfirst, hascending, hpositive⟩
    exact ⟨List.pairwise_cons.mpr ⟨hfirst, hascending⟩, List.forall_mem_cons.mpr ⟨hn, hpositive⟩⟩

theorem held_eq_zero {name : String} {counts : List (String × Nat)} (h : ∀ entry ∈ counts, name < entry.1) :
    held name counts = 0 := by
  induction counts with
  | nil => rfl
  | cons entry counts ih =>
    obtain ⟨hfirst, hrest⟩ := List.forall_mem_cons.mp h
    rw [held_cons, if_neg (String.ne_of_lt hfirst), ih hrest]

theorem name_lt_of_mem_bump {least name : String} {counts : List (String × Nat)} (hname : least < name)
    (h : ∀ entry ∈ counts, least < entry.1)
    : ∀ entry ∈ bump name counts, least < entry.1 := by
  fun_induction bump name counts with
  | case1 => simpa using hname
  | case2 other n rest hsame => simpa using h
  | case3 other n rest hother hbefore => exact List.forall_mem_cons.mpr ⟨hname, h⟩
  | case4 other n rest hother hbehind ih =>
    obtain ⟨hfirst, hrest⟩ := List.forall_mem_cons.mp h
    exact List.forall_mem_cons.mpr ⟨hfirst, ih hrest⟩

theorem IsTally.bump {counts : List (String × Nat)} (h : IsTally counts) (name : String) :
    IsTally (bump name counts) := by
  fun_induction Snapshot.bump name counts with
  | case1 => exact isTally_cons_iff.mpr ⟨Nat.one_pos, by simp, isTally_nil⟩
  | case2 other n rest hsame =>
    obtain ⟨hn, hfirst, hrest⟩ := isTally_cons_iff.mp h
    exact isTally_cons_iff.mpr ⟨Nat.succ_pos n, hfirst, hrest⟩
  | case3 other n rest hother hbefore =>
    obtain ⟨hn, hfirst, hrest⟩ := isTally_cons_iff.mp h
    refine isTally_cons_iff.mpr ⟨Nat.one_pos, List.forall_mem_cons.mpr ⟨hbefore, ?_⟩, h⟩
    intro entry hentry
    exact String.lt_trans hbefore (hfirst entry hentry)
  | case4 other n rest hother hbehind ih =>
    obtain ⟨hn, hfirst, hrest⟩ := isTally_cons_iff.mp h
    have hafter : other < name := by
      rw [beq_iff_eq] at hother
      rw [← String.not_le]
      intro hbefore
      exact hother (String.le_antisymm hbefore (String.not_lt.mp hbehind))
    exact isTally_cons_iff.mpr ⟨hn, name_lt_of_mem_bump hafter hfirst, ih hrest⟩

theorem IsTally.held_bump {counts : List (String × Nat)} (h : IsTally counts) (name other : String) :
    held other (Snapshot.bump name counts) = held other counts + if other = name then 1 else 0 := by
  fun_induction Snapshot.bump name counts with
  | case1 => simp [held_cons]
  | case2 first n rest hsame =>
    rw [beq_iff_eq] at hsame
    rw [held_cons, held_cons, hsame]
    split
    . rfl
    . rfl
  | case3 first n rest hother hbefore =>
    obtain ⟨-, hfirst, -⟩ := isTally_cons_iff.mp h
    have hnew : held name ((first, n) :: rest) = 0 :=
      held_eq_zero (List.forall_mem_cons.mpr
        ⟨hbefore, fun entry hentry => String.lt_trans hbefore (hfirst entry hentry)⟩)
    rw [held_cons]
    split
    next hsame => rw [hsame, hnew]
    next hsame => rfl
  | case4 first n rest hother hbehind ih =>
    obtain ⟨-, -, hrest⟩ := isTally_cons_iff.mp h
    rw [beq_iff_eq] at hother
    rw [held_cons, held_cons, ih hrest]
    by_cases hsame : other = first
    . rw [if_pos hsame, if_pos hsame, if_neg (hsame ▸ Ne.symm hother)]
      rfl
    . rw [if_neg hsame, if_neg hsame]

/--
A tally says of every name how often it was counted, and nothing else.
-/
theorem IsTally.mem_iff {counts : List (String × Nat)} (h : IsTally counts) {name : String} {n : Nat}
    : (name, n) ∈ counts ↔ 0 < n ∧ n = held name counts := by
  induction counts with
  | nil =>
    simp only [List.not_mem_nil, held_nil, false_iff]
    omega
  | cons entry counts ih =>
    obtain ⟨other, m⟩ := entry
    obtain ⟨hm, hfirst, hrest⟩ := isTally_cons_iff.mp h
    rw [List.mem_cons, Prod.mk.injEq, held_cons, ih hrest]
    by_cases hsame : name = other
    . subst hsame
      rw [if_pos rfl, held_eq_zero hfirst]
      simp only [true_and]
      omega
    . rw [if_neg hsame]
      simp [hsame]

theorem IsTally.eq_of_held {a b : List (String × Nat)} (ha : IsTally a) (hb : IsTally b)
    (h : ∀ name, held name a = held name b)
    : a = b := by
  have hnodup {counts : List (String × Nat)} (hcounts : IsTally counts) : counts.Nodup := by
    apply hcounts.ascending.imp
    rintro entry _ hbefore rfl
    exact String.lt_irrefl _ hbefore
  have hperm : a.Perm b := by
    rw [List.perm_ext_iff_of_nodup (hnodup ha) (hnodup hb)]
    rintro ⟨name, n⟩
    rw [ha.mem_iff, hb.mem_iff, h]
  apply hperm.eq_of_pairwise ?_ ha.ascending hb.ascending
  intro entry other _ _ hbefore hbehind
  exact absurd hbehind (String.lt_asymm hbefore)

theorem isTally_foldl_bump {counts : List (String × Nat)} (h : IsTally counts) (names : List String) :
    IsTally (names.foldl (fun counts name => bump name counts) counts) := by
  induction names generalizing counts with
  | nil => exact h
  | cons name names ih => exact ih (h.bump name)

theorem IsTally.held_foldl_bump {counts : List (String × Nat)} (h : IsTally counts) (names : List String)
    (name : String)
    : held name (names.foldl (fun counts name => Snapshot.bump name counts) counts)
        = held name counts + names.count name := by
  induction names generalizing counts with
  | nil => rfl
  | cons other names ih =>
    rw [List.foldl_cons, ih (h.bump other), h.held_bump, List.count_cons]
    simp only [beq_iff_eq, eq_comm (a := other)]
    omega

/-! ### Exact numbers -/

theorem isTally_countAttacks (events : List SecurityEvent) : IsTally (countAttacks events) :=
  isTally_foldl_bump isTally_nil (attackTypes events)

/--
How many of the events were blocked and have that attack type.
-/
def attacksOf (name : String) (events : List SecurityEvent) : Nat :=
  events.countP fun event => event.blocked && event.attackType == name

theorem held_countAttacks (name : String) (events : List SecurityEvent) :
    held name (countAttacks events) = if name = "" then 0 else attacksOf name events := by
  unfold countAttacks attacksOf attackTypes
  rw [isTally_nil.held_foldl_bump, held_nil, Nat.zero_add, List.count_eq_countP, List.countP_map, List.countP_filter]
  split
  next hname =>
    subst hname
    simp +contextual
  next hname =>
    apply List.countP_congr
    intro event hevent
    simp only [Function.comp, Bool.and_eq_true, beq_iff_eq, Bool.not_eq_true', String.isEmpty_eq_false_iff]
    constructor
    . rintro ⟨hsame, hblocked, -⟩
      exact ⟨hblocked, hsame⟩
    . rintro ⟨hblocked, hsame⟩
      exact ⟨hsame, hblocked, hsame ▸ hname⟩

/--
What a snapshot tells about the events that it is taken of: how many there are, how many of them were blocked, and how
many of these have each attack type.
-/
structure TellsOf (snapshot : Snapshot) (events : List SecurityEvent) : Prop where
  totalRequests : snapshot.totalRequests = events.length
  blockedRequests : snapshot.blockedRequests = events.countP (·.blocked)
  ascending : snapshot.attacksByType.Pairwise fun a b => a.1 < b.1
  attacks : ∀ name n, (name, n) ∈ snapshot.attacksByType ↔ name ≠ "" ∧ 0 < n ∧ n = attacksOf name events
  total_attacks : total snapshot.attacksByType
    = events.countP fun event => event.blocked && !event.attackType.isEmpty

theorem tellsOf_snapshot (store : EventStore) (now : Time.Timestamp) :
    TellsOf (store.snapshot now) store.events where
  totalRequests := rfl
  blockedRequests := rfl
  ascending := (isTally_countAttacks store.events).ascending
  attacks name n := by
    have hmem : (name, n) ∈ (store.snapshot now).attacksByType ↔ 0 < n ∧ n = held name (countAttacks store.events) :=
      (isTally_countAttacks store.events).mem_iff
    rw [hmem, held_countAttacks]
    by_cases hname : name = ""
    . rw [if_pos hname]
      simp only [hname, ne_eq, not_true_eq_false, false_and, iff_false]
      omega
    . rw [if_neg hname]
      simp [hname]
  total_attacks := (total_countAttacks store.events).trans (length_attackTypes store.events)

theorem countAttacks_perm {events reordered : List SecurityEvent} (h : events.Perm reordered) :
    countAttacks events = countAttacks reordered := by
  apply (isTally_countAttacks events).eq_of_held (isTally_countAttacks reordered)
  intro name
  rw [held_countAttacks, held_countAttacks, attacksOf, attacksOf, h.countP_eq]

/--
The numbers of a snapshot are exact, and they stay the same if the events are held in another order.
-/
theorem tellsOf_snapshot_reordered (store : EventStore) (now : Time.Timestamp)
    : TellsOf (store.snapshot now) store.events
        ∧ ∀ (reordered : EventStore) (later : Time.Timestamp), store.events.Perm reordered.events →
            (reordered.snapshot later).totalRequests = (store.snapshot now).totalRequests
              ∧ (reordered.snapshot later).blockedRequests = (store.snapshot now).blockedRequests
              ∧ (reordered.snapshot later).attacksByType = (store.snapshot now).attacksByType := by
  refine ⟨tellsOf_snapshot store now, ?_⟩
  intro reordered later hperm
  exact ⟨hperm.length_eq.symm, (hperm.countP_eq _).symm, (countAttacks_perm hperm).symm⟩

end WafWatch.Snapshot

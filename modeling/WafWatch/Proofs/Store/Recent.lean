import Mathlib.Data.List.Basic
import WafWatch.Store.Basic

/-!
This module contains what the list of recent events is: the events that were appended last, the newest first, where of
two events with the same time the one that was appended later is the newer one. There is only one such list.
-/

namespace WafWatch

/-! ### The order of times -/

namespace Time.Timestamp

def IsBefore (a b : Timestamp) : Prop :=
  a.seconds < b.seconds ∨ a.seconds = b.seconds ∧ a.nanos < b.nanos

variable {a b c : Timestamp}

theorem le_iff : a.le b = true ↔ a.seconds < b.seconds ∨ a.seconds = b.seconds ∧ a.nanos ≤ b.nanos := by
  simp [le]

theorem le_trans (hab : a.le b = true) (hbc : b.le c = true) : a.le c = true := by
  rw [le_iff] at hab hbc ⊢
  omega

theorem le_total (a b : Timestamp) : (a.le b || b.le a) = true := by
  rw [Bool.or_eq_true, le_iff, le_iff]
  omega

theorem le_antisymm (hab : a.le b = true) (hba : b.le a = true) : a = b := by
  rw [le_iff] at hab hba
  obtain ⟨seconds, nanos⟩ := a
  rw [mk.injEq]
  dsimp only at hab hba
  omega

theorem isBefore_of_not_le (h : ¬b.le a = true) : a.IsBefore b := by
  rw [le_iff] at h
  unfold IsBefore
  omega

theorem IsBefore.asymm (h : a.IsBefore b) : ¬b.IsBefore a := by
  unfold IsBefore at h ⊢
  omega

theorem IsBefore.ne (h : a.IsBefore b) : a ≠ b := by
  rintro rfl
  exact h.asymm h

end Time.Timestamp

/-! ### Places in a history -/

/--
The last events of a history, each with the number of events that were appended before it.
-/
def latestPlaced (count : Nat) (history : List SecurityEvent) : List (SecurityEvent × Nat) :=
  (history.drop (history.length - count)).zipIdx (history.length - count)

/--
The first event is newer than the second one: it has a later time, or the same time and a later place.
-/
def IsNewer (a b : SecurityEvent × Nat) : Prop :=
  b.1.timestamp.IsBefore a.1.timestamp ∨ a.1.timestamp = b.1.timestamp ∧ b.2 < a.2

/--
The entries are the last ones of a history, the newest first.
-/
structure RanksLatest (entries : List (SecurityEvent × Nat)) (count : Nat) (history : List SecurityEvent) : Prop where
  perm : entries.Perm (latestPlaced count history)
  newestFirst : entries.Pairwise IsNewer

/--
The events are the last ones of a history, the newest first.
-/
def ListsLatest (listed : List SecurityEvent) (count : Nat) (history : List SecurityEvent) : Prop :=
  ∃ entries, RanksLatest entries count history ∧ entries.map (·.1) = listed

theorem IsNewer.asymm {a b : SecurityEvent × Nat} (h : IsNewer a b) : ¬IsNewer b a := by
  unfold IsNewer at *
  rintro (hbefore | ⟨hsame, hplace⟩)
  . rcases h with hafter | ⟨hsame, -⟩
    . exact hafter.asymm hbefore
    . exact hbefore.ne hsame
  . rcases h with hafter | ⟨-, hbehind⟩
    . exact hafter.ne hsame
    . omega

theorem RanksLatest.eq {entries others : List (SecurityEvent × Nat)} {count : Nat} {history : List SecurityEvent}
    (h : RanksLatest entries count history) (hothers : RanksLatest others count history)
    : entries = others := by
  apply (h.perm.trans hothers.perm.symm).eq_of_pairwise ?_ h.newestFirst hothers.newestFirst
  intro a b _ _ hab hba
  exact absurd hba hab.asymm

theorem map_fst_latestPlaced (count : Nat) (history : List SecurityEvent) :
    (latestPlaced count history).map (·.1) = history.drop (history.length - count) := by
  apply List.zipIdx_map_fst

theorem pairwise_latestPlaced (count : Nat) (history : List SecurityEvent) :
    (latestPlaced count history).Pairwise fun a b => a.2 < b.2 := by
  unfold latestPlaced
  rw [← List.pairwise_map, List.zipIdx_map_snd]
  exact List.pairwise_lt_range'

/--
Of more of the last events, those from a place on are the last ones.
-/
theorem filter_latestPlaced {count more : Nat} (h : count ≤ more) (history : List SecurityEvent)
    : (latestPlaced more history).filter (fun entry => history.length - count ≤ entry.2)
        = latestPlaced count history := by
  generalize hfrom : history.length - more = first
  generalize hupto : history.length - count = second
  have hle : first ≤ second := by omega
  have hsplit : history.drop first = (history.drop first).take (second - first) ++ history.drop second := by
    have hrest : history.drop second = (history.drop first).drop (second - first) := by
      rw [List.drop_drop]
      congr
      omega
    rw [hrest, List.take_append_drop]
  have hnext : first + ((history.drop first).take (second - first)).length = second := by
    rw [List.length_take, List.length_drop]
    omega
  unfold latestPlaced
  rw [hfrom, hupto, hsplit, List.zipIdx_append, hnext, List.filter_append, List.filter_eq_nil_iff.mpr,
    List.filter_eq_self.mpr, List.nil_append]
  . intro entry hentry
    have hplace := List.le_snd_of_mem_zipIdx hentry
    simpa using hplace
  . intro entry hentry
    have hplace := List.snd_lt_add_of_mem_zipIdx hentry
    rw [hnext] at hplace
    simpa using hplace

theorem RanksLatest.filter {entries : List (SecurityEvent × Nat)} {count more : Nat} {history : List SecurityEvent}
    (h : RanksLatest entries more history) (hmore : count ≤ more)
    : RanksLatest (entries.filter fun entry => history.length - count ≤ entry.2) count history where
  perm := by
    rw [← filter_latestPlaced hmore]
    exact h.perm.filter _
  newestFirst := h.newestFirst.sublist List.filter_sublist

/-! ### Sorting -/

/--
A sort that is stable keeps the relation that entries had in the list, wherever the order leaves a choice.
-/
theorem pairwise_mergeSort_of_pairwise {α : Type} {le : α → α → Bool} {r : α → α → Prop}
    (trans : ∀ a b c, le a b = true → le b c = true → le a c = true)
    (total : ∀ a b, (le a b || le b a) = true) {entries : List α} (h : entries.Pairwise r)
    : (entries.mergeSort le).Pairwise fun a b => le b a = true → r a b := by
  induction entries with
  | nil => simp
  | cons first rest ih =>
    obtain ⟨hfirst, hrest⟩ := List.pairwise_cons.mp h
    obtain ⟨before, behind, hsorted, hsortedRest, hbefore⟩ := List.mergeSort_cons trans total first rest
    have hbehind : ∀ b ∈ behind, r first b := by
      intro b hb
      apply hfirst
      rw [← (List.mergeSort_perm rest le).mem_iff, hsortedRest]
      exact List.mem_append_right before hb
    have ih := ih hrest
    rw [hsortedRest, List.pairwise_append] at ih
    rw [hsorted, List.pairwise_append, List.pairwise_cons]
    refine ⟨ih.1, ⟨fun b hb _ => hbehind b hb, ih.2.1⟩, ?_⟩
    intro a ha b hb htied
    rcases List.mem_cons.mp hb with rfl | hb
    . -- the first one stays before everything that it ties with
      have hstrict := hbefore a ha
      rw [htied] at hstrict
      contradiction
    . exact ih.2.2 a ha b hb htied

/-! ### Recent events -/

namespace EventStore

variable {store : EventStore}

theorem recentCount_le (store : EventStore) (limit : Int) : store.recentCount limit ≤ store.size := by
  unfold recentCount
  split
  . next hlimit =>
    simp only [Bool.and_eq_true, decide_eq_true_eq] at hlimit
    omega
  . apply Nat.le_refl

theorem recentCount_eq (store : EventStore) (limit : Int)
    : store.recentCount limit = if 0 < limit ∧ limit < store.size then limit.toNat else store.size := by
  simp [recentCount]

/--
The last events of a history that ends with those of the store, the newest first.
-/
def ranking (store : EventStore) (count : Nat) (gone : List SecurityEvent) : List (SecurityEvent × Nat) :=
  (latestPlaced count (gone ++ store.events)).reverse.mergeSort fun a b => b.1.timestamp.le a.1.timestamp

theorem ranksLatest_ranking (store : EventStore) (count : Nat) (gone : List SecurityEvent) :
    RanksLatest (store.ranking count gone) count (gone ++ store.events) where
  perm := by
    unfold ranking
    exact (List.mergeSort_perm _ _).trans (List.reverse_perm _)
  newestFirst := by
    have htrans (a b c : SecurityEvent × Nat) (hab : b.1.timestamp.le a.1.timestamp = true)
        (hbc : c.1.timestamp.le b.1.timestamp = true) : c.1.timestamp.le a.1.timestamp = true :=
      Time.Timestamp.le_trans hbc hab
    have htotal (a b : SecurityEvent × Nat) :
        (b.1.timestamp.le a.1.timestamp || a.1.timestamp.le b.1.timestamp) = true :=
      Time.Timestamp.le_total b.1.timestamp a.1.timestamp
    have hplaces : (latestPlaced count (gone ++ store.events)).reverse.Pairwise fun a b => b.2 < a.2 := by
      rw [List.pairwise_reverse]
      apply pairwise_latestPlaced
    have hsorted := List.pairwise_mergeSort htrans htotal
      (latestPlaced count (gone ++ store.events)).reverse
    have hties := pairwise_mergeSort_of_pairwise htrans htotal hplaces
    unfold ranking
    apply hsorted.imp₂ ?_ hties
    intro a b hle htie
    by_cases hge : a.1.timestamp.le b.1.timestamp = true
    . exact .inr ⟨Time.Timestamp.le_antisymm hge hle, htie hge⟩
    . exact .inl (Time.Timestamp.isBefore_of_not_le hge)

theorem map_fst_ranking {count : Nat} (h : count ≤ store.size) (gone : List SecurityEvent)
    : (store.ranking count gone).map (·.1)
        = (store.events.reverse.take count).mergeSort fun a b => b.timestamp.le a.timestamp := by
  have hlatest : (latestPlaced count (gone ++ store.events)).reverse.map (·.1)
      = store.events.reverse.take count := by
    have hplace : gone.length + store.events.length - count = gone.length + (store.events.length - count) := by
      unfold size at h
      omega
    rw [List.map_reverse, map_fst_latestPlaced, List.length_append, hplace, List.drop_append, List.take_reverse]
    simp
  unfold ranking
  rw [List.map_mergeSort (s := fun a b => b.timestamp.le a.timestamp), hlatest]
  intro a _ b _
  rfl

theorem listsLatest_iff (store : EventStore) (limit : Int) (gone listed : List SecurityEvent)
    : ListsLatest listed (store.recentCount limit) (gone ++ store.events) ↔ listed = store.recent limit := by
  have hranks := store.ranksLatest_ranking (store.recentCount limit) gone
  have hrecent : (store.ranking (store.recentCount limit) gone).map (·.1) = store.recent limit :=
    map_fst_ranking (store.recentCount_le limit) gone
  constructor
  . rintro ⟨entries, hentries, rfl⟩
    rw [hentries.eq hranks, hrecent]
  . rintro rfl
    exact ⟨_, hranks, hrecent⟩

theorem recentCount_zero (store : EventStore) : store.recentCount 0 = store.size := by
  simp [recentCount]

theorem recent_of_ascending (h : store.events.Pairwise fun a b => a.timestamp.le b.timestamp = true) (limit : Int) :
    store.recent limit = store.events.reverse.take (store.recentCount limit) := by
  unfold recent
  apply List.mergeSort_of_pairwise
  apply List.Pairwise.sublist (List.take_sublist _ _)
  rw [List.pairwise_reverse]
  exact h

/--
The recent events are the ones appended last, as many as the limit asks for, the newest first; no other list is. They
are all events in this order without those that were appended earlier, and if the times never decrease, they are the
first ones of all. What the store held before makes no difference.
-/
theorem recent_lists_latest (store : EventStore) (limit : Int) (gone : List SecurityEvent)
    : let history := gone ++ store.events
      let count := if 0 < limit ∧ limit < store.size then limit.toNat else store.size
      (∀ listed, ListsLatest listed count history ↔ listed = store.recent limit)
        ∧ (∃ entries, RanksLatest entries store.size history
            ∧ entries.map (·.1) = store.recent 0
            ∧ (entries.filter fun entry => history.length - count ≤ entry.2).map (·.1) = store.recent limit)
        ∧ ((store.events.Pairwise fun a b => a.timestamp.le b.timestamp = true) →
            store.recent limit = (store.recent 0).take count) := by
  intro history count
  have hcount : count = store.recentCount limit := (store.recentCount_eq limit).symm
  rw [hcount]
  refine ⟨?_, ?_, ?_⟩
  . intro listed
    apply listsLatest_iff
  . have hranks := store.ranksLatest_ranking store.size gone
    refine ⟨_, hranks, ?_, ?_⟩
    . rw [map_fst_ranking (Nat.le_refl _), recent, recentCount_zero]
    . rw [← listsLatest_iff store limit gone]
      exact ⟨_, hranks.filter (store.recentCount_le limit), rfl⟩
  . intro hascending
    rw [recent_of_ascending hascending, recent_of_ascending hascending, recentCount_zero, List.take_take,
      Nat.min_eq_left (store.recentCount_le limit)]

/-- Of the last two events, which have the same time, the one that was appended later comes first. -/
theorem recent_lists_latest_tied
    : let event (rawLog : String) (seconds : Int) : SecurityEvent :=
        { (default : SecurityEvent) with rawLog, timestamp := ⟨seconds, 0⟩ }
      let store : EventStore := { capacity := 3, events := [event "a" 1, event "b" 2, event "c" 2] }
      (store.events.Pairwise fun a b => a.timestamp.le b.timestamp = true)
        ∧ store.recent 2 = (store.recent 0).take 2
        ∧ ListsLatest [event "c" 2, event "b" 2] 2 store.events := by
  intro event store
  have hascending : store.events.Pairwise fun a b => a.timestamp.le b.timestamp = true := by decide
  have hrecent := (recent_lists_latest store 2 []).2.2 hascending
  refine ⟨hascending, hrecent, ((recent_lists_latest store 2 []).1 _).mpr ?_⟩
  rw [recent_of_ascending hascending]
  rfl

end EventStore

end WafWatch

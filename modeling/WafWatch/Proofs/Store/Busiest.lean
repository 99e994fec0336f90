import Mathlib.Data.List.Dedup
import WafWatch.Proofs.Store.Snapshot
import WafWatch.Proofs.Text.Utf8

/-!
This module contains what the list of clients in a snapshot is: the ten that sent the most requests, of equally busy
ones those whose addresses come first, each with its exact numbers. In which order the clients were counted makes no
difference.
-/

namespace WafWatch.Snapshot

/-! ### Counting -/

/--
The numbers of one client.
-/
def clientCount (events : List SecurityEvent) (ip : String) : ClientCount where
  ip := ip
  requests := events.countP (·.clientIp == ip)
  blocked := events.countP fun event => event.blocked && event.clientIp == ip

/--
The addresses of all clients, each of them once.
-/
def addresses (events : List SecurityEvent) : List String :=
  (events.map (·.clientIp)).dedup

def addRequest (count : ClientCount) (event : SecurityEvent) : ClientCount :=
  { count with
    requests := count.requests + 1
    blocked := if event.blocked then count.blocked + 1 else count.blocked }

theorem clientCount_concat_self (events : List SecurityEvent) (event : SecurityEvent) :
    clientCount (events ++ [event]) event.clientIp = addRequest (clientCount events event.clientIp) event := by
  cases hblocked : event.blocked with
  | false => simp [clientCount, addRequest, hblocked]
  | true => simp [clientCount, addRequest, hblocked]

theorem clientCount_concat_of_ne {event : SecurityEvent} {ip : String} (h : event.clientIp ≠ ip)
    (events : List SecurityEvent)
    : clientCount (events ++ [event]) ip = clientCount events ip := by
  simp [clientCount, h]

theorem clientCount_of_not_mem {events : List SecurityEvent} {ip : String} (h : ip ∉ events.map (·.clientIp)) :
    clientCount events ip = ⟨ip, 0, 0⟩ := by
  have hother : ∀ event ∈ events, event.clientIp ≠ ip := by
    rintro event hevent rfl
    exact h (List.mem_map_of_mem hevent)
  have hrequests : events.countP (·.clientIp == ip) = 0 := by
    rw [List.countP_eq_zero]
    intro event hevent
    simp [hother event hevent]
  have hblocked : events.countP (fun event => event.blocked && event.clientIp == ip) = 0 := by
    rw [List.countP_eq_zero]
    intro event hevent
    simp [hother event hevent]
  rw [clientCount, hrequests, hblocked]

/--
Every client that sent one of the events is counted once, and exactly.
-/
structure CountsClients (counts : List ClientCount) (events : List SecurityEvent) : Prop where
  nodup : (counts.map (·.ip)).Nodup
  mem_iff : ∀ ip, ip ∈ counts.map (·.ip) ↔ ip ∈ events.map (·.clientIp)
  exact : ∀ count ∈ counts, count = clientCount events count.ip

theorem map_ip_countRequest (counts : List ClientCount) (event : SecurityEvent)
    : (countRequest counts event).map (·.ip)
        = if event.clientIp ∈ counts.map (·.ip) then counts.map (·.ip) else counts.map (·.ip) ++ [event.clientIp] := by
  fun_induction countRequest counts event with
  | case1 => rfl
  | case2 count rest hsame =>
    rw [beq_iff_eq] at hsame
    simp [hsame]
  | case3 count rest hother ih =>
    rw [beq_iff_eq] at hother
    simp only [List.map_cons, List.mem_cons, ih, Ne.symm hother, false_or]
    split
    . rfl
    . rfl

/--
Where an entry of the counts comes from when one more request is counted.
-/
theorem mem_countRequest {counts : List ClientCount} {event : SecurityEvent} {count : ClientCount}
    (hnodup : (counts.map (·.ip)).Nodup) (h : count ∈ countRequest counts event)
    : (count ∈ counts ∧ event.clientIp ≠ count.ip)
        ∨ (∃ before ∈ counts, before.ip = event.clientIp ∧ count = addRequest before event)
        ∨ (event.clientIp ∉ counts.map (·.ip) ∧ count = addRequest ⟨event.clientIp, 0, 0⟩ event) := by
  fun_induction countRequest counts event with
  | case1 =>
    rw [List.mem_singleton] at h
    exact .inr (.inr ⟨by simp, h⟩)
  | case2 first rest hsame =>
    rw [beq_iff_eq] at hsame
    rw [List.map_cons, List.nodup_cons] at hnodup
    rcases List.mem_cons.mp h with hfirst | hrest
    . exact .inr (.inl ⟨first, List.mem_cons_self, hsame, hfirst⟩)
    . refine .inl ⟨List.mem_cons_of_mem first hrest, ?_⟩
      intro hagain
      exact hnodup.1 (hsame.trans hagain ▸ List.mem_map_of_mem hrest)
  | case3 first rest hother ih =>
    rw [beq_iff_eq] at hother
    rw [List.map_cons, List.nodup_cons] at hnodup
    rcases List.mem_cons.mp h with rfl | hrest
    . exact .inl ⟨List.mem_cons_self, Ne.symm hother⟩
    rcases ih hnodup.2 hrest with ⟨hkept, hne⟩ | ⟨before, hbefore, hadded⟩ | ⟨hnew, hadded⟩
    . exact .inl ⟨List.mem_cons_of_mem first hkept, hne⟩
    . exact .inr (.inl ⟨before, List.mem_cons_of_mem first hbefore, hadded⟩)
    . refine .inr (.inr ⟨?_, hadded⟩)
      rw [List.map_cons, List.mem_cons, not_or]
      exact ⟨Ne.symm hother, hnew⟩

theorem CountsClients.countRequest {counts : List ClientCount} {events : List SecurityEvent}
    (h : CountsClients counts events) (event : SecurityEvent)
    : CountsClients (countRequest counts event) (events ++ [event]) where
  nodup := by
    rw [map_ip_countRequest]
    split
    next hold => exact h.nodup
    next hnew => exact List.concat_eq_append ▸ h.nodup.concat hnew
  mem_iff ip := by
    rw [map_ip_countRequest, List.map_append, List.mem_append, ← h.mem_iff ip]
    split
    next hold =>
      refine ⟨.inl, ?_⟩
      rintro (hmem | hmem)
      . exact hmem
      . rw [List.mem_singleton.mp hmem]
        exact hold
    next hnew => exact List.mem_append
  exact count hcount := by
    rcases mem_countRequest h.nodup hcount with ⟨hkept, hother⟩ | ⟨before, hbefore, hip, rfl⟩ | ⟨hnew, rfl⟩
    . rw [clientCount_concat_of_ne hother]
      exact h.exact count hkept
    . have hexact := h.exact before hbefore
      rw [hip] at hexact
      rw [hexact]
      exact (clientCount_concat_self events event).symm
    . rw [h.mem_iff] at hnew
      rw [← clientCount_of_not_mem hnew]
      exact (clientCount_concat_self events event).symm

theorem countsClients_foldl {counts : List ClientCount} {before : List SecurityEvent}
    (h : CountsClients counts before) (events : List SecurityEvent)
    : CountsClients (events.foldl Snapshot.countRequest counts) (before ++ events) := by
  induction events generalizing counts before with
  | nil => simpa using h
  | cons event events ih =>
    rw [List.foldl_cons, List.append_cons]
    exact ih (h.countRequest event)

theorem countsClients_countClients (events : List SecurityEvent) : CountsClients (countClients events) events := by
  have hnone : CountsClients [] [] := ⟨by simp, by simp, by simp⟩
  exact countsClients_foldl hnone events

theorem clientCount_perm {events reordered : List SecurityEvent} (h : events.Perm reordered) :
    clientCount events = clientCount reordered := by
  funext ip
  rw [clientCount, clientCount, h.countP_eq, h.countP_eq]

theorem CountsClients.of_perm {counts : List ClientCount} {events reordered : List SecurityEvent}
    (h : CountsClients counts events) (hperm : events.Perm reordered)
    : CountsClients counts reordered where
  nodup := h.nodup
  mem_iff ip := (h.mem_iff ip).trans (hperm.map _).mem_iff
  exact count hcount := clientCount_perm hperm ▸ h.exact count hcount

theorem CountsClients.perm_addresses {counts : List ClientCount} {events : List SecurityEvent}
    (h : CountsClients counts events)
    : (counts.map (·.ip)).Perm (addresses events) := by
  unfold addresses
  rw [List.perm_ext_iff_of_nodup h.nodup (List.nodup_dedup _)]
  intro ip
  rw [List.mem_dedup, h.mem_iff]

/--
The counts are the same, however the events and the counts are ordered.
-/
theorem CountsClients.perm {counts others : List ClientCount} {events : List SecurityEvent}
    (h : CountsClients counts events) (hothers : CountsClients others events)
    : counts.Perm others := by
  have heq {counts : List ClientCount} (h : CountsClients counts events) :
      (counts.map (·.ip)).map (clientCount events) = counts := by
    rw [List.map_map]
    exact (List.map_congr_left fun count hcount => (h.exact count hcount).symm).trans (List.map_id _)
  rw [← heq h, ← heq hothers]
  exact (h.perm_addresses.trans hothers.perm_addresses.symm).map _

/-! ### Adding up -/

/--
The number of requests of all clients in a list.
-/
def requestsOf (counts : List ClientCount) : Nat :=
  total (counts.map fun count => (count.ip, count.requests))

theorem total_perm {a b : List (String × Nat)} (h : a.Perm b) : total a = total b := by
  induction h with
  | nil => rfl
  | cons entry _ ih => rw [total, total, ih]
  | swap first second rest =>
    simp only [total]
    omega
  | trans _ _ ihfirst ihsecond => exact ihfirst.trans ihsecond

theorem requestsOf_countRequest (counts : List ClientCount) (event : SecurityEvent) :
    requestsOf (countRequest counts event) = requestsOf counts + 1 := by
  unfold requestsOf
  fun_induction countRequest counts event with
  | case1 => rfl
  | case2 count rest hsame =>
    simp only [List.map_cons, total]
    omega
  | case3 count rest hother ih =>
    simp only [List.map_cons, total, ih]
    omega

theorem requestsOf_foldl_countRequest (events : List SecurityEvent) (counts : List ClientCount) :
    requestsOf (events.foldl countRequest counts) = requestsOf counts + events.length := by
  induction events generalizing counts with
  | nil => rfl
  | cons event events ih =>
    rw [List.foldl_cons, ih, requestsOf_countRequest, List.length_cons]
    omega

theorem requestsOf_countClients (events : List SecurityEvent) : requestsOf (countClients events) = events.length :=
  (requestsOf_foldl_countRequest events []).trans (Nat.zero_add _)

/-! ### Ranking -/

end WafWatch.Snapshot

namespace WafWatch.ClientCount

/--
A client is ranked before another one: it sent more requests, or as many and the octets of its address come first.
-/
def Before (a b : ClientCount) : Prop :=
  b.requests < a.requests
    ∨ a.requests = b.requests ∧ Text.encode a.ip.toList < Text.encode b.ip.toList

theorem before_iff {a b : ClientCount}
    : a.Before b ↔ b.requests < a.requests ∨ a.requests = b.requests ∧ a.ip < b.ip := by
  rw [Before, Text.encode_lt_encode_iff, String.lt_iff]

theorem Before.asymm {a b : ClientCount} (h : a.Before b) : ¬b.Before a := by
  rw [before_iff] at h ⊢
  rintro (hmore | ⟨hequal, hlt⟩)
  . omega
  . rcases h with hfewer | ⟨-, hgt⟩
    . omega
    . exact String.lt_asymm hlt hgt

end WafWatch.ClientCount

namespace WafWatch.Snapshot

variable {a b c : ClientCount}

theorem listedBefore_iff
    : listedBefore a b = true ↔ b.requests < a.requests ∨ a.requests = b.requests ∧ a.ip ≤ b.ip := by
  simp [listedBefore]

theorem listedBefore_trans (hab : listedBefore a b = true) (hbc : listedBefore b c = true) :
    listedBefore a c = true := by
  rw [listedBefore_iff] at hab hbc ⊢
  rcases hab with hab | ⟨hab, hfirst⟩
  . rcases hbc with hbc | ⟨hbc, -⟩
    . exact .inl (by omega)
    . exact .inl (by omega)
  . rcases hbc with hbc | ⟨hbc, hsecond⟩
    . exact .inl (by omega)
    . exact .inr ⟨hab.trans hbc, String.le_trans hfirst hsecond⟩

theorem listedBefore_total (a b : ClientCount) : (listedBefore a b || listedBefore b a) = true := by
  rw [Bool.or_eq_true, listedBefore_iff, listedBefore_iff]
  rcases Nat.lt_trichotomy a.requests b.requests with hlt | heq | hgt
  . exact .inr (.inl hlt)
  . rcases String.le_total a.ip b.ip with hle | hle
    . exact .inl (.inr ⟨heq, hle⟩)
    . exact .inr (.inr ⟨heq.symm, hle⟩)
  . exact .inl (.inl hgt)

theorem before_of_listedBefore (h : listedBefore a b = true) (hne : a.ip ≠ b.ip) : a.Before b := by
  rw [listedBefore_iff] at h
  rw [ClientCount.before_iff]
  refine h.imp_right (And.imp_right ?_)
  intro hle
  rw [← String.not_le]
  intro hge
  exact hne (String.le_antisymm hle hge)

theorem pairwise_before_mergeSort {entries : List ClientCount} (h : (entries.map (·.ip)).Nodup) :
    (entries.mergeSort listedBefore).Pairwise ClientCount.Before := by
  have hlisted : (entries.mergeSort listedBefore).Pairwise fun a b => listedBefore a b = true := by
    apply List.pairwise_mergeSort
    . exact fun _ _ _ => listedBefore_trans
    . exact listedBefore_total
  have hdistinct : (entries.mergeSort listedBefore).Pairwise fun a b => a.ip ≠ b.ip := by
    rw [← List.pairwise_map]
    exact ((List.mergeSort_perm entries listedBefore).map _).nodup_iff.mpr h
  exact hlisted.imp₂ (fun _ _ hbefore hne => before_of_listedBefore hbefore hne) hdistinct

theorem mergeSort_eq_of_perm {entries others : List ClientCount} (hperm : entries.Perm others)
    (h : (entries.map (·.ip)).Nodup)
    : entries.mergeSort listedBefore = others.mergeSort listedBefore := by
  have hothers : (others.map (·.ip)).Nodup := (hperm.map _).nodup_iff.mp h
  have hsorted := (List.mergeSort_perm entries listedBefore).trans
    (hperm.trans (List.mergeSort_perm others listedBefore).symm)
  apply hsorted.eq_of_pairwise ?_ (pairwise_before_mergeSort h) (pairwise_before_mergeSort hothers)
  intro a b _ _ hbefore hbehind
  exact absurd hbehind hbefore.asymm

/-! ### The busiest clients -/

/--
The list is that of the ten busiest clients, or of all if they are fewer.
-/
structure ListsBusiest (top : List ClientCount) (events : List SecurityEvent) : Prop where
  ranked : top.Pairwise ClientCount.Before
  distinct : (top.map (·.ip)).Nodup
  length_eq : top.length = min 10 (addresses events).length
  exact : ∀ count ∈ top, count.ip ∈ addresses events ∧ count = clientCount events count.ip
  left_out : ∀ ip ∈ addresses events, ip ∉ top.map (·.ip) → ∀ count ∈ top, count.Before (clientCount events ip)
  requestsOf_eq : (addresses events).length ≤ 10 → requestsOf top = events.length

theorem CountsClients.mergeSort {counts : List ClientCount} {events : List SecurityEvent}
    (h : CountsClients counts events)
    : CountsClients (counts.mergeSort listedBefore) events := by
  have hperm := List.mergeSort_perm counts listedBefore
  refine ⟨(hperm.map _).nodup_iff.mpr h.nodup, ?_, ?_⟩
  . intro ip
    rw [(hperm.map _).mem_iff, h.mem_iff]
  . intro count hcount
    exact h.exact count (hperm.mem_iff.mp hcount)

theorem listsBusiest_busiest (events : List SecurityEvent) : ListsBusiest (busiest events) events := by
  have hcounts := countsClients_countClients events
  have hranking := hcounts.mergeSort
  have hranked := pairwise_before_mergeSort hcounts.nodup
  have hrequests := total_perm ((List.mergeSort_perm (countClients events) listedBefore).map
    fun count => (count.ip, count.requests))
  unfold busiest topIpsLimit
  generalize (countClients events).mergeSort listedBefore = ranking at hranking hranked hrequests ⊢
  have hlength : ranking.length = (addresses events).length := by
    rw [← hranking.perm_addresses.length_eq, List.length_map]
  refine ⟨?_, ?_, ?_, ?_, ?_, ?_⟩
  . exact hranked.sublist (List.take_sublist _ _)
  . exact hranking.nodup.sublist ((List.take_sublist _ _).map _)
  . rw [List.length_take, hlength]
  . intro count hcount
    have hmem := List.mem_of_mem_take hcount
    exact ⟨hranking.perm_addresses.mem_iff.mp (List.mem_map_of_mem hmem), hranking.exact count hmem⟩
  . intro ip hip hnot count hcount
    obtain ⟨other, hother, rfl⟩ := List.mem_map.mp (hranking.perm_addresses.mem_iff.mpr hip)
    rw [← hranking.exact other hother]
    rw [← List.take_append_drop 10 ranking] at hranked hother
    have hdropped : other ∈ ranking.drop 10 := by
      rcases List.mem_append.mp hother with htaken | hdropped
      . exact absurd (List.mem_map_of_mem htaken) hnot
      . exact hdropped
    exact (List.pairwise_append.mp hranked).2.2 count hcount other hdropped
  . intro hfew
    rw [List.take_of_length_le (Nat.le_trans (Nat.le_of_eq hlength) hfew)]
    exact hrequests.trans (requestsOf_countClients events)

theorem busiest_perm {events reordered : List SecurityEvent} (h : events.Perm reordered) :
    busiest events = busiest reordered := by
  have hcounts := (countsClients_countClients events).of_perm h
  unfold busiest
  rw [mergeSort_eq_of_perm (hcounts.perm (countsClients_countClients reordered)) hcounts.nodup]

/--
A snapshot lists the busiest clients, in whatever order their counts are held before they are ranked, and in whatever
order the events are held.
-/
theorem listsBusiest_snapshot (store : EventStore) (now : Time.Timestamp)
    : ListsBusiest (store.snapshot now).topIps store.events
        ∧ (∀ entries : List ClientCount, entries.Perm (countClients store.events) →
            (entries.mergeSort listedBefore).take topIpsLimit = (store.snapshot now).topIps)
        ∧ ∀ (reordered : EventStore) (later : Time.Timestamp), store.events.Perm reordered.events →
            (reordered.snapshot later).topIps = (store.snapshot now).topIps := by
  refine ⟨listsBusiest_busiest store.events, ?_, ?_⟩
  . intro entries hperm
    have hnodup := (countsClients_countClients store.events).nodup
    exact congrArg (List.take topIpsLimit) (mergeSort_eq_of_perm hperm.symm hnodup).symm
  . intro reordered later hperm
    exact (busiest_perm hperm).symm

end WafWatch.Snapshot

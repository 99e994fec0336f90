import WafWatch.Event.Json
import WafWatch.Proofs.Json.Decoding
import WafWatch.Proofs.Time.Record

/-!
This module contains the JSON form of events, test events and snapshots: each of them is decoded from the value
that it is written as.
-/

namespace WafWatch

open WafWatch.Json

theorem decodeTime_timeValue {t : Time.Timestamp} (h : t.IsValid) :
    decodeTime (timeValue t).toTree.toNode = .ok t := by
  have htext : (timeValue t).toTree.toNode.textAs "an RFC 3339 formatted date and time string" = .ok t.render :=
    rfl
  simp only [decodeTime, htext, bind, Except.bind, Time.readRecord?_render h]
  rfl

theorem Severity.decode_name (severity : Severity) :
    decode (Value.ofString severity.name).toTree.toNode = .ok severity := by
  cases severity <;> rfl

/-! ### Events -/

theorem fill_text (name s : String) :
    fill name none Node.string (Value.ofString s).toTree.toNode = .ok (some s) :=
  fill_none_eq_ok (string_ofString s)

theorem fill_time (name : String) {t : Time.Timestamp} (h : t.IsValid) :
    fill name none decodeTime (timeValue t).toTree.toNode = .ok (some t) :=
  fill_none_eq_ok (decodeTime_timeValue h)

theorem fill_severity (name : String) (severity : Severity) :
    fill name none Severity.decode (Value.ofString severity.name).toTree.toNode = .ok (some severity) :=
  fill_none_eq_ok severity.decode_name

theorem fill_flag (name : String) (b : Bool) :
    fill name none Node.boolean (Value.bool b).toTree.toNode = .ok (some b) :=
  fill_none_eq_ok (boolean_bool b)

theorem fill_word (name : String) {n : Nat} (h : n ≤ maxWord) :
    fill name none (Node.word "u64") (Value.number n).toTree.toNode = .ok (some n) :=
  fill_none_eq_ok (word_number "u64" h)

theorem SecurityEvent.decode_toValue {event : SecurityEvent} (h : event.timestamp.IsValid) :
    decode event.toValue.toTree.toNode = .ok event := by
  unfold decode toValue
  rw [fields_ofMembers (by rfl)]
  simp only [List.foldlM_cons, List.foldlM_nil, EventDraft.step, fill_text, fill_time _ h, fill_severity,
    fill_flag, bind, Except.bind, pure, Except.pure]
  rfl

theorem fill_null (name : String) :
    fill name none Node.optionalString Value.null.toTree.toNode = .ok (some none) := by
  rfl

theorem fill_givenText (name s : String) :
    fill name none Node.optionalString (Value.ofString s).toTree.toNode = .ok (some (some s)) :=
  fill_none_eq_ok (map_eq_ok_iff.mpr ⟨s, string_ofString s, rfl⟩)

theorem TestEvent.decode_toValue (input : TestEvent) :
    decode input.toValue.toTree.toNode = .ok input := by
  unfold decode toValue
  rw [fields_ofMembers (by rfl)]
  obtain ⟨clientIp, method, url, userAgent, attackType, ruleId, message, severity, blocked, rawLog⟩ := input
  cases rawLog
  all_goals
    simp only [List.foldlM_cons, List.foldlM_nil, TestEventDraft.step, fill_text, fill_severity, fill_flag,
      fill_null, fill_givenText, bind, Except.bind, pure, Except.pure]
    rfl

/-! ### Snapshots -/

/--
The numbers of a client fit 64 bits.
-/
structure ClientCount.InRange (count : ClientCount) : Prop where
  requests : count.requests ≤ maxWord
  blocked : count.blocked ≤ maxWord

/--
The numbers of a snapshot fit 64 bits, each attack type is counted once and in its place, and its times exist.
-/
structure Snapshot.IsValid (snapshot : Snapshot) : Prop where
  totalRequests : snapshot.totalRequests ≤ maxWord
  blockedRequests : snapshot.blockedRequests ≤ maxWord
  attacksByType : ∀ attacks ∈ snapshot.attacksByType, attacks.2 ≤ maxWord
  ascending : (snapshot.attacksByType.map (·.1)).Pairwise (· < ·)
  topIps : ∀ count ∈ snapshot.topIps, count.InRange
  recentLogs : ∀ event ∈ snapshot.recentLogs, event.timestamp.IsValid
  timestamp : snapshot.timestamp.IsValid

theorem ClientCount.decode_toValue {count : ClientCount} (h : count.InRange) :
    decode count.toValue.toTree.toNode = .ok count := by
  unfold decode toValue
  rw [fields_ofMembers (by rfl)]
  simp only [List.foldlM_cons, List.foldlM_nil, ClientCountDraft.step, fill_text, fill_word _ h.requests,
    fill_word _ h.blocked, bind, Except.bind, pure, Except.pure]
  rfl

theorem putCount_last {name : String} {n : Nat} {counts : List (String × Nat)}
    (h : ∀ count ∈ counts, count.1 < name)
    : putCount name n counts = counts ++ [(name, n)] := by
  induction counts with
  | nil => rfl
  | cons count counts ih =>
    obtain ⟨other, m⟩ := count
    rw [List.forall_mem_cons] at h
    have hother : ¬name < other := String.lt_asymm h.1
    have hne : ¬(name == other) = true := by
      intro hsame
      rw [eq_of_beq hsame] at h
      exact String.lt_irrefl _ h.1
    rw [putCount, if_neg hne, if_neg hother, ih h.2]
    rfl

theorem decodeCounts_ascending {counts more : List (String × Nat)}
    (hrange : ∀ count ∈ more, count.2 ≤ maxWord)
    (hascending : ((counts ++ more).map (·.1)).Pairwise (· < ·))
    : decodeCounts .closed counts
          (more.map fun count => (.ok count.1.toList, (Value.number count.2).toTree.toNode))
        = .ok (counts ++ more) := by
  -- What has been read so far comes before everything that is left.
  induction more generalizing counts with
  | nil =>
    rw [List.append_nil]
    rfl
  | cons count more ih =>
    rw [List.forall_mem_cons] at hrange
    have hbefore : ∀ other ∈ counts, other.1 < count.1 := by
      intro other hother
      rw [List.map_append, List.pairwise_append] at hascending
      exact hascending.2.2 _ (List.mem_map_of_mem hother) _ List.mem_cons_self
    have happend : counts ++ count :: more = counts ++ [count] ++ more := by
      rw [List.append_assoc]
      rfl
    rw [happend] at hascending ⊢
    rw [List.map_cons, decodeCounts, word_number "u64" hrange.1]
    dsimp only [Except.mapError, bind, Except.bind]
    rw [String.ofList_toList, putCount_last hbefore]
    exact ih hrange.2 hascending

theorem decodeCountRecord_ofMembers {counts : List (String × Nat)}
    (hrange : ∀ count ∈ counts, count.2 ≤ maxWord) (hascending : (counts.map (·.1)).Pairwise (· < ·))
    : decodeCountRecord
          (Value.ofMembers (counts.map fun (name, n) => (name, .number n))).toTree.toNode
        = .ok counts := by
  rw [toNode_ofMembers, List.map_map]
  exact @decodeCounts_ascending [] counts hrange hascending

theorem Snapshot.decode_toValue {snapshot : Snapshot} (h : snapshot.IsValid) :
    decode snapshot.toValue.toTree.toNode = .ok snapshot := by
  have hattacks := decodeCountRecord_ofMembers h.attacksByType h.ascending
  have hclients : (Value.list (snapshot.topIps.map ClientCount.toValue)).toTree.toNode.listOf
      ClientCount.decode = .ok snapshot.topIps :=
    listOf_list fun count hcount => ClientCount.decode_toValue (h.topIps count hcount)
  have hevents : (Value.list (snapshot.recentLogs.map SecurityEvent.toValue)).toTree.toNode.listOf
      SecurityEvent.decode = .ok snapshot.recentLogs :=
    listOf_list fun event hevent => SecurityEvent.decode_toValue (h.recentLogs event hevent)
  unfold decode toValue
  rw [fields_ofMembers (by rfl)]
  simp only [List.foldlM_cons, List.foldlM_nil, SnapshotDraft.step, fill_word _ h.totalRequests,
    fill_word _ h.blockedRequests, fill_none_eq_ok hattacks, fill_none_eq_ok hclients,
    fill_none_eq_ok hevents, fill_time _ h.timestamp, bind, Except.bind, pure, Except.pure]
  rfl

end WafWatch

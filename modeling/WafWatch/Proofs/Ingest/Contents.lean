import WafWatch.Proofs.Attack.Verdict
import WafWatch.Proofs.Audit.Form
import WafWatch.Proofs.Ingest.Window
import WafWatch.Proofs.Store.Snapshot
import WafWatch.Proofs.Text.Search

/-!
This module contains what a store holds that nothing but ticks have filled: blocked requests whose lines
carry both marks and are not too long, each with the label of a category. So a snapshot counts every event, in
whatever way it counts.
-/

namespace WafWatch

open WafWatch.Text

theorem eventOfLine_eq_some_iff {limit : Nat} {stamp : Stamp} {line : String} {event : SecurityEvent}
    : eventOfLine limit stamp line = some event
        ↔
      line.utf8ByteSize ≤ limit ∧ AuditLine.isCandidate line.toList = true
        ∧ (AuditLine.toEvent stamp line.toList).classified = event := by
  unfold eventOfLine
  simp only [Option.map_eq_some_iff, AuditLine.parse_eq_some_iff, and_assoc, exists_and_left, exists_eq_left']

theorem rawLog_of_eventOfLine {limit : Nat} {stamp : Stamp} {line : String} {event : SecurityEvent}
    (h : eventOfLine limit stamp line = some event)
    : event.rawLog = line := by
  obtain ⟨-, -, rfl⟩ := eventOfLine_eq_some_iff.mp h
  exact String.ofList_toList

/--
What is known of an event that comes from a line of at most `limit` octets.
-/
structure SecurityEvent.IsIngested (limit : Nat) (event : SecurityEvent) : Prop where
  blocked : event.blocked = true
  marked : ∀ marker ∈ AuditLine.markers, marker.toList <:+: event.rawLog.toList
  size : event.rawLog.utf8ByteSize ≤ limit
  attackType : event.attackType =
    (AttackCategory.classify event.ruleId.toList
      (if event.url = "" then event.message else event.url).toList).label
  attackType_ne_empty : event.attackType ≠ ""
  attackType_ne_score : event.attackType ≠ "Anomaly Score Exceeded"
  unknown_iff : event.attackType = "Unknown" ↔
    trim event.ruleId.toList = [] ∧ event.url = "" ∧ event.message = ""

namespace SecurityEvent

theorem target_eq_empty_iff (event : SecurityEvent) :
    event.target = "" ↔ event.url = "" ∧ event.message = "" := by
  unfold target
  split
  . next hurl => simp [String.isEmpty_iff.mp hurl]
  . next hurl => simpa using fun h => absurd h (by simpa using hurl)

theorem isIngested_classified {limit : Nat} {event : SecurityEvent} (hblocked : event.blocked = true)
    (hmarked : ∀ marker ∈ AuditLine.markers, marker.toList <:+: event.rawLog.toList)
    (hsize : event.rawLog.utf8ByteSize ≤ limit)
    : event.classified.IsIngested limit where
  blocked := hblocked
  marked := hmarked
  size := hsize
  attackType := by simp [classified, category, target]
  attackType_ne_empty := AttackCategory.label_ne_empty _
  attackType_ne_score := fun hscore =>
    AttackCategory.classify_ne_anomalyScoreExceeded _ _ (AttackCategory.label_injective hscore)
  unknown_iff := by
    have hunknown : event.category.label = AttackCategory.unknown.label ↔ event.category = .unknown :=
      AttackCategory.label_injective.eq_iff
    refine hunknown.trans (AttackCategory.classify_eq_unknown_iff.trans (and_congr_right fun _ => ?_))
    exact String.toList_eq_nil_iff.trans event.target_eq_empty_iff

theorem isIngested_of_eventOfLine {limit : Nat} {stamp : Stamp} {line : String} {event : SecurityEvent}
    (h : eventOfLine limit stamp line = some event)
    : event.IsIngested limit := by
  obtain ⟨hshort, hcandidate, rfl⟩ := eventOfLine_eq_some_iff.mp h
  have hblocked : (AuditLine.toEvent stamp line.toList).blocked = true :=
    AuditLine.tellsBlocked_of_isCandidate hcandidate
  have hrawLog : (AuditLine.toEvent stamp line.toList).rawLog = line := String.ofList_toList
  refine isIngested_classified hblocked ?_ ?_
  . intro marker hmarker
    rw [hrawLog, ← hasPart_iff]
    exact List.all_eq_true.mp hcandidate marker hmarker
  . rw [hrawLog]
    exact hshort

end SecurityEvent

/-! ### Intakes -/

theorem exists_of_mem_eventsOfLines {limit : Nat} {stamps : StampSupply} {lines : List String}
    {event : SecurityEvent} (h : event ∈ eventsOfLines limit stamps lines)
    : ∃ stamp line, eventOfLine limit stamp line = some event := by
  induction lines generalizing stamps with
  | nil => contradiction
  | cons line rest ih =>
    rcases List.mem_append.mp h with hhere | hlater
    . exact ⟨_, line, Option.mem_toList.mp hhere⟩
    . exact ih hlater

/--
The intake comes from the ingestion, which reads lines of at most `limit` octets: it is a tick, whatever the
source answers, or the first lines of a tick that has not come to its end.
-/
def Intake.IsIngestion (limit : Nat) : Intake → Prop
  | .tick ingestion _ _ => ingestion.lineLimit = limit
  | .part lineLimit _ _ => lineLimit = limit
  | .test _ _ => False

theorem Intake.IsIngestion.candidates {limit : Nat} {intake : Intake} (h : intake.IsIngestion limit) :
    ∀ event ∈ intake.candidates, event.IsIngested limit := by
  have hlines : ∀ stamps lines, ∀ event ∈ eventsOfLines limit stamps lines, event.IsIngested limit := by
    intro stamps lines event hevent
    obtain ⟨stamp, line, hline⟩ := exists_of_mem_eventsOfLines hevent
    exact SecurityEvent.isIngested_of_eventOfLine hline
  intro event hevent
  cases intake with
  | tick ingestion host stamps =>
    cases h
    simp only [Intake.candidates] at hevent
    split at hevent
    . exact hlines _ _ event hevent
    . contradiction
  | part lineLimit stamps lines =>
    cases h
    exact hlines _ _ event hevent
  | test input stamp => contradiction

namespace StoreRun

theorem mem_accepted_offerAll {run : StoreRun} {events : List SecurityEvent} {event : SecurityEvent}
    (h : event ∈ (run.offerAll events).accepted)
    : event ∈ run.accepted ∨ event ∈ events := by
  induction events generalizing run with
  | nil => exact .inl h
  | cons first events ih =>
    rcases ih h with hearlier | hlater
    . rw [serve_appendIfAbsent] at hearlier
      dsimp only at hearlier
      split at hearlier
      . rcases List.mem_append.mp hearlier with hbefore | hfirst
        . exact .inl hbefore
        . exact .inr (List.mem_cons.mpr (.inl (List.mem_singleton.mp hfirst)))
      . exact .inl hearlier
    . exact .inr (List.mem_cons_of_mem _ hlater)

/--
Whatever a new store holds has been brought to it.
-/
theorem start_takeInAll_subset (capacity : Nat) (intakes : List Intake) :
    ((start capacity).takeInAll intakes).store.events ⊆ intakes.flatMap Intake.candidates := by
  intro event hevent
  rw [takeInAll_eq_offerAll, (start_offerAll_faithful capacity _).events_eq] at hevent
  rcases mem_accepted_offerAll (List.mem_of_mem_drop hevent) with hstart | hbrought
  . contradiction
  . exact hbrought

/--
A store that only the ingestion has filled holds nothing but events of lines, which are told an attack type; so
all of them are counted as blocked and under their attack types.
-/
theorem start_takeInAll_ingested {limit : Nat} {intakes : List Intake}
    (hintakes : ∀ intake ∈ intakes, intake.IsIngestion limit) (capacity : Nat)
    : let store := ((start capacity).takeInAll intakes).store
      (∀ event ∈ store.events, event.IsIngested limit)
        ∧
      (∀ now,
        (store.snapshot now).totalRequests = (store.snapshot now).blockedRequests
          ∧
        (store.snapshot now).blockedRequests = Snapshot.total (store.snapshot now).attacksByType) := by
  intro store
  have hevents : ∀ event ∈ store.events, event.IsIngested limit := by
    intro event hevent
    have hbrought := start_takeInAll_subset capacity intakes hevent
    obtain ⟨intake, hintake, hcandidate⟩ := List.mem_flatMap.mp hbrought
    exact (hintakes intake hintake).candidates event hcandidate
  refine ⟨hevents, ?_⟩
  intro now
  have hcounted : ∀ event ∈ store.events, event.blocked = true ∧ event.attackType ≠ "" :=
    fun event hevent => ⟨(hevents event hevent).blocked, (hevents event hevent).attackType_ne_empty⟩
  have htotals := Snapshot.totals_eq_size hcounted now
  exact ⟨htotals.1.symm, htotals.1.trans htotals.2.symm⟩

/--
Of two lines that a source answers, one is that of a blocked request.
-/
theorem start_takeInAll_ingested_denied
    : let host : Host :=
        { file := fun _ => { status := .ok ⟨1, 0⟩, reading := .ok [] }
          run := fun _ _ _ => .timedOut
          listen := .ok }
      let source := LogSource.scripted "log"
        [.ok ["ModSecurity: Access denied [id \"942100\"]", "GET /favicon.ico"]]
      let intakes := [Intake.tick { source, lineLimit := 64 } host { stamp := fun _ => default }]
      let store := ((start 0).takeInAll intakes).store
      (∀ intake ∈ intakes, intake.IsIngestion 64)
        ∧
      store.events.map (·.attackType) = ["SQL Injection"]
        ∧
      (∀ event ∈ store.events, event.IsIngested 64)
        ∧
      (∀ now,
        (store.snapshot now).totalRequests = (store.snapshot now).blockedRequests
          ∧
        (store.snapshot now).blockedRequests = Snapshot.total (store.snapshot now).attacksByType) := by
  intro host source intakes store
  have hintakes : ∀ intake ∈ intakes, intake.IsIngestion 64 := by
    intro intake hintake
    rw [List.mem_singleton.mp hintake]
    rfl
  obtain ⟨hevents, hcounts⟩ := start_takeInAll_ingested hintakes 0
  exact ⟨hintakes, by decide +kernel, hevents, hcounts⟩

end StoreRun

end WafWatch

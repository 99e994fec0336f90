import WafWatch.Proofs.Ingest.Window

/-!
This module contains the proof that what is announced is what is stored. Whatever ticks and test events bring,
and at whatever line a tick is, the announced events are those that the store has appended, in this order; and
the report of a tick tells how many those were.
-/

namespace WafWatch

/--
A store with the events that were announced so far.
-/
structure Bulletin where
  store : EventStore
  announced : List SecurityEvent := []
  deriving DecidableEq, Repr, Inhabited

namespace Bulletin

def takeIn (bulletin : Bulletin) : Intake → Bulletin
  | .tick ingestion host stamps =>
    let tick := ingestion.tick host bulletin.store stamps
    { store := tick.store, announced := bulletin.announced ++ tick.announced }
  | .part limit stamps lines =>
    let done := Ingesting.takeLines limit stamps { store := bulletin.store, report := {} } lines
    { store := done.store, announced := bulletin.announced ++ done.announced.reverse }
  | .test input stamp =>
    let recording := bulletin.store.recordTestEvent input stamp
    { store := recording.store, announced := bulletin.announced ++ recording.event.toList }

def takeInAll (bulletin : Bulletin) (intakes : List Intake) : Bulletin :=
  intakes.foldl takeIn bulletin

end Bulletin

/-! ### Reports -/

theorem AuditLine.isSome_parse (limit : Nat) (stamp stamp' : Stamp) (line : String) :
    (parse limit stamp line).isSome = (parse limit stamp' line).isSome := by
  unfold parse
  split
  . rfl
  . dsimp only
    split <;> rfl

theorem isSome_eventOfLine (limit : Nat) (stamp stamp' : Stamp) (line : String) :
    (eventOfLine limit stamp line).isSome = (AuditLine.parse limit stamp' line).isSome := by
  unfold eventOfLine
  rw [Option.isSome_map]
  apply AuditLine.isSome_parse

theorem EventStore.appended_foldl_append (store : EventStore) (events : List SecurityEvent) :
    (events.foldl append store).appended = store.appended + events.length := by
  induction events generalizing store with
  | nil => rfl
  | cons event events ih =>
    have hone : (store.append event).appended = store.appended + 1 := by
      unfold append
      split <;> rfl
    rw [List.foldl_cons, ih, hone, List.length_cons]
    omega

namespace Ingesting

/--
What holds after each line of a tick: the store has appended what was announced, and the report counts the
lines that were taken in.
-/
structure Accounts (before : EventStore) (read parsed : Nat) (s : Ingesting) : Prop where
  store : s.store = s.announced.reverse.foldl EventStore.append before
  linesRead : s.report.linesRead = read
  parsed : s.report.parsed = parsed
  stored : s.report.stored = s.announced.length
  verdicts : s.report.parsed = s.report.stored + s.report.duplicates
  sourceError : s.report.sourceError = none

variable {before : EventStore} {read parsed : Nat} {s : Ingesting}

theorem accounts_start (store : EventStore) (read : Nat) :
    ({ store, report := { linesRead := read } } : Ingesting).Accounts store read 0 where
  store := rfl
  linesRead := rfl
  parsed := rfl
  stored := rfl
  verdicts := rfl
  sourceError := rfl

theorem Accounts.offer (h : s.Accounts before read parsed) (event : SecurityEvent) :
    (s.offer event).Accounts before read (parsed + 1) := by
  have hverdicts := h.verdicts
  unfold Ingesting.offer
  rcases s.store.appendIfAbsent_cases event with hheld | hnew
  . rw [hheld]
    refine { h with parsed := ?_, verdicts := ?_ }
    . exact congrArg (· + 1) h.parsed
    . dsimp only
      omega
  . rw [hnew]
    refine { h with store := ?_, parsed := ?_, stored := ?_, verdicts := ?_ }
    . dsimp only
      rw [h.store, List.reverse_cons, List.foldl_append]
      rfl
    . exact congrArg (· + 1) h.parsed
    . exact congrArg (· + 1) h.stored
    . dsimp only
      omega

theorem Accounts.takeLines (h : s.Accounts before read parsed) (limit : Nat) (stamps : StampSupply)
    (stamp : Stamp) (lines : List String)
    : (takeLines limit stamps s lines).Accounts before read
        (parsed + lines.countP fun line => (AuditLine.parse limit stamp line).isSome) := by
  induction lines generalizing s stamps parsed with
  | nil => exact h
  | cons line rest ih =>
    have hparsed := isSome_eventOfLine limit stamps.next stamp line
    unfold Ingesting.takeLines
    rw [List.countP_cons, ← hparsed]
    cases eventOfLine limit stamps.next line with
    | some event =>
      have hrest := ih (h.offer event) (stamps.skip 1)
      rwa [Nat.add_right_comm] at hrest
    | none => exact ih h (stamps.skip 1)

end Ingesting

/--
What a tick that went through lines tells of itself, and what it did.
-/
structure Tick.Accounts (tick : Tick) (limit : Nat) (lines : List String) (before : EventStore) : Prop where
  linesRead : tick.report.linesRead = lines.length
  parsed : ∀ stamp,
    tick.report.parsed = lines.countP fun line => (AuditLine.parse limit stamp line).isSome
  verdicts : tick.report.parsed = tick.report.stored + tick.report.duplicates
  stored : tick.store.appended = before.appended + tick.report.stored
  sourceError : tick.report.sourceError = none

namespace Ingestion

variable {ingestion : Ingestion} {host : Host} {source : LogSource}

theorem tick_accounts {lines : List String} (hpoll : ingestion.source.poll host = (.ok lines, source))
    (store : EventStore) (stamps : StampSupply)
    : let tick := ingestion.tick host store stamps
      tick.store = tick.announced.foldl EventStore.append store
        ∧ tick.Accounts ingestion.lineLimit lines store := by
  have hdone := fun stamp => (Ingesting.accounts_start store lines.length).takeLines
    ingestion.lineLimit stamps stamp lines
  unfold tick
  rw [hpoll]
  refine ⟨(hdone default).store, ?_⟩
  constructor
  . exact (hdone default).linesRead
  . intro stamp
    have hparsed := (hdone stamp).parsed
    rwa [Nat.zero_add] at hparsed
  . exact (hdone default).verdicts
  . have happended := congrArg EventStore.appended (hdone default).store
    rw [EventStore.appended_foldl_append, List.length_reverse, ← (hdone default).stored] at happended
    exact happended
  . exact (hdone default).sourceError

theorem tick_report_of_error {error : IngestError}
    (hpoll : ingestion.source.poll host = (.error error, source)) (store : EventStore)
    (stamps : StampSupply)
    : (ingestion.tick host store stamps).report = { sourceError := some error.message } := by
  unfold tick
  rw [hpoll]

end Ingestion

theorem EventStore.recordTestEvent_cases (store : EventStore) (input : TestEvent) (stamp : Stamp)
    : store.recordTestEvent input stamp = { store }
        ∨
      store.recordTestEvent input stamp
        = { store := store.append (input.toEvent stamp)
            event := some (input.toEvent stamp)
            measurements := store.appendMeasurements } := by
  unfold recordTestEvent
  rcases store.appendIfAbsent_cases (input.toEvent stamp) with hheld | hnew
  . left
    simp only [hheld]
  . right
    simp only [hnew]

namespace Bulletin

variable {bulletin : Bulletin}

/--
What one call does and tells. A tick that fails and a test event that is refused do nothing.
-/
def Accounts (bulletin : Bulletin) : Intake → Prop
  | .tick ingestion host stamps =>
    let tick := ingestion.tick host bulletin.store stamps
    match (ingestion.source.poll host).1 with
    | .ok lines => tick.Accounts ingestion.lineLimit lines bulletin.store
    | .error error =>
      bulletin.takeIn (.tick ingestion host stamps) = bulletin
        ∧ tick.report = { sourceError := some error.message }
  | .part .. => True
  | .test input stamp =>
    match (bulletin.store.recordTestEvent input stamp).event with
    | some event =>
      event = input.toEvent stamp
        ∧ bulletin.takeIn (.test input stamp)
            = { store := bulletin.store.append event, announced := bulletin.announced ++ [event] }
    | none => bulletin.takeIn (.test input stamp) = bulletin

theorem accounts (bulletin : Bulletin) (intake : Intake) : bulletin.Accounts intake := by
  cases intake with
  | tick ingestion host stamps =>
    cases hpoll : ingestion.source.poll host with
    | mk answer source =>
      simp only [Accounts, hpoll]
      cases answer with
      | ok lines => exact (Ingestion.tick_accounts hpoll bulletin.store stamps).2
      | error error =>
        have htick := Ingestion.tick_of_error hpoll bulletin.store stamps
        refine ⟨?_, Ingestion.tick_report_of_error hpoll bulletin.store stamps⟩
        unfold takeIn
        simp only [htick.2.2.1, htick.2.2.2, List.append_nil]
  | part limit stamps lines => trivial
  | test input stamp =>
    unfold Accounts takeIn
    rcases bulletin.store.recordTestEvent_cases input stamp with hrefused | hrecorded
    . simp [hrefused]
    . simp [hrecorded]

/-! ### Runs -/

def toRun (bulletin : Bulletin) : StoreRun where
  store := bulletin.store
  accepted := bulletin.announced

theorem takeIn_toRun (bulletin : Bulletin) (intake : Intake) :
    (bulletin.takeIn intake).toRun = bulletin.toRun.takeIn intake := by
  cases intake with
  | tick ingestion host stamps => rfl
  | part limit stamps lines => rfl
  | test input stamp =>
    rfl

theorem takeInAll_toRun (bulletin : Bulletin) (intakes : List Intake) :
    (bulletin.takeInAll intakes).toRun = bulletin.toRun.takeInAll intakes := by
  unfold takeInAll StoreRun.takeInAll
  induction intakes generalizing bulletin with
  | nil => rfl
  | cons intake intakes ih => rw [List.foldl_cons, List.foldl_cons, ih, takeIn_toRun]

/--
The store is what appending the announced events made of the store of the beginning.
-/
def Sound (before : EventStore) (bulletin : Bulletin) : Prop :=
  bulletin.store = bulletin.announced.foldl EventStore.append before

theorem Sound.takeIn {before : EventStore} (h : bulletin.Sound before) (intake : Intake) :
    (bulletin.takeIn intake).Sound before := by
  unfold Sound at *
  cases intake with
  | tick ingestion host stamps =>
    unfold Bulletin.takeIn
    rw [List.foldl_append, ← h]
    cases hpoll : ingestion.source.poll host with
    | mk answer source =>
      cases answer with
      | ok lines => exact (Ingestion.tick_accounts hpoll bulletin.store stamps).1
      | error error =>
        have htick := Ingestion.tick_of_error hpoll bulletin.store stamps
        simp only [htick.2.2.1, htick.2.2.2, List.foldl_nil]
  | part limit stamps lines =>
    unfold Bulletin.takeIn
    rw [List.foldl_append, ← h]
    exact ((Ingesting.accounts_start bulletin.store 0).takeLines limit stamps default lines).store
  | test input stamp =>
    unfold Bulletin.takeIn
    rw [List.foldl_append, ← h]
    rcases bulletin.store.recordTestEvent_cases input stamp with hrefused | hrecorded
    . simp [hrefused]
    . simp [hrecorded]

theorem Sound.takeInAll {before : EventStore} (h : bulletin.Sound before) (intakes : List Intake) :
    (bulletin.takeInAll intakes).Sound before := by
  unfold Bulletin.takeInAll
  induction intakes generalizing bulletin with
  | nil => exact h
  | cons intake intakes ih => exact ih (h.takeIn intake)

/--
What is announced while ticks and test events come is what the store appends of all that is offered to it, in
this order and as it is appended; and every call tells what it did.
-/
theorem takeInAll_announces_appended (store : EventStore) (intakes : List Intake)
    : let bulletin := Bulletin.takeInAll { store } intakes
      let history := ({ store } : StoreRun).offerAll (intakes.flatMap Intake.candidates)
      bulletin.announced = history.accepted
        ∧
      bulletin.store = history.store
        ∧
      bulletin.store = bulletin.announced.foldl EventStore.append store
        ∧
      bulletin.store.appended = store.appended + bulletin.announced.length
        ∧
      (∀ earlier intake later, intakes = earlier ++ intake :: later →
        (Bulletin.takeInAll { store } earlier).Accounts intake) := by
  intro bulletin history
  have hrun : bulletin.toRun = history :=
    (takeInAll_toRun { store } intakes).trans (StoreRun.takeInAll_eq_offerAll _ _)
  have hstart : ({ store } : Bulletin).Sound store := rfl
  have hsound : bulletin.Sound store := hstart.takeInAll intakes
  refine ⟨congrArg StoreRun.accepted hrun, congrArg StoreRun.store hrun, hsound, ?_, ?_⟩
  . rw [← EventStore.appended_foldl_append, ← hsound]
  . intro earlier intake later hintakes
    exact Bulletin.accounts _ intake

/-- A line comes twice in one tick and once again as a test event, and a tick between them fails. -/
theorem takeInAll_announces_appended_repeated
    : let host : Host :=
        { file := fun _ => { status := .error .notFound, reading := .error .notFound }
          run := fun _ _ _ => .timedOut
          listen := .ok }
      let tick (from_ : Nat) (answer : Except IngestError (List String)) : Intake :=
        .tick { source := .scripted "script" [answer], lineLimit := 64 } host
          ⟨fun n => ⟨toString n, default⟩, from_⟩
      let test (rawLog : String) : Intake := .test { TestEvent.blank with rawLog := some rawLog } default
      let line := "ModSecurity: Access denied"
      let intakes := [tick 1 (.ok [line, "noise", line]), tick 4 (.error default), test line,
        tick 4 (.ok [line ++ "!", line]), test "end"]
      let store := EventStore.empty 2
      let bulletin := Bulletin.takeInAll { store } intakes
      bulletin.announced.map (fun event => (event.id, event.rawLog))
          = [("1", line), ("4", line ++ "!"), ("", "end")]
        ∧
      bulletin.store.evicted = 1
        ∧
      bulletin.announced
          = (({ store } : StoreRun).offerAll (intakes.flatMap Intake.candidates)).accepted
        ∧
      (Bulletin.takeInAll { store } (intakes.take 3)).Accounts (tick 4 (.ok [line ++ "!", line])) := by
  intro host tick test line intakes store bulletin
  have hrun := takeInAll_announces_appended store intakes
  extract_lets at hrun
  have hsplit : intakes = intakes.take 3 ++ tick 4 (.ok [line ++ "!", line]) :: [test "end"] := rfl
  exact ⟨by decide +kernel, by decide +kernel, hrun.1, hrun.2.2.2.2 _ _ _ hsplit⟩

end Bulletin

end WafWatch

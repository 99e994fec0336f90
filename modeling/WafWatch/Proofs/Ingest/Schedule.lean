import WafWatch.Proofs.Ingest.Reading
import WafWatch.Proofs.Source.FileTail

/-!
This module contains the ingestion of a file that grows while it is followed. Once the file has been read to
its end, it does not matter how it grew, when it was polled and which polls failed: the store and the events
that were announced are those of its complete lines, taken one at a time.
-/

namespace WafWatch

/--
A file and the ingestion that follows it.
-/
structure Tailing where
  file : LogFile
  ingestion : Ingestion
  store : EventStore
  stamps : StampSupply
  /-- All events that were announced so far. -/
  announced : List SecurityEvent := []

namespace Tailing

/--
A file without octets at a path, and a new ingestion with a new store. Lines of more than `limit` octets are
skipped when the file is read, texts of more than `lineLimit` octets when lines are.
-/
def start (path : String) (inode limit lineLimit capacity : Nat) (stamps : StampSupply) : Tailing where
  file := { inode, octets := [] }
  ingestion := { source := .file { path, limit }, lineLimit }
  store := .empty capacity
  stamps

def append (s : Tailing) (octets : List UInt8) : Tailing :=
  { s with file := { s.file with octets := s.file.octets ++ octets } }

def tick (s : Tailing) (host : Host) : Tailing :=
  let tick := s.ingestion.tick host s.store s.stamps
  { s with
    ingestion := tick.ingestion
    store := tick.store
    stamps := tick.stamps
    announced := s.announced ++ tick.announced }

/--
What may happen: the file grows, or a tick looks at it, with any steps of the look failing.
-/
inductive Step (path : String) (s : Tailing) : Tailing → Prop
  | append (octets : List UInt8) : Step path s (s.append octets)
  | tick (host : Host) (hseen : s.file.SeenAs (host.file path)) : Step path s (s.tick host)

/--
The source has read all octets of the file.
-/
def isConsumed (s : Tailing) : Bool :=
  match s.ingestion.source with
  | .file tail => tail.offset == s.file.octets.length
  | _ => false

def toRun (s : Tailing) : StoreRun where
  store := s.store
  accepted := s.announced

/--
What holds at all times: the source has caught up with the file to some offset, and apart from stamps the
lines up to there were taken one at a time.
-/
inductive Sound (path : String) (limit lineLimit capacity : Nat) (s : Tailing) : Prop
  | intro (tail : FileTail) (lines : List String)
    (hsource : s.ingestion.source = .file tail)
    (hpath : tail.path = path)
    (hlimit : tail.limit = limit)
    (hlineLimit : s.ingestion.lineLimit = lineLimit)
    (hcaught : tail.Caught s.file lines)
    (htaken : s.toRun.unstamped = (StoreRun.start capacity).takeEvents lineLimit lines)

variable {path : String} {inode limit lineLimit capacity : Nat} {stamps : StampSupply}
  {s s' : Tailing}

theorem start_sound (path : String) (inode limit lineLimit capacity : Nat) (stamps : StampSupply)
    : (start path inode limit lineLimit capacity stamps).Sound path limit lineLimit capacity := by
  refine .intro { path, limit } [] rfl rfl rfl rfl ?_ ?_
  . apply FileTail.caught_new
  . rfl

theorem Sound.append (h : s.Sound path limit lineLimit capacity) (octets : List UInt8)
    : (s.append octets).Sound path limit lineLimit capacity := by
  obtain ⟨tail, lines, hsource, hpath, hlimit, hlineLimit, hcaught, htaken⟩ := h
  refine .intro tail lines hsource hpath hlimit hlineLimit ?_ htaken
  apply hcaught.grown
  . rfl
  . apply List.prefix_append

theorem Sound.tick (h : s.Sound path limit lineLimit capacity) {host : Host}
    (hseen : s.file.SeenAs (host.file path))
    : (s.tick host).Sound path limit lineLimit capacity := by
  obtain ⟨tail, lines, hsource, hpath, hlimit, hlineLimit, hcaught, htaken⟩ := h
  rw [← hpath] at hseen
  have hframe := tail.poll_frame hseen
  cases hpoll : tail.poll (host.file tail.path) with
  | mk answer tail' =>
    rw [hpoll, hpath, hlimit] at hframe
    have hsourcePoll : s.ingestion.source.poll host = (answer, .file tail') := by
      rw [hsource, LogSource.poll, hpoll]
    cases answer with
    | error error =>
      -- a failed tick leaves the store alone, and the source where it was
      have htick := Ingestion.tick_of_error hsourcePoll s.store s.stamps
      obtain ⟨htickSource, htickLimit, htickStore, htickAnnounced⟩ := htick
      refine .intro tail' lines htickSource hframe.1 hframe.2 ?_ ?_ ?_
      . exact htickLimit.trans hlineLimit
      . exact hcaught.poll_error hseen hpoll
      . rw [← htaken]
        unfold Tailing.tick toRun
        simp only [htickStore, htickAnnounced, List.append_nil]
    | ok new =>
      have htick := Ingestion.tick_of_ok hsourcePoll s.store s.stamps s.announced
      obtain ⟨htickSource, htickLimit, htickRun⟩ := htick
      refine .intro tail' (lines ++ new) htickSource hframe.1 hframe.2 ?_ ?_ ?_
      . exact htickLimit.trans hlineLimit
      . exact hcaught.poll hseen hpoll
      . rw [StoreRun.takeEvents_append, ← htaken, ← hlineLimit, ← StoreRun.takeLines_unstamped]
        unfold Tailing.tick toRun
        simp only [htickRun]
        rfl

theorem Sound.of_reachable
    (hrun : Relation.ReflTransGen (Step path) (start path inode limit lineLimit capacity stamps) s)
    : s.Sound path limit lineLimit capacity := by
  induction hrun with
  | refl => apply start_sound
  | tail _ hstep ih =>
    cases hstep with
    | append octets => exact ih.append octets
    | tick host hseen => exact ih.tick hseen

/--
Once the file has been read to its end, the events of the store, its counters and the announced events are
those of taking the readable lines of the file one at a time, up to what events have from their stamps.
-/
theorem consumed_eq_takeLines
    (hrun : Relation.ReflTransGen (Step path) (start path inode limit lineLimit capacity stamps) s)
    (hconsumed : s.isConsumed = true) (stamps' : StampSupply)
    : let run := (StoreRun.start capacity).takeLines lineLimit stamps'
        (readableLines limit s.file.octets)
      s.store.events.map (·.unstamped) = run.store.events.map (·.unstamped)
        ∧
      s.store.evicted = run.store.evicted
        ∧
      s.store.appended = run.store.appended
        ∧
      s.announced.map (·.unstamped) = run.accepted.map (·.unstamped) := by
  intro run
  obtain ⟨tail, lines, hsource, hpath, hlimit, hlineLimit, hcaught, htaken⟩ := Sound.of_reachable hrun
  have hoffset : tail.offset = s.file.octets.length := by
    simpa [isConsumed, hsource] using hconsumed
  have hlines : lines = completeLines limit s.file.octets := by
    rw [hcaught.lines, hoffset, List.take_length, hlimit]
  have hsame : s.toRun.unstamped = run.unstamped := by
    rw [htaken, hlines, completeLines, StoreRun.takeEvents_filter_ne_empty,
      StoreRun.takeLines_unstamped, StoreRun.start_unstamped]
  unfold StoreRun.unstamped EventStore.unstamped at hsame
  simp only [StoreRun.mk.injEq, EventStore.mk.injEq] at hsame
  obtain ⟨⟨_, hevents, happended, hevicted⟩, hannounced⟩ := hsame
  exact ⟨hevents, hevicted, happended, hannounced⟩

/-- A line arrives in two parts, and a tick between them fails. -/
theorem consumed_eq_takeLines_cut
    : let stamps : StampSupply := { stamp := fun _ => default }
      let host (view : FileView) : Host :=
        { file := fun _ => view, run := fun _ _ _ => .timedOut, listen := .ok }
      let begun := (start "/log" 1 64 64 2 stamps).append (Text.encode "ModSecurity: Acc".toList)
      let polled := begun.tick (host begun.file.view)
      let missed := polled.tick (host { status := .error .notFound, reading := .error .notFound })
      let ended := missed.append (Text.encode "ess denied\n".toList)
      let s := ended.tick (host ended.file.view)
      s.isConsumed = true
        ∧
      s.announced.length = 1
        ∧
      s.store.events.map (·.unstamped)
        = ((StoreRun.start 2).takeLines 64 stamps (readableLines 64 s.file.octets)).store.events.map
            (·.unstamped) := by
  intro stamps host begun polled missed ended s
  have hconsumed : s.isConsumed = true := by decide +kernel
  have hbegun : Relation.ReflTransGen (Step "/log") (start "/log" 1 64 64 2 stamps) begun :=
    .single (.append _)
  have hpolled := hbegun.tail (.tick (host begun.file.view) begun.file.seenAs_view)
  have hmissed := hpolled.tail
    (.tick (host { status := .error .notFound, reading := .error .notFound }) ⟨nofun, nofun⟩)
  have hended := hmissed.tail (.append (Text.encode "ess denied\n".toList))
  have hrun := hended.tail (.tick (host ended.file.view) ended.file.seenAs_view)
  exact ⟨hconsumed, by decide +kernel, (consumed_eq_takeLines hrun hconsumed stamps).1⟩

end Tailing

end WafWatch

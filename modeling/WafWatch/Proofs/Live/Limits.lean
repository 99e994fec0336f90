import WafWatch.Proofs.Live.Lifecycle
import WafWatch.Proofs.Settings.Agreement

/-!
This module contains the limits of what a feed can run on. The checks of its settings have no upper bounds: no
size or time that they let pass is too small, but any of them may be so great that a task of the feed cannot do
its work. How great that is depends on how many places a queue can have and how late an instant can be.
-/

namespace WafWatch

namespace Time

/--
The greatest number of seconds that an instant can count: the greatest signed number of 64 bits.
-/
def maxInstantSeconds : Nat := UInt64.size / 2 - 1

/--
A reading of the clock by which timers are set.
-/
structure Instant where
  seconds : Nat
  nanos : Nat
  seconds_le : seconds ≤ maxInstantSeconds
  nanos_lt : nanos < 1000000000

/--
The instant that comes some time after another, unless that is later than an instant can be.
-/
def Instant.add? (now : Instant) (span : Span) : Option Instant :=
  let nanos := now.nanos + span.millis % 1000 * 1000000
  let seconds := now.seconds + span.millis / 1000 + nanos / 1000000000
  if h : seconds ≤ maxInstantSeconds then
    some ⟨seconds, nanos % 1000000000, h, Nat.mod_lt _ (by decide)⟩
  else none

theorem Instant.isSome_add?_ofSeconds {now : Instant} {seconds : Nat} :
    (now.add? (.ofSeconds seconds)).isSome = true ↔ seconds + now.seconds ≤ maxInstantSeconds := by
  have hnanos := now.nanos_lt
  have hwhole : seconds * 1000 / 1000 = seconds := by omega
  have hrest : seconds * 1000 % 1000 = 0 := by omega
  have hcarry : now.nanos / 1000000000 = 0 := by omega
  simp only [add?, Span.ofSeconds, hwhole, hrest, Nat.zero_mul, Nat.add_zero, hcarry]
  split <;> simp <;> omega

end Time

/-! ### The hub -/

namespace Station

variable {station after : Station}

/--
The hub has not been lost, and no subscriber that comes can be its end.
-/
structure Sturdy (station : Station) : Prop where
  isOpen : station.isLost = false
  capacity : station.hub.queueCapacity ≤ maxPermits
  numbered : station.hub.Numbered

/--
All else at a station may change.
-/
theorem Sturdy.of_eq (h : station.Sturdy) (hhub : after.hub = station.hub)
    (hlost : after.isLost = station.isLost)
    : after.Sturdy where
  isOpen := hlost.trans h.isOpen
  capacity := hhub ▸ h.capacity
  numbered := hhub ▸ h.numbered

theorem Sturdy.step (h : station.Sturdy) {event : HubEvent} (hhub : after.hub = station.hub.step event)
    (hlost : after.isLost = station.isLost)
    : after.Sturdy where
  isOpen := hlost.trans h.isOpen
  capacity := by
    rw [hhub, h.numbered.step_queueCapacity]
    exact h.capacity
  numbered := hhub ▸ h.numbered.step event

theorem Sturdy.isFatal_eq (h : station.Sturdy) (command : HubCommand) : station.isFatal command = false := by
  cases command with
  | register identity awaited => simpa [isFatal] using h.capacity
  | _ => rfl

theorem Sturdy.handleNext? (h : station.Sturdy) {reply : Option HubReply}
    (hnext : station.handleNext? = some (reply, after))
    : after.Sturdy := by
  cases hitems : station.mailbox.items with
  | nil => simp [Station.handleNext?, BoundedQueue.take?, hitems] at hnext
  | cons command rest =>
    obtain ⟨-, hafter⟩ := handleNext?_eq_some hitems hnext
    rw [h.isFatal_eq command] at hafter
    have hlost : after.mailbox.abandoned = station.mailbox.abandoned := by rw [hafter.2]
    exact h.step hafter.1 hlost

theorem Sturdy.handleMany (h : station.Sturdy) (count : Nat) : (station.handleMany count).2.Sturdy := by
  induction count generalizing station with
  | zero => exact h
  | succ count ih =>
    unfold Station.handleMany
    split
    . exact h
    . next hnext => exact ih (h.handleNext? hnext)

theorem Sturdy.start (h : station.Sturdy) : station.start.Sturdy := by
  unfold Station.start
  split
  . exact h
  . have hrunning : { station with running := true }.Sturdy := h.of_eq rfl rfl
    exact hrunning.handleMany _

theorem Sturdy.stop (h : station.Sturdy) : station.stop.Sturdy :=
  h.step (happens_stop station).hub rfl

theorem Sturdy.linger (h : station.Sturdy) (count : Nat) : (station.linger count).Sturdy := by
  have hrunning : { station with running := true }.Sturdy := h.of_eq rfl rfl
  exact (hrunning.handleMany count).stop

/--
A hub that is asked for a queue with too many places is lost.
-/
theorem isLost_of_register (hrunning : station.running = true) (hopen : station.isLost = false)
    (hitems : station.mailbox.items = []) (hroom : 0 < station.mailbox.capacity)
    (hcapacity : maxPermits < station.hub.queueCapacity) (identity : Identity) (awaited : Bool)
    : ∃ posted after, station.post (.register identity awaited) = .ok posted
        ∧ posted.handleNext? = some (none, after) ∧ after.isLost = true := by
  have hopen : station.mailbox.abandoned = false := hopen
  let posted : Station :=
    { station with mailbox := { station.mailbox with items := [.register identity awaited] } }
  refine ⟨posted, { posted with mailbox := { posted.mailbox with items := [] } }.lose, ?_, ?_, rfl⟩
  . simp [post, posted, BoundedQueue.offer, hopen, hitems, Nat.not_le.mpr hroom, Except.map]
  . simp [Station.handleNext?, posted, BoundedQueue.take?, hrunning, isFatal, hcapacity, lose]

end Station

/-! ### Feeds -/

namespace Feed

variable {feed : Feed} {settings : LiveSettings}

/--
The feed has its hub, and no task of it has failed.
-/
def isIntact (feed : Feed) : Bool :=
  !feed.station.isLost && feed.listenerTask.all (!·.failed) && feed.tickerTask.all (!·.failed)

/--
The feed runs on the settings, and its tasks have failed only if these are beyond what they can do.
-/
structure Equipped (settings : LiveSettings) (feed : Feed) : Prop where
  runsOn : feed.settings = settings
  listener : ∀ task ∈ feed.listenerTask, task.failed = !canListen settings
  ticker : ∀ task ∈ feed.tickerTask, task.failed = !canTick settings

theorem Equipped.start (h : feed.Equipped settings) (host : Host) :
    (feed.start host).2.Equipped settings := by
  rcases start_cases feed host with ⟨address, -, -, hstart⟩ | ⟨error, hstart⟩
  . rw [hstart, ← h.runsOn]
    constructor <;> simp [run, takeHub]
  . rw [hstart]
    exact h

theorem Equipped.stop (h : feed.Equipped settings) : feed.stop.2.Equipped settings := by
  unfold Feed.stop
  split
  . exact ⟨h.runsOn, by simp, by simp⟩
  . exact h

theorem Equipped.step (h : feed.Equipped settings) (step : FeedStep) :
    (feed.step step).Equipped settings := by
  cases step with
  | start host => exact h.start host
  | stop => exact h.stop
  | linger count =>
    simp only [Feed.step]
    split
    . exact { h with }
    . exact h
  | post command =>
    simp only [Feed.step]
    split
    . exact { h with }
    . exact h
  | handle =>
    simp only [Feed.step]
    split
    . exact { h with }
    . exact h
  | _ => exact { h with }

theorem sturdy_rest (h : feed.station.Sturdy) : feed.rest.Sturdy := by
  unfold rest
  split
  . exact h.stop.of_eq rfl rfl
  . exact h.of_eq rfl rfl

theorem sturdy_start (h : feed.station.Sturdy) (host : Host) : (feed.start host).2.station.Sturdy := by
  rcases start_cases feed host with ⟨address, -, -, hstart⟩ | ⟨error, hstart⟩
  . rw [hstart]
    have hstation : (if feed.parent.cancelled then feed.station else feed.station.start).Sturdy := by
      split
      . exact h
      . exact h.start
    exact hstation.of_eq (run_station feed.takeHub address).1 (run_isLost feed.takeHub address)
  . rw [hstart]
    exact h

theorem sturdy_step (h : feed.station.Sturdy) (step : FeedStep) : (feed.step step).station.Sturdy := by
  cases step with
  | start host => exact sturdy_start h host
  | stop =>
    rcases feed.stop_station with hrest | hsame
    . exact hrest ▸ sturdy_rest h
    . exact hsame ▸ h
  | cancel => exact sturdy_rest h
  | post command =>
    simp only [Feed.step]
    split
    . next station hpost =>
      obtain ⟨-, rfl⟩ := Station.post_eq_ok hpost
      exact h.of_eq rfl rfl
    . exact h
  | giveUp place => exact h.of_eq rfl rfl
  | handle =>
    simp only [Feed.step]
    split
    . next reply station hnext => exact h.handleNext? hnext
    . exact h
  | linger count =>
    simp only [Feed.step]
    split
    . exact h.linger count
    . exact h
  | take id =>
    have hhappens : feed.station.Happens (.take id) _ := Station.happens_act _ (by simp)
    exact h.step hhappens.hub rfl
  | abandon id =>
    have hhappens : feed.station.Happens (.abandon id) _ := Station.happens_act _ (by simp)
    exact h.step hhappens.hub rfl
  | pass store stamps => exact h.of_eq rfl rfl

theorem sturdy_after (h : feed.station.Sturdy) (steps : List FeedStep) :
    (feed.after steps).station.Sturdy := by
  induction steps generalizing feed with
  | nil => exact h
  | cons step steps ih => exact ih (sturdy_step h step)

theorem Equipped.after (h : feed.Equipped settings) (steps : List FeedStep) :
    (feed.after steps).Equipped settings := by
  induction steps generalizing feed with
  | nil => exact h
  | cons step steps ih => exact ih (h.step step)

/--
Whatever becomes of a feed, it stays intact as long as what it is asked for can be had.
-/
theorem isIntact_after (hqueue : settings.queueCapacity ≤ Station.maxPermits)
    (hlisten : canListen settings = true) (htick : canTick settings = true) (store : EventStore)
    (stamps : StampSupply) (steps : List FeedStep)
    : ((ofSettings settings store stamps).after steps).isIntact = true := by
  have hstart : (ofSettings settings store stamps).station.Sturdy :=
    ⟨rfl, Nat.max_le.mpr ⟨hqueue, by decide⟩, Hub.numbered_ofSettings settings⟩
  have hbefore : (ofSettings settings store stamps).Equipped settings :=
    ⟨rfl, by simp [ofSettings], by simp [ofSettings]⟩
  have hsturdy := sturdy_after hstart steps
  have hequipped := hbefore.after steps
  simp only [isIntact, hsturdy.isOpen, Bool.and_eq_true, Option.all_eq_true, Bool.not_eq_true']
  refine ⟨⟨trivial, ?_⟩, ?_⟩
  . intro task htask
    rw [hequipped.listener task htask, hlisten]
    rfl
  . intro task htask
    rw [hequipped.ticker task htask, htick]
    rfl

/--
A machine that lets every feed listen.
-/
def openHost : Host where
  file _ := { status := .error .notFound, reading := .error .notFound }
  run _ _ _ := .timedOut
  listen := .ok

theorem after_start (settings : LiveSettings) (store : EventStore) (stamps : StampSupply)
    : (ofSettings settings store stamps).after [.start openHost]
        = (ofSettings settings store stamps).takeHub.run settings.bindAddress :=
  congrArg Prod.snd (start_of_ok (by simp [ofSettings]) rfl rfl)

/--
A subscriber that comes to a feed that has just started is the end of its hub if it cannot be given a queue.
-/
theorem isLost_after_register (hqueue : Station.maxPermits < settings.queueCapacity) (store : EventStore)
    (stamps : StampSupply)
    : ((ofSettings settings store stamps).after
        [.start openHost, .post (.register .anonymous true), .handle]).station.isLost = true := by
  let started := (ofSettings settings store stamps).takeHub.run settings.bindAddress
  obtain ⟨hhub, hmailbox, hrunning⟩ :=
    run_station (ofSettings settings store stamps).takeHub settings.bindAddress
  have hmailbox : started.station.mailbox = { capacity := Station.mailboxCapacity } := hmailbox
  have hopen : started.station.isLost = false := congrArg BoundedQueue.abandoned hmailbox
  have hroom : 0 < started.station.mailbox.capacity := by
    rw [hmailbox]
    decide
  have hcapacity : Station.maxPermits < started.station.hub.queueCapacity := by
    rw [hhub]
    exact Nat.lt_of_lt_of_le hqueue (Nat.le_max_left _ _)
  obtain ⟨posted, after, hpost, hhandle, hlost⟩ :=
    Station.isLost_of_register hrunning hopen (congrArg BoundedQueue.items hmailbox) hroom hcapacity
      .anonymous true
  have hsteps : (ofSettings settings store stamps).after
      [.start openHost, .post (.register .anonymous true), .handle]
        = (((ofSettings settings store stamps).after [.start openHost]).step
            (.post (.register .anonymous true))).step .handle := rfl
  rw [hsteps, after_start]
  simp only [Feed.step, hpost, hhandle, hlost]

/--
A feed is intact at any time exactly if what it is asked for can be had.
-/
theorem forall_isIntact_iff (settings : LiveSettings) (store : EventStore) (stamps : StampSupply)
    : (∀ steps, ((ofSettings settings store stamps).after steps).isIntact = true)
        ↔
      settings.queueCapacity ≤ Station.maxPermits ∧ canListen settings = true
        ∧ canTick settings = true := by
  constructor
  . intro hintact
    have hstarted := hintact [.start openHost]
    rw [after_start] at hstarted
    have hserved := hintact [.start openHost, .post (.register .anonymous true), .handle]
    simp only [isIntact, Bool.and_eq_true, Bool.not_eq_true'] at hstarted hserved
    refine ⟨?_, ?_, ?_⟩
    . by_contra hqueue
      rw [isLost_after_register (Nat.lt_of_not_le hqueue)] at hserved
      exact Bool.noConfusion hserved.1.1
    . simpa [run, takeHub, ofSettings] using hstarted.1.2
    . simpa [run, takeHub, ofSettings] using hstarted.2
  . rintro ⟨hqueue, hlisten, htick⟩
    exact isIntact_after hqueue hlisten htick store stamps

theorem canListen_iff : canListen settings = true ↔ settings.maxConnections ≤ Station.maxPermits :=
  decide_eq_true_iff

/--
The ticker can do its work if there is an instant, however early, at which its timer can be set.
-/
theorem canTick_iff {seconds : Nat} (hstats : settings.statsInterval = .ofSeconds seconds) :
    canTick settings = true ↔ seconds + 1 ≤ Time.maxInstantSeconds := by
  have hwhole : seconds * 1000 / 1000 = seconds := by omega
  simp only [canTick, hstats, Time.Span.ofSeconds, hwhole, decide_eq_true_iff, maxTimerSeconds,
    Time.maxInstantSeconds, UInt64.size]
  omega

end Feed

/-! ### Settings -/

namespace LiveSettings

variable {hub : HubSettings} {live : LiveSettings}

/--
The times that are added to the present instant when a timer is set: by the ticker, by the writer of a
session, and by its reader when a ping is answered.
-/
def timerSpans (s : LiveSettings) : List Time.Span :=
  [s.statsInterval, s.pingInterval, s.readTimeout]

theorem exists_ofAddress (h : ofHub hub = .ok live) :
    ∃ address, live = ofAddress address hub ∧ live.validate = .ok () := by
  have hofHub : ofHub hub = readAddress hub.bindAddr >>= fun address =>
      (ofAddress address hub).validate >>= fun _ => pure (ofAddress address hub) := rfl
  rw [hofHub] at h
  cases haddress : readAddress hub.bindAddr with
  | error error =>
    rw [haddress] at h
    contradiction
  | ok address =>
    rw [haddress] at h
    cases hvalid : (ofAddress address hub).validate with
    | error error =>
      simp [bind, Except.bind, hvalid] at h
    | ok _ =>
      simp only [bind, Except.bind, hvalid, pure, Except.pure, Except.ok.injEq] at h
      exact ⟨address, h.symm, h ▸ hvalid⟩

theorem forall_isSome_add?_iff (address : Net.SocketAddress)
    (hping : hub.pingIntervalSecs < hub.readTimeoutSecs) (now : Time.Instant)
    : (∀ span ∈ (ofAddress address hub).timerSpans, (now.add? span).isSome = true)
        ↔
      hub.statsIntervalSecs + now.seconds ≤ Time.maxInstantSeconds
        ∧ hub.readTimeoutSecs + now.seconds ≤ Time.maxInstantSeconds := by
  simp only [timerSpans, ofAddress, List.forall_mem_cons, Time.Instant.isSome_add?_ofSeconds]
  constructor
  . rintro ⟨hstats, -, hread, -⟩
    exact ⟨hstats, hread⟩
  . rintro ⟨hstats, hread⟩
    exact ⟨hstats, by omega, hread, List.forall_mem_nil _⟩

/--
What the settings of a feed have to be like beyond what they are checked for. Nothing that passes the checks
is too small. All timers can be set at an instant exactly if the time between snapshots and the one for answers
to pings do not lead beyond the last instant. Whatever becomes of the feed, it keeps its hub and its tasks exactly
if its sizes are those of queues and its ticker can be started.
-/
theorem ofHub_limits (h : ofHub hub = .ok live)
    : (1 ≤ live.queueCapacity ∧ 1 ≤ live.maxConnections ∧ ∀ span ∈ live.timerSpans, 0 < span.millis)
        ∧
      (∀ now : Time.Instant,
        (∀ span ∈ live.timerSpans, (now.add? span).isSome = true)
          ↔ hub.statsIntervalSecs + now.seconds ≤ Time.maxInstantSeconds
            ∧ hub.readTimeoutSecs + now.seconds ≤ Time.maxInstantSeconds)
        ∧
      (∀ store stamps,
        (∀ steps, ((Feed.ofSettings live store stamps).after steps).isIntact = true)
          ↔ hub.queueCapacity ≤ Station.maxPermits ∧ hub.maxConnections ≤ Station.maxPermits
            ∧ hub.statsIntervalSecs + 1 ≤ Time.maxInstantSeconds) := by
  obtain ⟨address, rfl, hvalid⟩ := exists_ofAddress h
  rw [validate_eq_ok_iff] at hvalid
  simp only [checks, Check.positive, List.forall_mem_cons, bne_iff_ne, Bool.and_eq_true,
    decide_eq_true_eq] at hvalid
  dsimp only [ofAddress, Time.Span.ofSeconds] at hvalid
  obtain ⟨hqueue, hconnections, -, ⟨⟨hstats, -⟩, hping⟩, hread, -⟩ := hvalid
  refine ⟨⟨?_, ?_, ?_⟩, ?_, ?_⟩
  . show 1 ≤ hub.queueCapacity
    omega
  . show 1 ≤ hub.maxConnections
    omega
  . simp only [timerSpans, ofAddress, Time.Span.ofSeconds, List.forall_mem_cons]
    exact ⟨by omega, by omega, by omega, List.forall_mem_nil _⟩
  . exact forall_isSome_add?_iff address (by omega)
  . intro store stamps
    rw [Feed.forall_isIntact_iff, Feed.canListen_iff, Feed.canTick_iff rfl]
    rfl

/--
The settings that are taken if nothing else is asked for.
-/
theorem ofHub_limits_default
    : let address : Net.SocketAddress := { ip := .v4 (.replicate 4 0), port := 8081 }
      let live : LiveSettings := { bindAddress := address }
      let now : Time.Instant := ⟨1, 0, by decide, by decide⟩
      ofHub {} = .ok live
        ∧ (∀ span ∈ live.timerSpans, (now.add? span).isSome = true)
        ∧ ∀ store stamps steps, ((Feed.ofSettings live store stamps).after steps).isIntact = true := by
  intro address live now
  have hlive : ofHub {} = .ok live := by decide +kernel
  obtain ⟨-, htimers, hintact⟩ := ofHub_limits hlive
  exact ⟨hlive, (htimers now).mpr (by decide), fun store stamps => (hintact store stamps).mpr (by decide)⟩

/--
Each size and each time of these settings is beyond what can be had, and yet they pass all checks.
-/
theorem accepted_beyond_limits
    : let settings : Settings :=
        { hub :=
          { maxConnections := Station.maxPermits + 1
            queueCapacity := Station.maxPermits + 1
            statsIntervalSecs := Time.maxInstantSeconds
            pingIntervalSecs := Time.maxInstantSeconds
            readTimeoutSecs := Time.maxInstantSeconds + 1 } }
      let live := ofAddress { ip := .v4 (.replicate 4 0), port := 8081 } settings.hub
      settings.validate = .ok () ∧ settings.hub.enabled = true ∧ ofHub settings.hub = .ok live
        ∧
      Station.maxPermits < live.queueCapacity ∧ Station.maxPermits < live.maxConnections
        ∧
      (∀ now : Time.Instant, 1 ≤ now.seconds → ∀ span ∈ live.timerSpans, now.add? span = none)
        ∧
      (∀ store stamps,
        let started := (Feed.ofSettings live store stamps).after [.start Feed.openHost]
        let served := started.after [.post (.register .anonymous true), .handle]
        started.state = .running ∧ started.isIntact = false ∧ served.station.isLost = true) := by
  intro settings live
  refine ⟨by decide +kernel, rfl, by decide +kernel, by decide +kernel, by decide +kernel, ?_, ?_⟩
  . intro now hnow span hspan
    rw [← Option.not_isSome_iff_eq_none]
    simp only [live, settings, timerSpans, ofAddress, List.mem_cons, List.not_mem_nil, or_false] at hspan
    rcases hspan with rfl | rfl | rfl <;>
      (rw [Time.Instant.isSome_add?_ofSeconds, Time.maxInstantSeconds, UInt64.size]; omega)
  . intro store stamps started served
    have hrun : started = _ := Feed.after_start live store stamps
    have hlisten : Feed.canListen live = false := by decide +kernel
    refine ⟨?_, ?_, ?_⟩
    . rw [hrun]
      rfl
    . rw [hrun]
      simp [Feed.isIntact, Feed.run, Feed.takeHub, Feed.ofSettings, hlisten]
    . exact Feed.isLost_after_register (by decide +kernel) store stamps

end LiveSettings

end WafWatch

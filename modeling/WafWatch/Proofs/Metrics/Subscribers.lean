import WafWatch.Proofs.Live.Station
import WafWatch.Proofs.Live.Lifecycle
import WafWatch.Proofs.Metrics.Readings

/-!
This module contains the proof that the gauge of the subscribers shows how many there are. A subscriber comes or goes
only with a command or when the hub is stopped, and whenever that happens the gauge is set after the last one.
-/

namespace WafWatch

namespace Hub

/-! ### Subscribers -/

theorem clients_modify (hub : Hub) (id : Nat) (change : Subscriber → Subscriber)
    (hchange : ∀ s, (change s).connected = s.connected)
    : (hub.modify id change).clients = hub.clients := by
  have hconnected : (Subscriber.connected ∘ fun s => if s.id = id then change s else s) = Subscriber.connected := by
    funext s
    dsimp only [Function.comp_apply]
    split
    . exact hchange s
    . rfl
  unfold modify clients
  rw [List.countP_map]
  exact congrArg (List.countP · hub.subscribers) hconnected

/--
What the subscribers do with their queues costs them no place.
-/
theorem clients_take (hub : Hub) (id : Nat) : (hub.step (.take id)).clients = hub.clients := by
  unfold step takeFor?
  dsimp only
  split
  . next htaken =>
    split at htaken
    . next queue hqueue =>
      cases htaken
      exact clients_modify hub id (fun s => { s with queue }) fun _ => rfl
    . contradiction
  . rfl

theorem clients_abandon (hub : Hub) (id : Nat) : (hub.step (.abandon id)).clients = hub.clients :=
  clients_modify hub id _ fun _ => rfl

/--
Nobody loses a place while a message is offered to everybody.
-/
theorem clients_deliver (hub : Hub) (envelope : Envelope)
    : { hub with subscribers := hub.subscribers.map fun s => (deliver envelope s).1 }.clients = hub.clients := by
  unfold clients
  dsimp only
  rw [List.countP_map]
  apply List.countP_congr
  intro s hs
  dsimp only [Function.comp_apply]
  unfold deliver
  split
  . split <;> rfl
  . rfl

/-! ### Commands -/

/--
What was measured during a command shows the number of subscribers after it, if the gauge showed the one before.
-/
structure Outcome.Shows (outcome : Outcome) (before : Nat) : Prop where
  fits : ∀ measurement ∈ outcome.measurements, measurement.Fits
  recordAll : ∀ readings : Readings, readings.subscribers = before →
    readings.recordAll outcome.measurements = { readings with subscribers := outcome.hub.clients }

variable {hub : Hub} {outcome : Outcome} {reply : Option HubReply} {before : Nat} {measurement : Measurement}

theorem fits_gauge (hub : Hub) : hub.gauge.Fits := rfl

theorem record_gauge (hub : Hub) (readings : Readings) :
    readings.record hub.gauge = { readings with subscribers := hub.clients } :=
  rfl

theorem shows_nothing (h : hub.clients = before) : Outcome.Shows { hub, reply } before where
  fits := nofun
  recordAll readings hbefore := by
    rw [h, ← hbefore]
    rfl

theorem shows_gauge (hub : Hub) (before : Nat) : Outcome.Shows { hub, reply, measurements := [hub.gauge] } before where
  fits := by simp [fits_gauge]
  recordAll _ _ := rfl

/--
A counter that is none of the readings.
-/
theorem Outcome.Shows.cons (h : outcome.Shows before) (hfits : measurement.Fits)
    (hrecord : ∀ readings : Readings, readings.record measurement = readings)
    : Outcome.Shows { outcome with measurements := measurement :: outcome.measurements } before where
  fits := List.forall_mem_cons.mpr ⟨hfits, h.fits⟩
  recordAll readings hbefore := by
    rw [Readings.recordAll_cons, hrecord]
    exact h.recordAll readings hbefore

theorem shows_unregister (hub : Hub) (id : Nat) : (hub.unregister id).Shows hub.clients := by
  unfold unregister
  split
  . exact shows_gauge _ _
  . exact shows_nothing rfl

theorem shows_unregisterAll (hub : Hub) (ids : List Nat) : (hub.unregisterAll ids).Shows hub.clients := by
  induction ids generalizing hub with
  | nil => exact shows_nothing rfl
  | cons id ids ih =>
    unfold unregisterAll
    obtain ⟨hfits, hrecordAll⟩ := shows_unregister hub id
    obtain ⟨hlaterFits, hlater⟩ := ih (hub.unregister id).hub
    refine ⟨List.forall_mem_append.mpr ⟨hfits, hlaterFits⟩, ?_⟩
    intro readings hbefore
    rw [Readings.recordAll_append, hrecordAll readings hbefore]
    exact hlater _ rfl

theorem shows_register (hub : Hub) (snapshot : Snapshot) (now : Time.Timestamp) (identity : Identity)
    (awaited : Bool)
    : (hub.register snapshot now identity awaited).Shows hub.clients := by
  unfold register
  split
  . exact shows_gauge _ _
  . obtain ⟨hfits, hrecordAll⟩ := shows_unregister (hub.add snapshot now identity) (hub.lastId + 1)
    refine ⟨List.forall_mem_cons.mpr ⟨fits_gauge _, hfits⟩, ?_⟩
    intro readings _
    rw [Readings.recordAll_cons, record_gauge]
    exact hrecordAll _ rfl

theorem shows_broadcast (hub : Hub) (envelope : Envelope) : (hub.broadcast envelope).Shows hub.clients := by
  unfold broadcast
  extract_lets refused offered outcome
  have hclients : offered.clients = hub.clients := hub.clients_deliver envelope
  have hremoved : outcome.Shows hub.clients := hclients ▸ offered.shows_unregisterAll (refused.map (·.1))
  have hcounted : Outcome.Shows
      { outcome with measurements := .add ⟨.messagesBroadcast, none⟩ 1 :: outcome.measurements } hub.clients :=
    hremoved.cons rfl fun _ => rfl
  -- the counters of those who lost their places are none of the readings
  clear_value outcome refused
  induction refused with
  | nil => exact hcounted
  | cons first refused ih => exact ih.cons rfl fun _ => rfl

theorem shows_reply (hub : Hub) (id : Nat) (envelope : Envelope) : (hub.reply id envelope).Shows hub.clients := by
  unfold reply
  split
  . exact shows_nothing rfl
  . split
    . exact shows_nothing (clients_modify hub id _ fun _ => rfl)
    . exact (shows_nothing rfl).cons rfl fun _ => rfl
    . exact shows_unregister hub id

theorem shows_handle (hub : Hub) (store : EventStore) (now : Time.Timestamp) (command : HubCommand) :
    (hub.handle store now command).Shows hub.clients := by
  cases command with
  | register identity awaited => exact shows_register hub _ now identity awaited
  | unregister id => exact shows_unregister hub id
  | broadcast envelope => exact shows_broadcast hub envelope
  | request id request => exact shows_reply hub id _
  | reject id reason => exact (shows_reply hub id _).cons rfl fun _ => rfl
  | count awaited => exact shows_nothing rfl

end Hub

/-! ### The station -/

/--
A step of the hub at work, or of somebody around it.
-/
inductive StationStep where
  /-- Somebody offers a command to the mailbox. -/
  | post (command : HubCommand)
  /-- Whoever waits for the answer to a command of the mailbox stops waiting. -/
  | giveUp (place : Nat)
  /-- The hub handles the first command of the mailbox. -/
  | handle
  | take (id : Nat)
  | abandon (id : Nat)
  | resume
  | stop
  /-- Time passes. -/
  | wait (stamps : StampSupply)

namespace Station

def step (station : Station) : StationStep → Station
  | .post command =>
    match station.post command with
    | .ok station => station
    | .error _ => station
  | .giveUp place => station.giveUp place
  | .handle =>
    match station.handleNext? with
    | some (_, station) => station
    | none => station
  | .take id => station.act (.take id)
  | .abandon id => station.act (.abandon id)
  | .resume => station.resume
  | .stop => station.stop
  | .wait stamps => { station with stamps }

/--
The subscribers have the ids that were given, and there are none if nobody can be given a queue.
-/
structure Attended (station : Station) : Prop where
  numbered : station.hub.Numbered
  nobody : maxPermits < station.hub.queueCapacity → station.hub.clients = 0

/--
What a step of the hub leaves as it is, and what it does to the meter: if the gauge showed the number of subscribers
before, it shows the number after.
-/
structure Shows (station after : Station) : Prop where
  store : after.store = station.store
  attended : after.Attended
  readings : station.meter.readings.subscribers = station.hub.clients →
    after.meter.readings = { station.meter.readings with subscribers := after.hub.clients }

variable {station after : Station}

theorem attended_ofSettings (settings : LiveSettings) (store : EventStore) (stamps : StampSupply) :
    (ofSettings settings store stamps).Attended where
  numbered := Hub.numbered_ofSettings settings
  nobody _ := rfl

theorem Attended.of_eq (h : station.Attended) (hhub : after.hub = station.hub) : after.Attended :=
  ⟨hhub ▸ h.numbered, hhub ▸ h.nobody⟩

/--
If nobody can be given a queue, nobody comes.
-/
theorem Attended.step_hub (h : station.Attended) (event : HubEvent) (hhub : after.hub = station.hub.step event)
    (harrivals : maxPermits < station.hub.queueCapacity → station.hub.arrivals event = [])
    : after.Attended where
  numbered := hhub ▸ h.numbered.step event
  nobody hlarge := by
    rw [hhub, h.numbered.step_queueCapacity] at hlarge
    rw [hhub]
    exact h.numbered.clients_step (h.nobody hlarge) (harrivals hlarge)

/--
Nothing is measured where neither the hub nor the store changes.
-/
theorem Attended.shows_of_eq (h : station.Attended) (hstore : after.store = station.store)
    (hhub : after.hub = station.hub) (hmeter : after.meter = station.meter)
    : station.Shows after where
  store := hstore
  attended := h.of_eq hhub
  readings hgauge := by rw [hmeter, hhub, ← hgauge]

theorem Attended.shows_act (h : station.Attended) {event : HubEvent} (harrivals : station.hub.arrivals event = [])
    (hclients : (station.hub.step event).clients = station.hub.clients)
    : station.Shows (station.act event) where
  store := rfl
  attended := h.step_hub event rfl fun _ => harrivals
  readings hgauge := by
    change station.meter.readings = { station.meter.readings with subscribers := (station.hub.step event).clients }
    rw [hclients, ← hgauge]

theorem Attended.shows_handleNext? (h : station.Attended) {reply : Option HubReply}
    (hnext : station.handleNext? = some (reply, after))
    : station.Shows after := by
  unfold handleNext? at hnext
  split at hnext
  . split at hnext
    . next command mailbox htake =>
      split at hnext
      . -- the hub is lost, but it had no subscribers
        next hfatal =>
        cases hnext
        have hlarge : maxPermits < station.hub.queueCapacity := by
          cases command with
          | register identity awaited => exact of_decide_eq_true hfatal
          | _ => contradiction
        refine ⟨rfl, h.step_hub .stop rfl fun _ => rfl, ?_⟩
        intro hgauge
        rw [h.nobody hlarge] at hgauge
        change station.meter.readings = { station.meter.readings with subscribers := station.hub.close.hub.clients }
        rw [Hub.clients_close, ← hgauge]
      . next hsound =>
        cases hnext
        have hshows := station.hub.shows_handle station.store station.now command
        refine ⟨rfl, h.step_hub (.handle station.store station.now command) rfl ?_, ?_⟩
        . intro hlarge
          cases command with
          | register identity awaited => exact absurd (decide_eq_true hlarge) hsound
          | _ => rfl
        . intro hgauge
          exact (Meter.readings_recordAll _ hshows.fits).trans (hshows.recordAll _ hgauge)
    . contradiction
  . contradiction

theorem Attended.shows_stop (h : station.Attended) : station.Shows station.stop where
  store := rfl
  attended := h.step_hub .stop rfl fun _ => rfl
  readings _ := Meter.readings_recordAll station.meter (List.forall_mem_singleton.mpr (Hub.fits_gauge _))

theorem Attended.shows_step (h : station.Attended) (step : StationStep) : station.Shows (station.step step) := by
  cases step with
  | post command =>
    unfold Station.step
    dsimp only
    split
    . next hpost =>
      rw [(post_eq_ok hpost).2]
      exact h.shows_of_eq rfl rfl rfl
    . exact h.shows_of_eq rfl rfl rfl
  | giveUp place => exact h.shows_of_eq rfl rfl rfl
  | handle =>
    unfold Station.step
    dsimp only
    split
    . next hnext => exact h.shows_handleNext? hnext
    . exact h.shows_of_eq rfl rfl rfl
  | take id => exact h.shows_act rfl (Hub.clients_take _ id)
  | abandon id => exact h.shows_act rfl (Hub.clients_abandon _ id)
  | resume =>
    unfold Station.step resume
    dsimp only
    split <;> exact h.shows_of_eq rfl rfl rfl
  | stop => exact h.shows_stop
  | wait stamps => exact h.shows_of_eq rfl rfl rfl

end Station

end WafWatch

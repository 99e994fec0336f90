import WafWatch.Proofs.Live.Delivery
import WafWatch.Proofs.Live.Traffic

/-!
This module contains the proof that there is no gap between the snapshot that a subscriber gets at the
beginning and the announcements that follow, whatever writers, others and the hub do in whatever order.
-/

namespace WafWatch

namespace Hub

variable {hub : Hub} {s : Subscriber} {id : Nat}

/--
Between the snapshot that a subscriber gets at the beginning and what the hub announces after some events
there is no gap. Whoever has its place, or loses it by the announcement, is offered the event after its
snapshot, and whoever comes later gets a snapshot of a store that has accepted the event.
-/
structure Gapless (hub : Hub) (capacity : Nat) (accepted : List SecurityEvent) (write : Write)
    (before : List HubEvent) (announcement : HubEvent) (after : List HubEvent) : Prop where
  announced : ∃ store now time,
    announcement = .handle store now (.broadcast ⟨.newLog write.event, time⟩)
  offered : ∀ id,
    ((hub.run (before ++ [announcement])).connected? id).isSome = true
        ∨ ((hub.run before).connected? id).isSome = true
          ∧ (hub.run (before ++ [announcement])).connected? id = none →
      ∃ s time,
        (∃ earlier store now identity awaited later,
          before = earlier ++ .handle store now (.register identity awaited) :: later
            ∧ (hub.run earlier).Served store now identity awaited later s)
          ∧ (hub.run before).connected? id = some s
          ∧ (hub.run (before ++ [announcement])).connected? id
              =
            if s.queue.abandoned ∨ s.queue.capacity ≤ s.queue.items.length then none
            else
              some { s with queue := { s.queue with
                items := s.queue.items ++ [⟨.newLog write.event, time⟩] } }
  informed : ∀ store now identity awaited,
    .handle store now (.register identity awaited) ∈ after → write.KnownTo capacity accepted store

section

variable (store : EventStore) (now : Time.Timestamp) (envelope : Envelope)

theorem Numbered.connected?_broadcast (h : hub.Numbered) (hplace : hub.connected? id = some s)
    : (hub.step (.handle store now (.broadcast envelope))).connected? id
        =
      if s.queue.abandoned ∨ s.queue.capacity ≤ s.queue.items.length then none
      else some { s with queue := { s.queue with items := s.queue.items ++ [envelope] } } := by
  obtain ⟨hs, rfl, hconnected⟩ := connected?_eq_some hplace
  have hnext := (h.step _).connected?_eq (h.step_mem hs (.handle store now (.broadcast envelope)))
  rw [Subscriber.step_id] at hnext
  rw [hnext, Subscriber.step, Subscriber.deliver_eq, if_pos hconnected]
  split <;> rfl

theorem Numbered.isSome_connected?_of_broadcast (h : hub.Numbered)
    (hplace : ((hub.step (.handle store now (.broadcast envelope))).connected? id).isSome = true)
    : (hub.connected? id).isSome = true := by
  obtain ⟨t, ht⟩ := Option.isSome_iff_exists.mp hplace
  obtain ⟨hmem, hid, hconnected⟩ := connected?_eq_some ht
  -- nobody comes with a message
  rw [h.step_eq, List.mem_append, List.mem_map] at hmem
  rcases hmem with ⟨s, hs, rfl⟩ | hnew
  . rw [Subscriber.step_connected_iff] at hconnected
    rw [← hid, Subscriber.step_id, h.isSome_connected?_eq hs]
    exact hconnected.1
  . contradiction

end

theorem gapless {settings : LiveSettings} {capacity : Nat} {accepted : List SecurityEvent}
    {write : Write} {before after : List HubEvent} {announcement : HubEvent} {store : EventStore}
    {now : Time.Timestamp} {command : HubCommand}
    (hevent : announcement = .handle store now command) (hcommand : write.AnnouncedBy command)
    (hinformed : ∀ store now identity awaited,
      .handle store now (.register identity awaited) ∈ after → write.KnownTo capacity accepted store)
    : (ofSettings settings).Gapless capacity accepted write before announcement after := by
  obtain ⟨time, rfl⟩ := hcommand
  subst hevent
  have hstart := numbered_ofSettings settings
  have hbefore := hstart.run before
  constructor
  . exact ⟨store, now, time, rfl⟩
  . intro id hsubscriber
    rw [run_append] at hsubscriber ⊢
    have hplace : (((ofSettings settings).run before).connected? id).isSome = true := by
      cases hsubscriber with
      | inl hstays => exact hbefore.isSome_connected?_of_broadcast _ _ _ hstays
      | inr hevicted => exact hevicted.1
    obtain ⟨s, hs⟩ := Option.isSome_iff_exists.mp hplace
    have henough : 2 ≤ (ofSettings settings).queueCapacity := Nat.le_max_right _ _
    have hserved := hstart.served_of_mem_run rfl henough (connected?_eq_some hs).1
    exact ⟨s, time, hserved, hs, hbefore.connected?_broadcast _ _ _ hs⟩
  . exact hinformed

end Hub

namespace Traffic

variable {settings : LiveSettings} {capacity : Nat} {traffic : Traffic}

theorem Sound.gapless (h : traffic.Sound settings capacity) {before after : List Happening}
    {happening : Happening} {write : Write} (hlog : traffic.log = before ++ happening :: after)
    (hwrite : happening.write = some write)
    : (Hub.ofSettings settings).Gapless capacity traffic.accepted write (before.map (·.event))
        happening.event (after.map (·.event)) := by
  obtain ⟨store, now, command, hevent, hcommand⟩ := h.handled happening (by simp [hlog]) write hwrite
  apply Hub.gapless hevent hcommand
  intro store now identity awaited hregistered
  obtain ⟨later, hlater, hregistration⟩ := List.mem_map.mp hregistered
  have hinforms := h.informs
  rw [hlog, List.pairwise_append, List.pairwise_cons] at hinforms
  exact hinforms.2.1.1 later hlater write store now _ hwrite hregistration

/--
Whatever writers, others and the hub do in whatever order, the announcements that the mailbox accepts are
handled in this order, unless the hub is lost, and each of them without a gap.
-/
theorem start_run_gapless (settings : LiveSettings) (capacity : Nat) (stamps : StampSupply)
    (steps : List TrafficStep)
    : let traffic := (start settings capacity stamps).run steps
      traffic.station.hub = (Hub.ofSettings settings).run (traffic.log.map (·.event))
        ∧
      traffic.station.store = .ofHistory (max capacity 1) traffic.accepted
        ∧
      (∀ write ∈ traffic.announced, traffic.accepted[write.number]? = some write.event)
        ∧
      (∃ lost,
        traffic.announced
            = traffic.log.filterMap (·.write) ++ traffic.labels.filterMap id ++ lost
          ∧ (lost = [] ∨ traffic.station.isLost = true))
        ∧
      (∀ before happening after write,
        traffic.log = before ++ happening :: after → happening.write = some write →
          (Hub.ofSettings settings).Gapless (max capacity 1) traffic.accepted write
            (before.map (·.event)) happening.event (after.map (·.event))) := by
  intro traffic
  have h : traffic.Sound settings (max capacity 1) := start_run_sound settings capacity stamps steps
  refine ⟨h.hub_eq, h.store_eq, h.announced, h.fifo, ?_⟩
  intro before happening after write hlog hwrite
  exact h.gapless hlog hwrite

/--
One subscriber comes before the event is stored, one before it is announced, and one after that.
-/
theorem start_run_gapless_between
    : let settings : LiveSettings := { bindAddress := default }
      let event := SecurityEvent.ofRaw default "attack"
      let register : List TrafficStep := [.post (.register .anonymous true), .handle]
      let steps := [.resume] ++ register ++ [.write (.appendIfAbsent event)] ++ register
        ++ [.announce 0, .handle] ++ register
      let stamps : StampSupply := ⟨fun _ => default, 0⟩
      let traffic := (start settings 1 stamps).run steps
      traffic.station.hub.subscribers.map (·.queue.items.map (·.message.kind))
          = [["welcome", "stats", "new_log"], ["welcome", "stats", "new_log"], ["welcome", "stats"]]
        ∧
      traffic.log.map (·.write) = [none, none, some ⟨0, event⟩, none]
        ∧
      (Hub.ofSettings settings).Gapless 1 traffic.accepted ⟨0, event⟩
        ((traffic.log.take 2).map (·.event)) (traffic.log.getD 2 default).event
        ((traffic.log.drop 3).map (·.event)) := by
  intro settings event register steps stamps traffic
  have hrun := start_run_gapless settings 1 stamps steps
  extract_lets at hrun
  have hlog : traffic.log = traffic.log.take 2 ++ traffic.log.getD 2 default :: traffic.log.drop 3 := by
    decide +kernel
  have hwrite : (traffic.log.getD 2 default).write = some ⟨0, event⟩ := by decide +kernel
  exact ⟨by decide +kernel, by decide +kernel, hrun.2.2.2.2 _ _ _ _ hlog hwrite⟩

end Traffic

end WafWatch

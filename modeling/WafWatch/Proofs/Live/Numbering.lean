import Mathlib.Data.List.Induction
import WafWatch.Proofs.Live.Delivery
import WafWatch.Proofs.Live.Traffic

/-!
This module contains the proof that ids are never given twice and that whoever has lost its place is out of
reach for ever: a command with its id does nothing, however long it has been in the mailbox and however often
the hub was stopped and run again.
-/

namespace WafWatch

/--
The id of the subscriber that a command is about, if it is about one.
-/
def HubCommand.about? : HubCommand → Option Nat
  | .unregister id => some id
  | .request id _ => some id
  | .reject id _ => some id
  | _ => none

def HubEvent.isRegistration : HubEvent → Bool
  | .handle _ _ (.register ..) => true
  | _ => false

namespace Hub

/--
The ids of the subscribers that come with events, in this order.
-/
def issued (hub : Hub) : List HubEvent → List Nat
  | [] => []
  | event :: events =>
    ((hub.step event).subscribers.drop hub.subscribers.length).map (·.id)
      ++ (hub.step event).issued events

/--
An event removes the subscriber of an id: it is its registration and nobody waits for that any more, or the
subscriber has its place and the event costs it that.
-/
def Loses (hub : Hub) (id : Nat) : HubEvent → Prop
  | .handle _ _ (.register _ awaited) => id = hub.lastId + 1 ∧ awaited = false
  | event => ∃ s, hub.connected? id = some s ∧ event.Removes s

variable {hub : Hub} {s : Subscriber} {id : Nat}

/-! ### Ids -/

theorem length_arrivals (hub : Hub) (event : HubEvent) :
    (hub.arrivals event).length = if event.isRegistration then 1 else 0 := by
  cases event with
  | handle store now command => cases command <;> rfl
  | take id => rfl
  | abandon id => rfl
  | stop => rfl

theorem Numbered.step_lastId (h : hub.Numbered) (event : HubEvent) :
    (hub.step event).lastId = hub.lastId + if event.isRegistration then 1 else 0 := by
  rw [h.step_eq, length_arrivals]

theorem Numbered.drop_step_subscribers (h : hub.Numbered) (event : HubEvent) :
    (hub.step event).subscribers.drop hub.subscribers.length = hub.arrivals event := by
  rw [h.step_eq]
  apply List.drop_left'
  rw [List.length_map]

theorem Numbered.issued_eq (h : hub.Numbered) (events : List HubEvent)
    : hub.issued events = List.range' (1 + hub.lastId) (events.countP HubEvent.isRegistration) := by
  induction events generalizing hub with
  | nil => rfl
  | cons event events ih =>
    unfold issued
    rw [h.drop_step_subscribers, map_id_arrivals, ih (h.step event), h.step_lastId,
      length_arrivals, ← Nat.add_assoc, List.range'_append_1, List.countP_cons, Nat.add_comm _ (ite ..)]

theorem Numbered.run_lastId (h : hub.Numbered) (events : List HubEvent) :
    (hub.run events).lastId = hub.lastId + events.countP HubEvent.isRegistration := by
  induction events generalizing hub with
  | nil => rfl
  | cons event events ih =>
    have hrest := ih (h.step event)
    rw [h.step_lastId] at hrest
    rw [List.countP_cons]
    exact hrest.trans (by omega)

theorem Numbered.exists_mem_iff (h : hub.Numbered) :
    (∃ s ∈ hub.subscribers, s.id = id) ↔ 1 ≤ id ∧ id ≤ hub.lastId := by
  have hids : id ∈ hub.subscribers.map (·.id) ↔ 1 ≤ id ∧ id < 1 + hub.lastId := by
    rw [h, List.mem_range'_1]
  rw [← List.mem_map, hids]
  omega

/-! ### Places -/

/--
A command about somebody without a place does nothing.
-/
theorem handle_of_connected?_eq_none (hgone : hub.connected? id = none) {command : HubCommand}
    (habout : command.about? = some id) (store : EventStore) (now : Time.Timestamp)
    : (hub.handle store now command).hub = hub := by
  cases command with
  | unregister who =>
    injection habout with hwho
    simp [handle, unregister, hwho, hgone]
  | request who request =>
    injection habout with hwho
    simp [handle, reply, hwho, hgone]
  | reject who reason =>
    injection habout with hwho
    simp [handle, reply, hwho, hgone]
  | register identity awaited => contradiction
  | broadcast envelope => contradiction
  | count awaited => contradiction

theorem Numbered.step_connected?_eq_none_iff (h : hub.Numbered) (hs : s ∈ hub.subscribers)
    (event : HubEvent)
    : (hub.step event).connected? s.id = none ↔ s.connected = false ∨ event.Removes s := by
  have hplace := h.step_connected?_iff hs event
  rw [← Option.not_isSome_iff_eq_none, hplace]
  cases s.connected <;> simp

/--
Somebody who comes has no place exactly if nobody waits for its registration any more.
-/
theorem Numbered.arrival_connected?_eq_none_iff (h : hub.Numbered) {event : HubEvent}
    (hs : s ∈ hub.arrivals event)
    : (hub.step event).connected? s.id = none ↔ hub.Loses s.id event := by
  obtain ⟨store, now, identity, awaited, rfl, rfl⟩ := mem_arrivals hs
  have hmem := h.newcomer_mem store now identity awaited
  have hplace := (h.step _).connected?_eq hmem
  unfold newcomer at hplace
  rw [hplace]
  cases awaited <;> simp [Loses, newSubscriber]

theorem Numbered.step_loses_iff (h : hub.Numbered) (hs : s ∈ hub.subscribers) (event : HubEvent)
    : hub.Loses s.id event ↔ s.connected = true ∧ event.Removes s := by
  have hother : (∃ t, hub.connected? s.id = some t ∧ event.Removes t)
      ↔ s.connected = true ∧ event.Removes s := by
    rw [h.connected?_eq hs]
    cases s.connected <;> simp
  unfold Loses
  split
  . next store now identity awaited =>
    -- whoever comes has an id of its own
    have hid := (h.id_le hs).2
    constructor
    . rintro ⟨hnew, -⟩
      omega
    . rintro ⟨-, hnever⟩
      contradiction
  . exact hother

theorem Numbered.bounds_of_loses (h : hub.Numbered) {event : HubEvent}
    (hloses : hub.Loses id event)
    : 1 ≤ id ∧ id ≤ (hub.step event).lastId := by
  rw [h.step_lastId]
  unfold Loses at hloses
  split at hloses
  . rw [hloses.1]
    exact ⟨Nat.le_add_left _ _, Nat.le_refl _⟩
  . obtain ⟨s, hplace, -⟩ := hloses
    obtain ⟨hs, rfl, -⟩ := connected?_eq_some hplace
    have hbounds := h.id_le hs
    exact ⟨hbounds.1, Nat.le_add_right_of_le hbounds.2⟩

theorem exists_loses_concat_iff (hub : Hub) (id : Nat) (events : List HubEvent) (last : HubEvent)
    : (∃ before event after, events ++ [last] = before ++ event :: after ∧ (hub.run before).Loses id event)
        ↔
      (∃ before event after, events = before ++ event :: after ∧ (hub.run before).Loses id event)
        ∨ (hub.run events).Loses id last := by
  constructor
  . rintro ⟨before, event, after, hsplit, hloses⟩
    induction after using List.reverseRecOn with
    | nil =>
      obtain ⟨rfl, hlast⟩ := List.append_inj' hsplit rfl
      injection hlast with hlast
      exact .inr (hlast ▸ hloses)
    | append_singleton after final ih =>
      rw [← List.cons_append, ← List.append_assoc] at hsplit
      obtain ⟨hsplit, -⟩ := List.append_inj' hsplit rfl
      exact .inl ⟨before, event, after, hsplit, hloses⟩
  . rintro (⟨before, event, after, rfl, hloses⟩ | hloses)
    . exact ⟨before, event, after ++ [last], by simp, hloses⟩
    . exact ⟨events, last, [], rfl, hloses⟩

theorem Numbered.bounds_of_exists_loses (h : hub.Numbered) {events : List HubEvent}
    (hloses : ∃ before event after,
      events = before ++ event :: after ∧ (hub.run before).Loses id event)
    : 1 ≤ id ∧ id ≤ (hub.run events).lastId := by
  obtain ⟨before, event, after, rfl, hloses⟩ := hloses
  obtain ⟨hpositive, hle⟩ := (h.run before).bounds_of_loses hloses
  have hlater : (hub.run (before ++ event :: after)).lastId
      = ((hub.run before).step event).lastId + after.countP HubEvent.isRegistration := by
    rw [run_append]
    exact ((h.run before).step event).run_lastId after
  exact ⟨hpositive, hlater ▸ Nat.le_add_right_of_le hle⟩

/--
Whoever was registered has no place exactly if some event has removed it.
-/
theorem Numbered.run_connected?_eq_none_iff (h : hub.Numbered) (hnew : hub.lastId < id)
    (events : List HubEvent) (hissued : id ≤ (hub.run events).lastId)
    : (hub.run events).connected? id = none
        ↔
      ∃ before event after, events = before ++ event :: after ∧ (hub.run before).Loses id event := by
  induction events using List.reverseRecOn with
  | nil => exact absurd hissued (Nat.not_le.mpr hnew)
  | append_singleton events last ih =>
    have hevents := h.run events
    obtain ⟨s, hs, rfl⟩ := (h.run (events ++ [last])).exists_mem_iff.mpr ⟨by omega, hissued⟩
    rw [exists_loses_concat_iff, run_concat] at *
    rw [hevents.step_eq, List.mem_append, List.mem_map] at hs
    rcases hs with ⟨t, ht, rfl⟩ | hs
    . -- it has been there before the last event
      rw [Subscriber.step_id] at *
      have hplace := hevents.connected?_eq ht
      rw [hevents.step_connected?_eq_none_iff ht, hevents.step_loses_iff ht,
        ← ih (hevents.id_le ht).2, hplace]
      cases t.connected <;> simp
    . rw [hevents.arrival_connected?_eq_none_iff hs]
      constructor
      . exact .inr
      . rintro (hearlier | hloses)
        . -- nobody who has still to come has been removed
          have hle := (h.bounds_of_exists_loses hearlier).2
          obtain ⟨store, now, identity, awaited, rfl, rfl⟩ := mem_arrivals hs
          exact absurd hle (Nat.not_succ_le_self _)
        . exact hloses

end Hub

namespace Traffic

variable {settings : LiveSettings} {capacity : Nat} {traffic : Traffic}

theorem handle_hub_eq_self {command : HubCommand} {rest : List HubCommand} {id : Nat}
    (hitems : traffic.station.mailbox.items = command :: rest) (habout : command.about? = some id)
    (hgone : traffic.station.hub.connected? id = none)
    : traffic.handle.station.hub = traffic.station.hub := by
  unfold handle
  split
  . next first later reply station hfirst hnext =>
    obtain ⟨rfl, rfl⟩ := List.cons.inj (hitems.symm.trans hfirst)
    obtain ⟨-, hstation⟩ := Station.handleNext?_eq_some hitems hnext
    have hfatal : traffic.station.isFatal command = false := by
      cases command <;> first | rfl | contradiction
    rw [hfatal] at hstation ⊢
    exact hstation.1.trans (Hub.handle_of_connected?_eq_none hgone habout _ _)
  . rfl

/--
Whatever goes on around a hub, its subscribers get ids in ascending order, each its own, and whoever was
removed, in whatever way, is out of reach: no command with its id changes anything any more.
-/
theorem start_run_numbers (settings : LiveSettings) (capacity : Nat) (stamps : StampSupply)
    (steps : List TrafficStep)
    : let traffic := (start settings capacity stamps).run steps
      let first := Hub.ofSettings settings
      let events := traffic.log.map (·.event)
      let hub := traffic.station.hub
      hub = first.run events
        ∧
      (first.issued events).Pairwise (· < ·)
        ∧
      (first.issued events).length = events.countP HubEvent.isRegistration
        ∧
      hub.subscribers.map (·.id) = first.issued events
        ∧
      (∀ s ∈ hub.subscribers, s.id ≤ hub.lastId)
        ∧
      (∀ id ∈ first.issued events,
        hub.connected? id = none
          ↔
        ∃ before event after, events = before ++ event :: after ∧ (first.run before).Loses id event)
        ∧
      (∀ before event after id,
        events = before ++ event :: after → (first.run before).Loses id event →
          ∀ command : HubCommand, command.about? = some id →
            (∀ store now, (hub.handle store now command).hub = hub)
              ∧
            (∀ rest, traffic.station.mailbox.items = command :: rest →
              traffic.handle.station.hub = hub)) := by
  intro traffic first events hub
  have hsound : traffic.Sound settings (max capacity 1) := start_run_sound settings capacity stamps steps
  have hrun : hub = first.run events := hsound.hub_eq
  have hfirst : first.Numbered := Hub.numbered_ofSettings settings
  have hnumbered : hub.Numbered := hrun ▸ hfirst.run events
  have hissued := hfirst.issued_eq events
  have hlast : hub.lastId = events.countP HubEvent.isRegistration := by
    rw [hrun, hfirst.run_lastId]
    exact Nat.zero_add _
  have hgone : ∀ id, 1 ≤ id → id ≤ hub.lastId →
      (hub.connected? id = none
        ↔
      ∃ before event after, events = before ++ event :: after ∧ (first.run before).Loses id event) := by
    intro id hpositive hle
    rw [hrun] at hle ⊢
    exact hfirst.run_connected?_eq_none_iff hpositive events hle
  refine ⟨hrun, ?_, ?_, ?_, ?_, ?_, ?_⟩
  . rw [hissued]
    exact List.pairwise_lt_range'
  . rw [hissued, List.length_range']
  . rw [hnumbered, hissued, hlast]
    rfl
  . intro s hs
    exact (hnumbered.id_le hs).2
  . intro id hid
    rw [hissued, List.mem_range'_1, ← hlast] at hid
    have hzero : first.lastId = 0 := rfl
    apply hgone id
    . omega
    . omega
  . intro before event after id hevents hloses command habout
    have hexists : ∃ before event after,
        events = before ++ event :: after ∧ (first.run before).Loses id event :=
      ⟨before, event, after, hevents, hloses⟩
    obtain ⟨hpositive, hle⟩ := hfirst.bounds_of_exists_loses hexists
    have hnone : hub.connected? id = none := (hgone id hpositive (hrun ▸ hle)).mpr hexists
    refine ⟨Hub.handle_of_connected?_eq_none hnone habout, ?_⟩
    intro rest hitems
    exact handle_hub_eq_self hitems habout hnone

end Traffic

end WafWatch

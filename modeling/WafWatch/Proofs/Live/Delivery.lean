import WafWatch.Proofs.Live.Order

/-!
This module contains the proof that every subscriber gets the messages for everybody without gaps, from its
registration until it loses its place.
-/

namespace WafWatch

namespace Hub

variable {hub : Hub} {s : Subscriber}

def takenAt (id : Nat) (hub : Hub) : HubEvent → List Envelope
  | .take taker => if taker = id then ((hub.takeFor? id).map (·.1)).toList else []
  | _ => []

def takenBy (id : Nat) (hub : Hub) : List HubEvent → List Envelope
  | [] => []
  | event :: events => hub.takenAt id event ++ (hub.step event).takenBy id events

/--
The first of some events, as long as the subscriber of an id has its place after them.
-/
def spanOf (id : Nat) (hub : Hub) : List HubEvent → List HubEvent
  | [] => []
  | event :: events =>
    if ((hub.step event).connected? id).isSome then event :: (hub.step event).spanOf id events else []

theorem Numbered.isSome_connected?_eq (h : hub.Numbered) (hs : s ∈ hub.subscribers) :
    (hub.connected? s.id).isSome = s.connected := by
  rw [h.connected?_eq hs]
  cases s.connected <;> rfl

theorem Numbered.takenAt_eq (h : hub.Numbered) (hs : s ∈ hub.subscribers) (event : HubEvent) :
    hub.takenAt s.id event = s.takenAt event := by
  unfold takenAt Subscriber.takenAt
  cases event with
  | take id =>
    simp only [h.takeFor?_eq hs, BoundedQueue.take?, eq_comm (a := id)]
    split
    . cases s.queue.items <;> rfl
    . rfl
  | handle store now command => rfl
  | abandon id => rfl
  | stop => rfl

theorem takenAt_of_absent {id : Nat} (hnone : ∀ s ∈ hub.subscribers, s.id ≠ id)
    (event : HubEvent)
    : hub.takenAt id event = [] := by
  cases event with
  | take who => simp [takenAt, takeFor?, find?_eq_none hnone]
  | handle store now command => rfl
  | abandon who => rfl
  | stop => rfl

theorem Numbered.takenBy_eq (h : hub.Numbered) (hs : s ∈ hub.subscribers)
    (events : List HubEvent)
    : hub.takenBy s.id events = s.taken hub.defaultLogLimit events := by
  induction events generalizing hub s with
  | nil => rfl
  | cons event events ih =>
    have hrest := ih (h.step event) (h.step_mem hs event)
    rw [Subscriber.step_id, h.step_defaultLogLimit] at hrest
    unfold takenBy Subscriber.taken
    rw [h.takenAt_eq hs, hrest]

theorem Numbered.spanOf_eq (h : hub.Numbered) (hs : s ∈ hub.subscribers)
    (events : List HubEvent)
    : hub.spanOf s.id events = s.span hub.defaultLogLimit events := by
  induction events generalizing hub s with
  | nil => rfl
  | cons event events ih =>
    have hnext := h.step_mem hs event
    have hplace := (h.step event).isSome_connected?_eq hnext
    have hrest := ih (h.step event) hnext
    rw [Subscriber.step_id] at hplace hrest
    rw [h.step_defaultLogLimit] at hrest
    unfold spanOf Subscriber.span
    rw [hplace, hrest]

theorem Numbered.step_connected?_iff (h : hub.Numbered) (hs : s ∈ hub.subscribers)
    (event : HubEvent)
    : ((hub.step event).connected? s.id).isSome = true ↔ s.connected = true ∧ ¬event.Removes s := by
  have hplace := (h.step event).isSome_connected?_eq (h.step_mem hs event)
  rw [Subscriber.step_id] at hplace
  rw [hplace]
  exact s.step_connected_iff hub.defaultLogLimit event

/-! ### Deliveries -/

section

variable (store : EventStore) (now : Time.Timestamp) (identity : Identity) (awaited : Bool)
  (after : List HubEvent)

def joined (hub : Hub) : Hub :=
  hub.step (.handle store now (.register identity awaited))

def newcomer (hub : Hub) : Subscriber :=
  { hub.newSubscriber (store.snapshot now) now identity with connected := awaited }

/--
A subscriber that a hub registered, after the events that followed. What it took and what is on its queue is
the welcome, the snapshot and then what came with one event after the other, as long as it had its place.
-/
structure Served (hub : Hub) (s : Subscriber) : Prop where
  id_eq : s.id = hub.lastId + 1
  identity_eq : s.identity = identity
  capacity_eq : s.queue.capacity = hub.queueCapacity
  registered : ((hub.joined store now identity awaited).connected? s.id).isSome = awaited
  delivered :
    ∃ puts,
      List.Forall₂ (HubEvent.Puts hub.defaultLogLimit s.id)
          ((hub.joined store now identity awaited).spanOf s.id after) puts
        ∧ (hub.joined store now identity awaited).takenBy s.id after ++ s.queue.items
            =
          ⟨.welcome ServerMessage.welcomeText, now⟩ :: ⟨.stats (store.snapshot now), now⟩
            :: puts.flatten
  bounded : s.queue.items.length ≤ hub.queueCapacity

theorem Numbered.newcomer_mem (h : hub.Numbered) :
    hub.newcomer store now identity awaited
      ∈ (hub.joined store now identity awaited).subscribers := by
  unfold joined
  rw [h.step_eq]
  exact List.mem_append_right _ (List.mem_singleton.mpr rfl)

theorem Numbered.served (h : hub.Numbered) (hcapacity : 2 ≤ hub.queueCapacity) :
    hub.Served store now identity awaited after
      ((hub.newcomer store now identity awaited).run hub.defaultLogLimit after) := by
  have hjoined : (hub.joined store now identity awaited).Numbered := h.step _
  have hlimit :
      (hub.joined store now identity awaited).defaultLogLimit = hub.defaultLogLimit :=
    h.step_defaultLogLimit _
  -- what there is to see of the newcomer at the hub is a matter of the newcomer alone
  have hmem := h.newcomer_mem store now identity awaited
  have hplace := hjoined.isSome_connected?_eq hmem
  have hspan := hjoined.spanOf_eq hmem after
  have htaken := hjoined.takenBy_eq hmem after
  rw [hlimit] at hspan htaken
  obtain ⟨puts, hputs, hchanged⟩ :=
    (hub.newcomer store now identity awaited).run_changed hub.defaultLogLimit after
  constructor
  . exact hchanged.id
  . exact hchanged.identity
  . exact hchanged.capacity
  . rw [hchanged.id]
    exact hplace
  . rw [hchanged.id, hspan, htaken]
    exact ⟨puts, hputs, hchanged.items⟩
  . exact hchanged.bounded hcapacity

end

theorem Numbered.served_of_mem_run (h : hub.Numbered) (hnobody : hub.subscribers = [])
    (hcapacity : 2 ≤ hub.queueCapacity) {events : List HubEvent}
    (hs : s ∈ (hub.run events).subscribers)
    : ∃ before store now identity awaited after,
        events = before ++ .handle store now (.register identity awaited) :: after
          ∧ (hub.run before).Served store now identity awaited after s := by
  cases h.mem_run hs with
  | inl hold =>
    obtain ⟨t, ht, -⟩ := hold
    simp [hnobody] at ht
  | inr hnew =>
    obtain ⟨before, event, after, hevents, t, ht, rfl⟩ := hnew
    obtain ⟨store, now, identity, awaited, rfl, rfl⟩ := mem_arrivals ht
    refine ⟨before, store, now, identity, awaited, after, hevents, ?_⟩
    rw [← h.run_queueCapacity before] at hcapacity
    rw [← h.run_defaultLogLimit before]
    exact (h.run before).served store now identity awaited after hcapacity

theorem Numbered.exists_served (h : hub.Numbered) (hcapacity : 2 ≤ hub.queueCapacity)
    (before : List HubEvent) (store : EventStore) (now : Time.Timestamp) (identity : Identity)
    (awaited : Bool) (after : List HubEvent)
    : ∃ s ∈ (hub.run (before ++ .handle store now (.register identity awaited) :: after)).subscribers,
        (hub.run before).Served store now identity awaited after s := by
  have hbefore := h.run before
  rw [← h.run_queueCapacity before] at hcapacity
  have hmem := hbefore.newcomer_mem store now identity awaited
  have hlast := (hbefore.step _).run_mem hmem after
  rw [hbefore.step_defaultLogLimit] at hlast
  rw [run_append]
  exact ⟨_, hlast, hbefore.served store now identity awaited after hcapacity⟩

/--
Whoever is at a hub was registered there, and whoever is registered is served without gaps: every message
for everybody that comes while it has its place, in this order, and some of the replies to itself. A message
for everybody costs exactly those their places whose queues are closed or full, and leaves what they hold;
no queue ever holds more than it may; and nothing of this depends on the order in which subscribers come.
-/
theorem run_delivers (settings : LiveSettings) (events : List HubEvent)
    : (∀ s ∈ ((ofSettings settings).run events).subscribers,
          ∃ before store now identity awaited after,
            events = before ++ .handle store now (.register identity awaited) :: after
              ∧ ((ofSettings settings).run before).Served store now identity awaited after s)
        ∧ (∀ before store now identity awaited after,
            events = before ++ .handle store now (.register identity awaited) :: after
              →
            ∃ s ∈ ((ofSettings settings).run events).subscribers,
              ((ofSettings settings).run before).Served store now identity awaited after s)
        ∧ (∀ s ∈ ((ofSettings settings).run events).subscribers,
            s.queue.items.length ≤ max 2 settings.queueCapacity)
        ∧ (∀ s ∈ ((ofSettings settings).run events).subscribers, ∀ event,
            ((((ofSettings settings).run events).step event).connected? s.id).isSome = true
              ↔
            s.connected = true ∧ ¬event.Removes s)
        ∧ (∀ store now envelope,
            (((ofSettings settings).run events).step
                (.handle store now (.broadcast envelope))).subscribers
              =
            ((ofSettings settings).run events).subscribers.map fun s =>
              if s.connected then
                if s.queue.abandoned ∨ s.queue.capacity ≤ s.queue.items.length then
                  { s with connected := false }
                else
                  { s with queue := { s.queue with items := s.queue.items ++ [envelope] } }
              else s)
        ∧ (∀ final,
            (ofSettings settings).RunsTo events final
              ↔
            final = (ofSettings settings).run events) := by
  have hstart := numbered_ofSettings settings
  have hcapacity : (ofSettings settings).queueCapacity = max 2 settings.queueCapacity :=
    Nat.max_comm _ _
  have henough : 2 ≤ (ofSettings settings).queueCapacity := by omega
  refine ⟨?_, ?_, ?_, ?_, ?_, ?_⟩
  . intro s hs
    exact hstart.served_of_mem_run rfl henough hs
  . rintro before store now identity awaited after rfl
    exact hstart.exists_served henough before store now identity awaited after
  . intro s hs
    obtain ⟨before, store, now, identity, awaited, after, -, hserved⟩ :=
      hstart.served_of_mem_run rfl henough hs
    have hbounded := hserved.bounded
    rw [hstart.run_queueCapacity, hcapacity] at hbounded
    exact hbounded
  . intro s hs event
    exact (hstart.run events).step_connected?_iff hs event
  . intro store now envelope
    simp only [step, handle, (hstart.run events).broadcast_eq]
    apply List.map_congr_left
    intro s hs
    exact s.deliver_eq envelope
  . intro final
    exact hstart.runsTo_iff

end Hub

end WafWatch

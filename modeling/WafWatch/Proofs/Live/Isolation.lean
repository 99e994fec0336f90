import WafWatch.Proofs.Live.Delivery

/-!
This module contains the proof that subscribers do not notice each other. What a subscriber holds, what it has
received and whether it has its place are told by the events that concern it alone, in whatever order a hub
comes to its subscribers, and up to the times at which messages were made.
-/

namespace WafWatch

/-! ### What a subscriber can see -/

def ServerMessage.undated : ServerMessage → ServerMessage
  | .stats snapshot => .stats { snapshot with timestamp := default }
  | .statsUpdate snapshot => .statsUpdate { snapshot with timestamp := default }
  | message => message

def Envelope.undated (envelope : Envelope) : Envelope where
  message := envelope.message.undated
  timestamp := default

/--
A store of which only the events are known.
-/
def EventStore.contents (store : EventStore) : EventStore where
  capacity := 0
  events := store.events

/--
What there is in an event for the subscriber of an id, if it concerns it: no times, and of the store only the
events, and these only if they are looked at for it. The id that is given next is known.
-/
def HubEvent.concerning (id next : Nat) : HubEvent → Option HubEvent
  | .handle store _ (.register identity awaited) =>
    if next = id then some (.handle store.contents default (.register identity awaited)) else none
  | .handle _ _ (.unregister who) =>
    if who = id then some (.handle default default (.unregister who)) else none
  | .handle _ _ (.broadcast envelope) => some (.handle default default (.broadcast envelope.undated))
  | .handle store _ (.request who request) =>
    if who = id then some (.handle store.contents default (.request who request)) else none
  | .handle _ _ (.reject who reason) =>
    if who = id then some (.handle default default (.reject who reason)) else none
  | .handle _ _ (.count _) => none
  | .take who => if who = id then some (.take who) else none
  | .abandon who => if who = id then some (.abandon who) else none
  | .stop => some .stop

namespace Subscriber

def undated (s : Subscriber) : Subscriber :=
  { s with queue := { s.queue with items := s.queue.items.map Envelope.undated } }

end Subscriber

namespace ServerMessage

@[simp]
theorem undated_undated (message : ServerMessage) : message.undated.undated = message.undated := by
  cases message <;> rfl

theorem undated_answering (limit : Int) (store : EventStore) (now : Time.Timestamp)
    (request : ClientRequest)
    : (answering limit store now request).undated
        =
      (answering limit store.contents default request).undated := by
  cases request <;> rfl

end ServerMessage

@[simp]
theorem Envelope.undated_undated (envelope : Envelope) : envelope.undated.undated = envelope.undated := by
  simp [undated]

namespace Subscriber

variable {s : Subscriber}

@[simp]
theorem undated_undated (s : Subscriber) : s.undated.undated = s.undated := by
  simp [undated, Function.comp_def]

theorem offer_undated (s : Subscriber) (envelope : Envelope)
    : s.undated.queue.offer envelope.undated
        =
      (s.queue.offer envelope).map fun queue =>
        { queue with items := queue.items.map Envelope.undated } := by
  unfold BoundedQueue.offer undated
  simp only [List.length_map]
  split
  . rfl
  . split
    . rfl
    . simp [Except.map]

theorem receive_undated (s : Subscriber) (envelope : Envelope) :
    (s.receive envelope).undated = s.undated.receive envelope.undated := by
  unfold receive
  rw [offer_undated]
  cases hoffer : s.queue.offer envelope with
  | ok queue =>
    simp only [Except.map]
    cases hconnected : s.connected <;> simp [undated, hconnected]
  | error refusal =>
    cases refusal <;> cases hconnected : s.connected <;> simp [undated, leave, hconnected, Except.map]

theorem deliver_undated (s : Subscriber) (envelope : Envelope) :
    (s.deliver envelope).undated = s.undated.deliver envelope.undated := by
  unfold deliver
  rw [offer_undated]
  cases hoffer : s.queue.offer envelope with
  | ok queue => cases hconnected : s.connected <;> simp [undated, hconnected, Except.map]
  | error refusal => cases hconnected : s.connected <;> simp [undated, leave, hconnected, Except.map]

theorem take_undated (s : Subscriber) : s.take.undated = s.undated.take := by
  unfold take BoundedQueue.take? undated
  cases hitems : s.queue.items <;> simp [hitems]

theorem undated_id (s : Subscriber) : s.undated.id = s.id :=
  rfl

/--
What an event that is addressed to a subscriber, or to another, is to a subscriber of which no times are known.
-/
theorem step_addressed {limit : Int} {next who : Nat} {event bare : HubEvent} {s' : Subscriber}
    (hevent : event.concerning s.id next = if who = s.id then some bare else none)
    (hstep : s.step limit event = if s.id = who then s' else s)
    (hbare : s.id = who → s'.undated = (s.undated.step limit bare).undated)
    : (s.step limit event).undated
        =
      (event.concerning s.id next).toList.foldl (fun s bare => (s.step limit bare).undated) s.undated := by
  rw [hevent, hstep]
  by_cases hwho : s.id = who
  . rw [if_pos hwho, if_pos hwho.symm]
    exact hbare hwho
  . rw [if_neg hwho, if_neg (Ne.symm hwho)]
    rfl

theorem step_undated (limit : Int) (next : Nat) (s : Subscriber) (event : HubEvent)
    : (s.step limit event).undated
        =
      (event.concerning s.id next).toList.foldl (fun s bare => (s.step limit bare).undated) s.undated := by
  cases event with
  | handle store now command =>
    cases command with
    | register identity awaited =>
      rw [HubEvent.concerning]
      split
      . exact s.undated_undated.symm
      . rfl
    | unregister who =>
      apply step_addressed rfl rfl
      intro hwho
      rw [step, undated_id, if_pos hwho]
      exact s.leave.undated_undated.symm
    | broadcast envelope =>
      simp [step, HubEvent.concerning, deliver_undated]
    | request who request =>
      apply step_addressed rfl rfl
      intro hwho
      rw [step, undated_id, if_pos hwho]
      simp only [receive_undated, undated_undated, Envelope.undated,
        ServerMessage.undated_answering limit store now request]
    | reject who reason =>
      apply step_addressed rfl rfl
      intro hwho
      rw [step, undated_id, if_pos hwho]
      simp only [receive_undated, undated_undated]
      rfl
    | count awaited => rfl
  | take who =>
    apply step_addressed rfl rfl
    intro hwho
    rw [step, undated_id, if_pos hwho]
    simp only [take_undated, undated_undated]
  | abandon who =>
    apply step_addressed rfl rfl
    intro hwho
    rw [step, undated_id, if_pos hwho]
    exact (undated_undated { s with queue := s.queue.abandon }).symm
  | stop => exact s.leave.undated_undated.symm

theorem takenAt_undated (next : Nat) (s : Subscriber) (event : HubEvent)
    : (s.takenAt event).map Envelope.undated
        =
      (event.concerning s.id next).toList.flatMap s.undated.takenAt := by
  cases event with
  | take who =>
    by_cases hwho : s.id = who
    . simp [takenAt, HubEvent.concerning, undated, hwho]
    . simp [takenAt, HubEvent.concerning, hwho, Ne.symm hwho]
  | handle store now command =>
    cases command with
    | broadcast envelope => rfl
    | count awaited => rfl
    | register identity awaited =>
      rw [HubEvent.concerning]
      split <;> rfl
    | unregister who =>
      rw [HubEvent.concerning]
      split <;> rfl
    | request who request =>
      rw [HubEvent.concerning]
      split <;> rfl
    | reject who reason =>
      rw [HubEvent.concerning]
      split <;> rfl
  | abandon who =>
    rw [HubEvent.concerning]
    split <;> rfl
  | stop => rfl

end Subscriber

namespace Hub

variable {hub : Hub} {s : Subscriber} {id : Nat}

/--
What there is to see of a subscriber, if there is one yet, and what it has received so far.
-/
structure Sight where
  subscriber : Option Subscriber
  received : List Envelope

def sight (hub : Hub) (id : Nat) (received : List Envelope) : Sight where
  subscriber := (hub.subscribers.find? (·.id == id)).map Subscriber.undated
  received := received.map Envelope.undated

/--
What becomes of the sight of a subscriber with an event that concerns it.
-/
def heed (hub : Hub) (id : Nat) (sight : Sight) (event : HubEvent) : Sight :=
  match sight.subscriber, event with
  | some s, event =>
    { subscriber := some (s.step hub.defaultLogLimit event).undated
      received := sight.received ++ s.takenAt event }
  | none, .handle store now (.register identity awaited) =>
    let s := { hub.newSubscriber (store.snapshot now) now identity with id, connected := awaited }
    { sight with subscriber := some s.undated }
  | none, _ => sight

/--
What there is for the subscriber of an id in events at a hub.
-/
def concerns (id : Nat) (hub : Hub) : List HubEvent → List HubEvent
  | [] => []
  | event :: events =>
    (event.concerning id (hub.lastId + 1)).toList ++ (hub.step event).concerns id events

theorem Numbered.sight_of_mem (h : hub.Numbered) (hs : s ∈ hub.subscribers)
    (received : List Envelope)
    : hub.sight s.id received = ⟨some s.undated, received.map Envelope.undated⟩ := by
  unfold sight
  rw [h.find?_eq hs]
  rfl

theorem sight_of_absent (hnone : ∀ s ∈ hub.subscribers, s.id ≠ id) (received : List Envelope) :
    hub.sight id received = ⟨none, received.map Envelope.undated⟩ := by
  unfold sight
  rw [find?_eq_none hnone]
  rfl

theorem heed_concerning_of_absent {next : Nat} {event : HubEvent}
    (hother : ∀ store now identity awaited, event = .handle store now (.register identity awaited) →
      next ≠ id)
    (received : List Envelope)
    : (event.concerning id next).toList.foldl (hub.heed id) ⟨none, received⟩ = ⟨none, received⟩ := by
  cases event with
  | handle store now command =>
    cases command with
    | register identity awaited =>
      have hnext := hother store now identity awaited rfl
      simp [HubEvent.concerning, hnext]
    | unregister who => by_cases hid : who = id <;> simp [HubEvent.concerning, hid, heed]
    | broadcast envelope => rfl
    | request who request => by_cases hid : who = id <;> simp [HubEvent.concerning, hid, heed]
    | reject who reason => by_cases hid : who = id <;> simp [HubEvent.concerning, hid, heed]
    | count awaited => rfl
  | take who => by_cases hid : who = id <;> simp [HubEvent.concerning, hid, heed]
  | abandon who => by_cases hid : who = id <;> simp [HubEvent.concerning, hid, heed]
  | stop => rfl

/--
Before a subscriber is there, only its registration is something to it.
-/
theorem Numbered.step_sight_of_absent (h : hub.Numbered) (hnone : ∀ s ∈ hub.subscribers, s.id ≠ id)
    (received : List Envelope) (event : HubEvent)
    : (hub.step event).sight id received
        =
      (event.concerning id (hub.lastId + 1)).toList.foldl (hub.heed id) (hub.sight id received) := by
  rw [sight_of_absent hnone]
  by_cases hcomes : ∃ t ∈ hub.arrivals event, t.id = id
  . obtain ⟨t, ht, hid⟩ := hcomes
    obtain ⟨store, now, identity, awaited, rfl, rfl⟩ := mem_arrivals ht
    have hid : hub.lastId + 1 = id := hid
    subst hid
    have hmem := h.newcomer_mem store now identity awaited
    have hafter := (h.step _).sight_of_mem hmem received
    simp only [HubEvent.concerning, ite_true, Option.toList_some, List.foldl_cons, List.foldl_nil]
    exact hafter
  . rw [heed_concerning_of_absent]
    . apply sight_of_absent
      intro t ht
      rw [h.step_eq, List.mem_append, List.mem_map] at ht
      rcases ht with ⟨s, hs, rfl⟩ | hnew
      . rw [Subscriber.step_id]
        exact hnone s hs
      . exact fun hid => hcomes ⟨t, hnew, hid⟩
    . rintro store now identity awaited rfl hid
      exact hcomes ⟨_, List.mem_singleton.mpr rfl, hid⟩

theorem Numbered.step_sight_of_mem (h : hub.Numbered) (hs : s ∈ hub.subscribers)
    (received : List Envelope) (event : HubEvent)
    : (hub.step event).sight s.id (received ++ hub.takenAt s.id event)
        =
      (event.concerning s.id (hub.lastId + 1)).toList.foldl (hub.heed s.id)
        (hub.sight s.id received) := by
  have hafter := (h.step event).sight_of_mem (h.step_mem hs event) (received ++ s.takenAt event)
  rw [Subscriber.step_id] at hafter
  rw [h.takenAt_eq hs, hafter, h.sight_of_mem hs, List.map_append, Subscriber.takenAt_undated,
    Subscriber.step_undated]
  cases event.concerning s.id (hub.lastId + 1) with
  | none => simp
  | some bare => simp [heed]

theorem Numbered.step_sight (h : hub.Numbered) (id : Nat) (received : List Envelope)
    (event : HubEvent)
    : (hub.step event).sight id (received ++ hub.takenAt id event)
        =
      (event.concerning id (hub.lastId + 1)).toList.foldl (hub.heed id) (hub.sight id received) := by
  by_cases hmem : ∃ s ∈ hub.subscribers, s.id = id
  . obtain ⟨s, hs, rfl⟩ := hmem
    exact h.step_sight_of_mem hs received event
  . have hnone : ∀ s ∈ hub.subscribers, s.id ≠ id := fun s hs hid => hmem ⟨s, hs, hid⟩
    rw [takenAt_of_absent hnone, List.append_nil]
    exact h.step_sight_of_absent hnone received event

theorem Numbered.step_heed (h : hub.Numbered) (event : HubEvent) :
    (hub.step event).heed = hub.heed := by
  rw [h.step_eq]
  rfl

/--
What there is to see of a subscriber after a run is a matter of the events that concern it.
-/
theorem Numbered.run_sight (h : hub.Numbered) (id : Nat) (received : List Envelope)
    (events : List HubEvent)
    : (hub.run events).sight id (received ++ hub.takenBy id events)
        =
      (hub.concerns id events).foldl (hub.heed id) (hub.sight id received) := by
  induction events generalizing hub received with
  | nil =>
    rw [takenBy, List.append_nil]
    rfl
  | cons event events ih =>
    have hrest := ih (h.step event) (received ++ hub.takenAt id event)
    rw [h.step_heed, h.step_sight, List.append_assoc] at hrest
    unfold concerns
    rw [List.foldl_append, ← hrest]
    rfl

theorem concerns_append (id : Nat) (hub : Hub) (before after : List HubEvent) :
    hub.concerns id (before ++ after) = hub.concerns id before ++ (hub.run before).concerns id after := by
  induction before generalizing hub with
  | nil => rfl
  | cons event before ih =>
    have hrest := ih (hub.step event)
    rw [List.cons_append, concerns, hrest, concerns, List.append_assoc]
    rfl

theorem exists_prefix_of_concerns {events bares : List HubEvent}
    (h : bares <+: hub.concerns id events)
    : ∃ before, before <+: events ∧ hub.concerns id before = bares := by
  induction events generalizing hub bares with
  | nil => exact ⟨[], List.nil_prefix, (List.prefix_nil.mp h).symm⟩
  | cons event events ih =>
    unfold concerns at h
    cases hconcern : event.concerning id (hub.lastId + 1) with
    | none =>
      rw [hconcern] at h
      obtain ⟨before, hbefore, hbares⟩ := ih h
      refine ⟨event :: before, (List.cons_prefix_cons).mpr ⟨rfl, hbefore⟩, ?_⟩
      rw [concerns, hconcern]
      exact hbares
    | some bare =>
      rw [hconcern] at h
      cases bares with
      | nil => exact ⟨[], List.nil_prefix, rfl⟩
      | cons first bares =>
        obtain ⟨rfl, hrest⟩ := List.cons_prefix_cons.mp h
        obtain ⟨before, hbefore, hbares⟩ := ih hrest
        refine ⟨event :: before, (List.cons_prefix_cons).mpr ⟨rfl, hbefore⟩, ?_⟩
        rw [concerns, hconcern, hbares]
        rfl

theorem Numbered.isSome_connected?_eq_any (h : hub.Numbered) (id : Nat) (received : List Envelope)
    : (hub.connected? id).isSome = (hub.sight id received).subscriber.any (·.connected) := by
  by_cases hmem : ∃ s ∈ hub.subscribers, s.id = id
  . obtain ⟨s, hs, rfl⟩ := hmem
    rw [h.isSome_connected?_eq hs, h.sight_of_mem hs]
    rfl
  . have hnone : ∀ s ∈ hub.subscribers, s.id ≠ id := fun s hs hid => hmem ⟨s, hs, hid⟩
    rw [sight_of_absent hnone]
    cases hplace : hub.connected? id with
    | none => rfl
    | some s =>
      have hconnected := connected?_eq_some hplace
      exact absurd hconnected.2.1 (hnone s hconnected.1)

/--
After some events a subscriber is in the same place as after others: it has the same messages on its queue,
it has its place or not, and it has received the same messages, up to times.
-/
structure SameFor (hub : Hub) (id : Nat) (events events' : List HubEvent) : Prop where
  held : ∀ final final', hub.RunsTo events final → hub.RunsTo events' final' →
    (final.subscribers.find? (·.id == id)).map Subscriber.undated
      = (final'.subscribers.find? (·.id == id)).map Subscriber.undated
  placed : ∀ final final', hub.RunsTo events final → hub.RunsTo events' final' →
    (final.connected? id).isSome = (final'.connected? id).isSome
  received :
    (hub.takenBy id events).map Envelope.undated = (hub.takenBy id events').map Envelope.undated

theorem Numbered.sameFor (h : hub.Numbered) {events events' : List HubEvent}
    (hsame : hub.concerns id events = hub.concerns id events')
    : hub.SameFor id events events' := by
  have hsight : (hub.run events).sight id (hub.takenBy id events)
      = (hub.run events').sight id (hub.takenBy id events') := by
    have hrun := h.run_sight id [] events
    have hrun' := h.run_sight id [] events'
    rw [hsame, ← hrun'] at hrun
    exact hrun
  constructor
  . intro final final' hfinal hfinal'
    rw [h.runsTo_iff.mp hfinal, h.runsTo_iff.mp hfinal']
    exact congrArg Sight.subscriber hsight
  . intro final final' hfinal hfinal'
    rw [h.runsTo_iff.mp hfinal, h.runsTo_iff.mp hfinal']
    rw [(h.run events).isSome_connected?_eq_any id, hsight,
      ← (h.run events').isSome_connected?_eq_any id]
  . exact congrArg Sight.received hsight

/--
Two runs of a hub that hold the same for a subscriber look the same to it: after all events, and at each
moment of one run, for which there is a moment of the other with the same past. What others take, drop and ask
for makes no difference.
-/
theorem run_isolates (settings : LiveSettings) (id : Nat) {events events' : List HubEvent}
    (hsame : (ofSettings settings).concerns id events = (ofSettings settings).concerns id events')
    : (ofSettings settings).SameFor id events events'
        ∧
      ∀ before, before <+: events → ∃ before', before' <+: events'
        ∧ (ofSettings settings).concerns id before = (ofSettings settings).concerns id before'
        ∧ (ofSettings settings).SameFor id before before' := by
  have hstart := numbered_ofSettings settings
  refine ⟨hstart.sameFor hsame, ?_⟩
  rintro before ⟨after, rfl⟩
  rw [concerns_append] at hsame
  obtain ⟨before', hbefore', hconcerns⟩ := exists_prefix_of_concerns (hsame ▸ List.prefix_append _ _)
  exact ⟨before', hbefore', hconcerns.symm, hstart.sameFor hconcerns.symm⟩

/-- A subscriber that takes nothing loses its place, and the one beside it does not notice. -/
theorem run_isolates_evicted
    : let settings : LiveSettings := { bindAddress := default, queueCapacity := 3 }
      let at_ (seconds : Int) (command : HubCommand) : HubEvent :=
        .handle (.empty 2) { seconds } command
      let update (seconds : Int) : HubEvent := at_ seconds (.broadcast ⟨.error "down", default⟩)
      let events := [at_ 1 (.register .anonymous true), at_ 2 (.register .anonymous true), .take 1,
        update 3, at_ 4 (.request 2 .getStats), update 5, .take 1]
      let events' := [at_ 7 (.register .anonymous true), at_ 8 (.register .anonymous true), .take 2,
        .take 1, update 9, .take 2, update 9, .take 1, at_ 9 (.reject 2 "unknown")]
      let hub := ofSettings settings
      hub.concerns 1 events = hub.concerns 1 events'
        ∧
      hub.SameFor 1 events events'
        ∧
      ((hub.run events).connected? 1).isSome = true
        ∧
      ((hub.run events).connected? 2).isSome = false
        ∧
      ((hub.run events').connected? 2).isSome = true := by
  intro settings at_ update events events' hub
  have hsame : hub.concerns 1 events = hub.concerns 1 events' := by decide +kernel
  exact ⟨hsame, (run_isolates settings 1 hsame).1, by decide +kernel, by decide +kernel,
    by decide +kernel⟩

end Hub

end WafWatch

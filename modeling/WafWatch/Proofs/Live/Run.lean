import Mathlib.Data.List.Nodup
import WafWatch.Proofs.Live.Subscriber

/-!
This module contains the runs of a hub. Whatever happens at a hub happens to each subscriber by itself, so a
run of the hub is a run of every subscriber beside the others, together with those who come.
-/

namespace WafWatch

namespace Hub

def step (hub : Hub) : HubEvent → Hub
  | .handle store now command => (hub.handle store now command).hub
  | .take id =>
    match hub.takeFor? id with
    | some (_, hub) => hub
    | none => hub
  | .abandon id => hub.abandonFor id
  | .stop => hub.close.hub

def run (hub : Hub) (events : List HubEvent) : Hub :=
  events.foldl step hub

theorem answer_eq_answering (hub : Hub) (store : EventStore) (now : Time.Timestamp)
    (request : ClientRequest)
    : hub.answer store now request = .answering hub.defaultLogLimit store now request := by
  cases request with
  | getLogs own => rfl
  | getStats => rfl

variable {hub : Hub} {s : Subscriber}

/--
The subscribers have the ids that were given, each its own.
-/
def Numbered (hub : Hub) : Prop :=
  hub.subscribers.map (·.id) = List.range' 1 hub.lastId

theorem Numbered.id_le (h : hub.Numbered) (hs : s ∈ hub.subscribers) :
    1 ≤ s.id ∧ s.id ≤ hub.lastId := by
  have hid : s.id ∈ hub.subscribers.map (·.id) := List.mem_map_of_mem hs
  rw [h, List.mem_range'_1] at hid
  omega

theorem Numbered.nodup (h : hub.Numbered) : (hub.subscribers.map (·.id)).Nodup := by
  rw [h]
  exact List.nodup_range'

theorem Numbered.eq_of_id_eq (h : hub.Numbered) {t : Subscriber} (hs : s ∈ hub.subscribers)
    (ht : t ∈ hub.subscribers) (hid : s.id = t.id)
    : s = t :=
  List.inj_on_of_nodup_map h.nodup hs ht hid

theorem Numbered.find?_eq (h : hub.Numbered) (hs : s ∈ hub.subscribers) :
    hub.subscribers.find? (·.id == s.id) = some s := by
  cases hfind : hub.subscribers.find? (·.id == s.id) with
  | none =>
    rw [List.find?_eq_none] at hfind
    have := hfind s hs
    simp at this
  | some t =>
    have hid : t.id = s.id := by simpa using List.find?_some hfind
    rw [h.eq_of_id_eq (List.mem_of_find?_eq_some hfind) hs hid]

theorem find?_eq_none {id : Nat} (hnone : ∀ s ∈ hub.subscribers, s.id ≠ id) :
    hub.subscribers.find? (·.id == id) = none := by
  rw [List.find?_eq_none]
  simpa using hnone

/-! ### Changes of one subscriber -/

theorem modify_congr {id : Nat} {f g : Subscriber → Subscriber}
    (hsame : ∀ s ∈ hub.subscribers, s.id = id → f s = g s)
    : hub.modify id f = hub.modify id g := by
  unfold modify
  congr 1
  apply List.map_congr_left
  intro s hs
  split
  . next hid => exact hsame s hs hid
  . rfl

theorem modify_eq_self {id : Nat} {f : Subscriber → Subscriber}
    (hsame : ∀ s ∈ hub.subscribers, s.id = id → f s = s)
    : hub.modify id f = hub := by
  rw [modify_congr hsame]
  unfold modify
  simp

theorem Numbered.modify_congr_at (h : hub.Numbered) (hs : s ∈ hub.subscribers)
    {f g : Subscriber → Subscriber} (hsame : f s = g s)
    : hub.modify s.id f = hub.modify s.id g := by
  apply modify_congr
  intro t ht hid
  rw [h.eq_of_id_eq ht hs hid]
  exact hsame

theorem Numbered.modify_eq_self_at (h : hub.Numbered) (hs : s ∈ hub.subscribers)
    {f : Subscriber → Subscriber} (hsame : f s = s)
    : hub.modify s.id f = hub := by
  apply modify_eq_self
  intro t ht hid
  rw [h.eq_of_id_eq ht hs hid]
  exact hsame

theorem connected?_eq_none {id : Nat} (hnone : hub.connected? id = none) (hs : s ∈ hub.subscribers)
    (hid : s.id = id)
    : s.connected = false := by
  unfold connected? at hnone
  rw [List.find?_eq_none] at hnone
  simpa [hid] using hnone s hs

theorem connected?_eq_some {id : Nat} (hsome : hub.connected? id = some s) :
    s ∈ hub.subscribers ∧ s.id = id ∧ s.connected = true := by
  unfold connected? at hsome
  refine ⟨List.mem_of_find?_eq_some hsome, ?_⟩
  simpa using List.find?_some hsome

theorem Numbered.connected?_eq (h : hub.Numbered) (hs : s ∈ hub.subscribers) :
    hub.connected? s.id = if s.connected then some s else none := by
  cases hplace : hub.connected? s.id with
  | none => simp [connected?_eq_none hplace hs rfl]
  | some t =>
    obtain ⟨ht, hid, hconnected⟩ := connected?_eq_some hplace
    rw [h.eq_of_id_eq ht hs hid] at hconnected ⊢
    rw [if_pos hconnected]

theorem unregister_eq_modify (hub : Hub) (id : Nat) :
    (hub.unregister id).hub = hub.modify id Subscriber.leave := by
  unfold unregister
  cases hplace : hub.connected? id with
  | some s => rfl
  | none =>
    -- whoever has the id has lost its place already
    symm
    apply modify_eq_self
    intro s hs hid
    exact Subscriber.leave_of_not_connected (connected?_eq_none hplace hs hid)

theorem unregisterAll_eq (hub : Hub) (ids : List Nat)
    : (hub.unregisterAll ids).hub
        =
      { hub with subscribers := hub.subscribers.map fun s => if s.id ∈ ids then s.leave else s } := by
  induction ids generalizing hub with
  | nil => simp [unregisterAll]
  | cons id ids ih =>
    unfold unregisterAll
    dsimp only
    rw [ih, unregister_eq_modify]
    unfold modify
    simp only [List.map_map]
    congr 1
    apply List.map_congr_left
    intro s hs
    by_cases hid : s.id = id
    . -- whoever has left is not changed by leaving again
      by_cases hmem : id ∈ ids <;> simp [hid, hmem, Subscriber.leave]
    . simp [hid]

theorem deliver_id (envelope : Envelope) (s : Subscriber) : (deliver envelope s).1.id = s.id := by
  unfold deliver
  split
  . split <;> rfl
  . rfl

theorem Numbered.mem_refused_iff (h : hub.Numbered) (envelope : Envelope) {s : Subscriber}
    (hs : s ∈ hub.subscribers)
    : s.id ∈ (hub.subscribers.filterMap fun s => (deliver envelope s).2.map (s.id, ·)).map (·.1)
        ↔
      (deliver envelope s).2.isSome = true := by
  simp only [List.mem_map, List.mem_filterMap, Option.map_eq_some_iff, Option.isSome_iff_exists]
  constructor
  . rintro ⟨-, ⟨t, ht, refusal, hrefusal, rfl⟩, hid⟩
    rw [h.eq_of_id_eq ht hs hid] at hrefusal
    exact ⟨refusal, hrefusal⟩
  . rintro ⟨refusal, hrefusal⟩
    exact ⟨(s.id, refusal), ⟨s, hs, refusal, hrefusal, rfl⟩, rfl⟩

/--
Whoever leaves because of a refusal has been given nothing.
-/
theorem ite_leave_deliver (envelope : Envelope) (s : Subscriber)
    : (if (deliver envelope s).2.isSome = true then (deliver envelope s).1.leave else (deliver envelope s).1)
        =
      s.deliver envelope := by
  unfold deliver Subscriber.deliver
  split
  . cases s.queue.offer envelope <;> simp
  . simp

/--
The subscribers that lose their places are those whose queues refused the message.
-/
theorem Numbered.broadcast_eq (h : hub.Numbered) (envelope : Envelope)
    : (hub.broadcast envelope).hub
        =
      { hub with subscribers := hub.subscribers.map (Subscriber.deliver envelope) } := by
  unfold broadcast
  dsimp only
  rw [unregisterAll_eq]
  simp only [List.map_map]
  congr 1
  apply List.map_congr_left
  intro s hs
  rw [Function.comp_apply, deliver_id, ← ite_leave_deliver]
  exact if_congr (h.mem_refused_iff envelope hs) rfl rfl

theorem Numbered.reply_eq_modify (h : hub.Numbered) (id : Nat) (envelope : Envelope) :
    (hub.reply id envelope).hub = hub.modify id (Subscriber.receive envelope) := by
  unfold reply
  cases hplace : hub.connected? id with
  | none =>
    symm
    apply modify_eq_self
    intro s hs hid
    exact Subscriber.receive_of_not_connected (connected?_eq_none hplace hs hid) envelope
  | some t =>
    obtain ⟨ht, rfl, hconnected⟩ := connected?_eq_some hplace
    dsimp only
    cases hoffer : t.queue.offer envelope with
    | ok queue =>
      apply h.modify_congr_at ht
      simp [Subscriber.receive, hconnected, hoffer]
    | error refusal =>
      cases refusal with
      | full =>
        symm
        apply h.modify_eq_self_at ht
        simp [Subscriber.receive, hconnected, hoffer]
      | closed =>
        dsimp only
        rw [unregister_eq_modify]
        apply h.modify_congr_at ht
        simp [Subscriber.receive, hconnected, hoffer]

theorem Numbered.takeFor?_eq (h : hub.Numbered) (hs : s ∈ hub.subscribers)
    : hub.takeFor? s.id
        =
      s.queue.take?.map fun (envelope, queue) =>
        (envelope, hub.modify s.id fun s => { s with queue }) := by
  unfold takeFor?
  rw [h.find?_eq hs, Option.bind_some]
  cases s.queue.take? <;> rfl

theorem Numbered.take_eq_modify (h : hub.Numbered) (id : Nat) :
    hub.step (.take id) = hub.modify id Subscriber.take := by
  by_cases hmem : ∃ s ∈ hub.subscribers, s.id = id
  . obtain ⟨t, ht, rfl⟩ := hmem
    simp only [step]
    rw [h.takeFor?_eq ht]
    cases htake : t.queue.take? with
    | none =>
      symm
      apply h.modify_eq_self_at ht
      simp [Subscriber.take, htake]
    | some taken =>
      apply h.modify_congr_at ht
      simp [Subscriber.take, htake]
  . have hnone : hub.subscribers.find? (·.id == id) = none := by
      rw [List.find?_eq_none]
      simpa using hmem
    simp only [step, takeFor?]
    rw [hnone]
    symm
    apply modify_eq_self
    intro s hs hid
    exact absurd ⟨s, hs, hid⟩ hmem

/-! ### Events -/

def arrivals (hub : Hub) : HubEvent → List Subscriber
  | .handle store now (.register identity awaited) =>
    [{ hub.newSubscriber (store.snapshot now) now identity with connected := awaited }]
  | _ => []

theorem Numbered.register_eq (h : hub.Numbered) (snapshot : Snapshot) (now : Time.Timestamp)
    (identity : Identity) (awaited : Bool)
    : (hub.register snapshot now identity awaited).hub
        =
      { hub with
        lastId := hub.lastId + 1
        subscribers := hub.subscribers ++
          [{ hub.newSubscriber snapshot now identity with connected := awaited }] } := by
  unfold register
  cases awaited with
  | true => rfl
  | false =>
    -- nobody else has the new id
    have hsame : ∀ s ∈ hub.subscribers, s.id = hub.lastId + 1 → s.leave = s := by
      intro s hs hid
      have := (h.id_le hs).2
      omega
    have hold :
        hub.subscribers.map (fun s => if s.id = hub.lastId + 1 then s.leave else s)
          = hub.subscribers :=
      congrArg Hub.subscribers (modify_eq_self hsame)
    simp only [Bool.false_eq_true, ite_false, unregister_eq_modify]
    unfold modify add
    rw [List.map_append, hold]
    simp [newSubscriber, Subscriber.leave]

/--
An event happens to every subscriber by itself.
-/
theorem Numbered.step_eq (h : hub.Numbered) (event : HubEvent)
    : hub.step event
        =
      { hub with
        lastId := hub.lastId + (hub.arrivals event).length
        subscribers :=
          hub.subscribers.map (·.step hub.defaultLogLimit event) ++ hub.arrivals event } := by
  cases event with
  | handle store now command =>
    simp only [step, handle]
    cases command with
    | register identity awaited =>
      simp [h.register_eq, arrivals, Subscriber.step]
    | unregister id =>
      simp [unregister_eq_modify, modify, arrivals, Subscriber.step]
    | broadcast envelope =>
      simp [h.broadcast_eq, arrivals, Subscriber.step]
    | request id request =>
      simp [h.reply_eq_modify, answer_eq_answering, modify, arrivals, Subscriber.step]
    | reject id reason =>
      simp [h.reply_eq_modify, modify, arrivals, Subscriber.step]
    | count awaited =>
      simp [arrivals, Subscriber.step]
  | take id =>
    rw [h.take_eq_modify]
    simp [modify, arrivals, Subscriber.step]
  | abandon id =>
    simp [step, abandonFor, modify, arrivals, Subscriber.step]
  | stop =>
    simp [step, close, arrivals, Subscriber.step, Subscriber.leave]

theorem Numbered.step_defaultLogLimit (h : hub.Numbered) (event : HubEvent) :
    (hub.step event).defaultLogLimit = hub.defaultLogLimit := by
  rw [h.step_eq]

theorem Numbered.step_queueCapacity (h : hub.Numbered) (event : HubEvent) :
    (hub.step event).queueCapacity = hub.queueCapacity := by
  rw [h.step_eq]

theorem Numbered.step_mem (h : hub.Numbered) (hs : s ∈ hub.subscribers) (event : HubEvent) :
    s.step hub.defaultLogLimit event ∈ (hub.step event).subscribers := by
  rw [h.step_eq]
  exact List.mem_append_left _ (List.mem_map_of_mem hs)

theorem mem_arrivals {event : HubEvent} (hs : s ∈ hub.arrivals event) :
    ∃ store now identity awaited, event = .handle store now (.register identity awaited)
      ∧ s = { hub.newSubscriber (store.snapshot now) now identity with connected := awaited } := by
  unfold arrivals at hs
  split at hs
  . next store now identity awaited =>
    exact ⟨store, now, identity, awaited, rfl, List.mem_singleton.mp hs⟩
  . simp at hs

theorem map_id_arrivals (hub : Hub) (event : HubEvent) :
    (hub.arrivals event).map (·.id) = List.range' (1 + hub.lastId) (hub.arrivals event).length := by
  unfold arrivals
  split
  . simp [newSubscriber, Nat.add_comm]
  . rfl

theorem numbered_ofSettings (settings : LiveSettings) : (ofSettings settings).Numbered :=
  rfl

theorem Numbered.step (h : hub.Numbered) (event : HubEvent) : (hub.step event).Numbered := by
  have hsame : (fun t : Subscriber => (t.step hub.defaultLogLimit event).id) = (·.id) := by
    funext t
    exact t.step_id hub.defaultLogLimit event
  rw [h.step_eq]
  unfold Numbered at h ⊢
  simp only [List.map_append, List.map_map, Function.comp_def, hsame]
  rw [h, map_id_arrivals, List.range'_append_1]

/-! ### Runs -/

theorem run_append (hub : Hub) (before after : List HubEvent) :
    hub.run (before ++ after) = (hub.run before).run after :=
  List.foldl_append

theorem run_concat (hub : Hub) (events : List HubEvent) (event : HubEvent) :
    hub.run (events ++ [event]) = (hub.run events).step event :=
  run_append hub events [event]

theorem Numbered.run (h : hub.Numbered) (events : List HubEvent) : (hub.run events).Numbered := by
  induction events generalizing hub with
  | nil => exact h
  | cons event events ih => exact ih (h.step event)

theorem Numbered.run_defaultLogLimit (h : hub.Numbered) (events : List HubEvent) :
    (hub.run events).defaultLogLimit = hub.defaultLogLimit := by
  induction events generalizing hub with
  | nil => rfl
  | cons event events ih => exact (ih (h.step event)).trans (h.step_defaultLogLimit event)

theorem Numbered.run_queueCapacity (h : hub.Numbered) (events : List HubEvent) :
    (hub.run events).queueCapacity = hub.queueCapacity := by
  induction events generalizing hub with
  | nil => rfl
  | cons event events ih => exact (ih (h.step event)).trans (h.step_queueCapacity event)

theorem Numbered.run_mem (h : hub.Numbered) (hs : s ∈ hub.subscribers) (events : List HubEvent) :
    s.run hub.defaultLogLimit events ∈ (hub.run events).subscribers := by
  induction events generalizing hub s with
  | nil => exact hs
  | cons event events ih =>
    have hrest := ih (h.step event) (h.step_mem hs event)
    rw [h.step_defaultLogLimit] at hrest
    exact hrest

/--
Whoever is at a hub after some events was there before them, or came with one of them.
-/
theorem Numbered.mem_run (h : hub.Numbered) {events : List HubEvent}
    (hs : s ∈ (hub.run events).subscribers)
    : (∃ t ∈ hub.subscribers, s = t.run hub.defaultLogLimit events)
        ∨
      ∃ before event after, events = before ++ event :: after
        ∧ ∃ t ∈ (hub.run before).arrivals event, s = t.run hub.defaultLogLimit after := by
  induction events generalizing hub with
  | nil => exact .inl ⟨s, hs, rfl⟩
  | cons event events ih =>
    have hcases := ih (h.step event) hs
    rw [h.step_defaultLogLimit] at hcases
    cases hcases with
    | inl hold =>
      obtain ⟨t, ht, rfl⟩ := hold
      rw [h.step_eq, List.mem_append, List.mem_map] at ht
      cases ht with
      | inl hearlier =>
        obtain ⟨u, hu, rfl⟩ := hearlier
        exact .inl ⟨u, hu, rfl⟩
      | inr hnew => exact .inr ⟨[], event, events, rfl, t, hnew, rfl⟩
    | inr hnew =>
      obtain ⟨before, event', after, rfl, t, ht, rfl⟩ := hnew
      exact .inr ⟨event :: before, event', after, rfl, t, ht, rfl⟩

end Hub

end WafWatch

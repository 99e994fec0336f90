import Mathlib.Data.List.Forall2
import WafWatch.Live.Hub

/-!
This module contains what the events at a hub are to one subscriber: messages go from the front of its queue
and come at the end, and once it has lost its place nothing comes any more.
-/

namespace WafWatch

/--
What may happen at a hub. A hub that was stopped goes on with the next command when it is run again.
-/
inductive HubEvent where
  /-- The hub handles a command at some time, while the store is as it is. -/
  | handle (store : EventStore) (now : Time.Timestamp) (command : HubCommand)
  /-- A subscriber takes a message from its queue. -/
  | take (id : Nat)
  /-- A subscriber drops its queue. -/
  | abandon (id : Nat)
  | stop
  deriving DecidableEq, Repr, Inhabited

def ServerMessage.answering (limit : Int) (store : EventStore) (now : Time.Timestamp) :
    ClientRequest → ServerMessage
  | .getLogs own => .logs (store.recent (own.getD limit))
  | .getStats => .stats (store.snapshot now)

/--
What an event may put on the queue of the subscriber of an id that has its place after the event. A message
that goes to everybody is there; a reply may be missing.
-/
def HubEvent.Puts (limit : Int) (id : Nat) : HubEvent → List Envelope → Prop
  | .handle _ _ (.broadcast envelope), put => put = [envelope]
  | .handle store now (.request asker request), put =>
    put = [] ∨ asker = id ∧ put = [⟨.answering limit store now request, now⟩]
  | .handle _ now (.reject asker reason), put =>
    put = [] ∨ asker = id ∧ put = [⟨.error reason, now⟩]
  | _, put => put = []

/--
An event costs a subscriber its place.
-/
def HubEvent.Removes (s : Subscriber) : HubEvent → Prop
  | .handle _ _ (.unregister id) => s.id = id
  | .handle _ _ (.broadcast _) => s.queue.abandoned ∨ s.queue.capacity ≤ s.queue.items.length
  | .handle _ _ (.request id _) => s.id = id ∧ s.queue.abandoned
  | .handle _ _ (.reject id _) => s.id = id ∧ s.queue.abandoned
  | .stop => True
  | _ => False

namespace BoundedQueue

variable {α : Type} {queue queue' : BoundedQueue α} {item : α}

theorem offer_eq_ok (h : queue.offer item = .ok queue') :
    ¬(queue.abandoned ∨ queue.capacity ≤ queue.items.length)
      ∧ queue' = { queue with items := queue.items ++ [item] } := by
  unfold offer at h
  split at h
  . simp at h
  . next hopen =>
    split at h
    . simp at h
    . next hroom =>
      injection h with h
      exact ⟨by simp [hopen, hroom], h.symm⟩

theorem offer_eq_error {refusal : Refusal} (h : queue.offer item = .error refusal) :
    queue.abandoned ∨ queue.capacity ≤ queue.items.length := by
  unfold offer at h
  split at h
  . next hclosed => exact .inl hclosed
  . split at h
    . next hfull => exact .inr hfull
    . simp at h

end BoundedQueue

namespace Subscriber

def leave (s : Subscriber) : Subscriber :=
  { s with connected := false }

def receive (envelope : Envelope) (s : Subscriber) : Subscriber :=
  if s.connected then
    match s.queue.offer envelope with
    | .ok queue => { s with queue }
    | .error .full => s
    | .error .closed => s.leave
  else s

/--
What a message that goes to everybody does to the subscriber.
-/
def deliver (envelope : Envelope) (s : Subscriber) : Subscriber :=
  if s.connected then
    match s.queue.offer envelope with
    | .ok queue => { s with queue }
    | .error _ => s.leave
  else s

def take (s : Subscriber) : Subscriber :=
  match s.queue.take? with
  | some (_, queue) => { s with queue }
  | none => s

def step (limit : Int) (s : Subscriber) : HubEvent → Subscriber
  | .handle _ _ (.register ..) => s
  | .handle _ _ (.unregister id) => if s.id = id then s.leave else s
  | .handle _ _ (.broadcast envelope) => s.deliver envelope
  | .handle store now (.request id request) =>
    if s.id = id then s.receive ⟨.answering limit store now request, now⟩ else s
  | .handle _ now (.reject id reason) => if s.id = id then s.receive ⟨.error reason, now⟩ else s
  | .handle _ _ (.count _) => s
  | .take id => if s.id = id then s.take else s
  | .abandon id => if s.id = id then { s with queue := s.queue.abandon } else s
  | .stop => s.leave

def run (limit : Int) (s : Subscriber) (events : List HubEvent) : Subscriber :=
  events.foldl (step limit) s

def takenAt (s : Subscriber) : HubEvent → List Envelope
  | .take id => if s.id = id then s.queue.items.take 1 else []
  | _ => []

def taken (limit : Int) (s : Subscriber) : List HubEvent → List Envelope
  | [] => []
  | event :: events => s.takenAt event ++ (s.step limit event).taken limit events

/--
The first of some events, as long as the subscriber has its place after them.
-/
def span (limit : Int) (s : Subscriber) : List HubEvent → List HubEvent
  | [] => []
  | event :: events =>
    if (s.step limit event).connected then event :: (s.step limit event).span limit events else []

theorem leave_of_not_connected {s : Subscriber} (h : s.connected = false) : s.leave = s := by
  unfold leave
  rw [← h]

theorem receive_of_not_connected {s : Subscriber} (h : s.connected = false) (envelope : Envelope) :
    s.receive envelope = s := by
  unfold receive
  rw [if_neg (by simp [h])]

theorem receive_connected_iff (s : Subscriber) (envelope : Envelope) :
    (s.receive envelope).connected = true ↔ s.connected = true ∧ ¬s.queue.abandoned := by
  unfold receive BoundedQueue.offer
  cases s.queue.abandoned with
  | true => cases hconnected : s.connected <;> simp [leave, hconnected]
  | false =>
    by_cases hfull : s.queue.capacity ≤ s.queue.items.length
    . simp [hfull]
    . cases hconnected : s.connected <;> simp [hfull, hconnected]

theorem deliver_eq (s : Subscriber) (envelope : Envelope) :
    s.deliver envelope
      =
    if s.connected then
      if s.queue.abandoned ∨ s.queue.capacity ≤ s.queue.items.length then
        { s with connected := false }
      else
        { s with queue := { s.queue with items := s.queue.items ++ [envelope] } }
    else s := by
  unfold deliver
  split
  . cases hoffer : s.queue.offer envelope with
    | ok queue =>
      obtain ⟨hroom, rfl⟩ := BoundedQueue.offer_eq_ok hoffer
      rw [if_neg hroom]
    | error refusal =>
      rw [if_pos (BoundedQueue.offer_eq_error hoffer)]
      rfl
  . rfl

theorem step_connected_iff (limit : Int) (s : Subscriber) (event : HubEvent) :
    (s.step limit event).connected = true ↔ s.connected = true ∧ ¬event.Removes s := by
  cases event with
  | handle store now command =>
    cases command with
    | register identity awaited => simp [step, HubEvent.Removes]
    | unregister id =>
      simp only [step, HubEvent.Removes]
      split
      . next hid => simp [leave, hid]
      . next hid => simp [hid]
    | broadcast envelope =>
      simp only [step, HubEvent.Removes, deliver_eq]
      split
      . next hconnected =>
        split
        . next hrefused => simp [hrefused]
        . next hroom => simp only [hconnected, hroom, not_false_eq_true, and_self]
      . next hlost => simp [hlost]
    | request id request =>
      simp only [step, HubEvent.Removes]
      split
      . next hid => simp [receive_connected_iff, hid]
      . next hid => simp [hid]
    | reject id reason =>
      simp only [step, HubEvent.Removes]
      split
      . next hid => simp [receive_connected_iff, hid]
      . next hid => simp [hid]
    | count awaited => simp [step, HubEvent.Removes]
  | take id =>
    simp only [step, HubEvent.Removes]
    split
    . unfold take
      split <;> simp
    . simp
  | abandon id =>
    simp only [step, HubEvent.Removes]
    split <;> simp
  | stop => simp [step, leave, HubEvent.Removes]

/--
A subscriber becomes another while messages are taken from the front of its queue and put at the end.
-/
structure Changed (s s' : Subscriber) (taken put : List Envelope) : Prop where
  id : s'.id = s.id
  identity : s'.identity = s.identity
  capacity : s'.queue.capacity = s.queue.capacity
  items : taken ++ s'.queue.items = s.queue.items ++ put
  bounded : s.queue.items.length ≤ s.queue.capacity → s'.queue.items.length ≤ s.queue.capacity
  /-- A place that was lost does not come back. -/
  connected : s'.connected = true → s.connected = true

variable {s s' s'' : Subscriber}

theorem Changed.refl (s : Subscriber) : s.Changed s [] [] where
  id := rfl
  identity := rfl
  capacity := rfl
  items := by simp
  bounded := fun h => h
  connected := fun h => h

theorem Changed.trans {taken taken' put put' : List Envelope} (h : s.Changed s' taken put)
    (h' : s'.Changed s'' taken' put')
    : s.Changed s'' (taken ++ taken') (put ++ put') where
  id := h'.id.trans h.id
  identity := h'.identity.trans h.identity
  capacity := h'.capacity.trans h.capacity
  items := by
    rw [List.append_assoc, h'.items, ← List.append_assoc, h.items, List.append_assoc]
  bounded := by
    intro hbound
    have hbound' := h.bounded hbound
    rw [← h.capacity] at hbound' ⊢
    exact h'.bounded hbound'
  connected := fun hconnected => h.connected (h'.connected hconnected)

theorem changed_leave (s : Subscriber) : s.Changed s.leave [] [] :=
  { Changed.refl s with connected := by simp [leave] }

theorem changed_abandon (s : Subscriber) :
    s.Changed { s with queue := s.queue.abandon } [] [] :=
  { Changed.refl s with }

theorem changed_take (s : Subscriber) : s.Changed s.take (s.queue.items.take 1) [] := by
  unfold take BoundedQueue.take?
  cases hitems : s.queue.items with
  | nil => exact Changed.refl s
  | cons item rest =>
    refine { Changed.refl s with items := ?_, bounded := ?_ }
    . simp [hitems]
    . simp [hitems]
      omega

theorem changed_put {envelope : Envelope} {queue : BoundedQueue Envelope}
    (hoffer : s.queue.offer envelope = .ok queue)
    : s.Changed { s with queue } [] [envelope] := by
  obtain ⟨hroom, rfl⟩ := BoundedQueue.offer_eq_ok hoffer
  refine { Changed.refl s with items := ?_, bounded := ?_ }
  . simp
  . simp at hroom ⊢
    omega

theorem changed_receive (s : Subscriber) (envelope : Envelope) :
    ∃ put, s.Changed (s.receive envelope) [] put
      ∧ (put = [] ∨ put = [envelope])
      ∧ ((s.receive envelope).connected = false → put = []) := by
  unfold receive
  split
  . next hconnected =>
    cases hoffer : s.queue.offer envelope with
    | ok queue => exact ⟨_, changed_put hoffer, .inr rfl, by simp [hconnected]⟩
    | error refusal =>
      cases refusal with
      | full => exact ⟨_, Changed.refl s, .inl rfl, fun _ => rfl⟩
      | closed => exact ⟨_, changed_leave s, .inl rfl, fun _ => rfl⟩
  . exact ⟨_, Changed.refl s, .inl rfl, fun _ => rfl⟩

theorem changed_deliver (s : Subscriber) (envelope : Envelope) :
    ∃ put, s.Changed (s.deliver envelope) [] put
      ∧ ((s.deliver envelope).connected = true → put = [envelope])
      ∧ ((s.deliver envelope).connected = false → put = []) := by
  unfold deliver
  split
  . next hconnected =>
    cases hoffer : s.queue.offer envelope with
    | ok queue => exact ⟨_, changed_put hoffer, fun _ => rfl, by simp [hconnected]⟩
    | error refusal => exact ⟨_, changed_leave s, by simp [leave], fun _ => rfl⟩
  . next hlost => exact ⟨_, Changed.refl s, by simp [hlost], fun _ => rfl⟩

theorem step_changed (limit : Int) (s : Subscriber) (event : HubEvent) :
    ∃ put, s.Changed (s.step limit event) (s.takenAt event) put
      ∧ ((s.step limit event).connected = true → event.Puts limit s.id put)
      ∧ ((s.step limit event).connected = false → put = []) := by
  cases event with
  | handle store now command =>
    cases command with
    | register identity awaited => exact ⟨[], Changed.refl s, by simp [HubEvent.Puts]⟩
    | unregister id =>
      refine ⟨[], ?_, by simp [HubEvent.Puts]⟩
      simp only [step, takenAt]
      split
      . exact changed_leave s
      . exact Changed.refl s
    | broadcast envelope => exact s.changed_deliver envelope
    | request id request =>
      simp only [step, takenAt, HubEvent.Puts]
      split
      . next hid =>
        obtain ⟨put, hchanged, hput, hlost⟩ :=
          s.changed_receive ⟨.answering limit store now request, now⟩
        exact ⟨put, hchanged, fun _ => hput.imp_right (⟨hid.symm, ·⟩), hlost⟩
      . exact ⟨[], Changed.refl s, by simp⟩
    | reject id reason =>
      simp only [step, takenAt, HubEvent.Puts]
      split
      . next hid =>
        obtain ⟨put, hchanged, hput, hlost⟩ := s.changed_receive ⟨.error reason, now⟩
        exact ⟨put, hchanged, fun _ => hput.imp_right (⟨hid.symm, ·⟩), hlost⟩
      . exact ⟨[], Changed.refl s, by simp⟩
    | count awaited => exact ⟨[], Changed.refl s, by simp [HubEvent.Puts]⟩
  | take id =>
    refine ⟨[], ?_, by simp [HubEvent.Puts]⟩
    simp only [step, takenAt]
    split
    . exact changed_take s
    . exact Changed.refl s
  | abandon id =>
    refine ⟨[], ?_, by simp [HubEvent.Puts]⟩
    simp only [step, takenAt]
    split
    . exact changed_abandon s
    . exact Changed.refl s
  | stop => exact ⟨[], changed_leave s, by simp [HubEvent.Puts]⟩

@[simp]
theorem step_id (limit : Int) (s : Subscriber) (event : HubEvent) :
    (s.step limit event).id = s.id := by
  obtain ⟨put, hchanged, -⟩ := s.step_changed limit event
  exact hchanged.id

theorem span_of_not_connected {limit : Int} (h : s.connected = false) (events : List HubEvent) :
    s.span limit events = [] := by
  cases events with
  | nil => rfl
  | cons event events =>
    obtain ⟨put, hchanged, -⟩ := s.step_changed limit event
    unfold span
    rw [if_neg]
    intro hconnected
    simp [hchanged.connected hconnected] at h

/--
What comes with a run is what comes with its events one by one, as long as the subscriber has its place.
-/
theorem run_changed (limit : Int) (s : Subscriber) (events : List HubEvent) :
    ∃ puts, List.Forall₂ (HubEvent.Puts limit s.id) (s.span limit events) puts
      ∧ s.Changed (s.run limit events) (s.taken limit events) puts.flatten := by
  induction events generalizing s with
  | nil => exact ⟨[], .nil, Changed.refl s⟩
  | cons event events ih =>
    obtain ⟨put, hchanged, hput, hlost⟩ := s.step_changed limit event
    obtain ⟨puts, hputs, hrun⟩ := ih (s.step limit event)
    have hboth := hchanged.trans hrun
    cases hconnected : (s.step limit event).connected with
    | true =>
      refine ⟨put :: puts, ?_, hboth⟩
      rw [step_id] at hputs
      simp only [span, hconnected, ite_true]
      exact .cons (hput hconnected) hputs
    | false =>
      -- nothing comes with this event, nor with a later one
      rw [span_of_not_connected hconnected, List.forall₂_nil_left_iff] at hputs
      refine ⟨[], ?_, ?_⟩
      . simp [span, hconnected]
      . rw [hlost hconnected, hputs] at hboth
        exact hboth

end Subscriber

end WafWatch

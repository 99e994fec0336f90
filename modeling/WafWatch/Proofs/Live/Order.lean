import WafWatch.Proofs.Live.Run

/-!
This module contains the proof that the order in which the subscribers come does not matter. A message for
everybody is offered to one subscriber after the other, in any order, and those whose queues refused it lose
their places after that; whatever the order, the hub is the same as in the order in which they registered.
-/

namespace WafWatch

namespace Hub

variable {hub : Hub} {s : Subscriber} {envelope : Envelope}

def registered (hub : Hub) : List Nat :=
  (hub.subscribers.filter (·.connected)).map (·.id)

/--
Offer a message to the subscriber of an id. If its queue refuses, the id is noted.
-/
def offerTo (envelope : Envelope) (state : Hub × List Nat) (id : Nat) : Hub × List Nat :=
  match state.1.connected? id with
  | none => state
  | some s =>
    match s.queue.offer envelope with
    | .ok queue => (state.1.modify id fun s => { s with queue }, state.2)
    | .error _ => (state.1, state.2 ++ [id])

/--
Send a message to everybody, when the subscribers come in some order.
-/
def broadcastIn (order : List Nat) (hub : Hub) (envelope : Envelope) : Hub :=
  let offered := order.foldl (offerTo envelope) (hub, [])
  offered.2.foldl (fun hub id => (hub.unregister id).hub) offered.1

def stepIn (order : List Nat) (hub : Hub) : HubEvent → Hub
  | .handle _ _ (.broadcast envelope) => hub.broadcastIn order envelope
  | event => hub.step event

/--
A hub becomes another with some events, in whatever order the subscribers come each time.
-/
inductive RunsTo : Hub → List HubEvent → Hub → Prop where
  | nil (hub : Hub) : RunsTo hub [] hub
  | cons {hub final : Hub} {event : HubEvent} {events : List HubEvent} (order : List Nat)
    (horder : order.Perm hub.registered) (hrest : RunsTo (hub.stepIn order event) events final) :
    RunsTo hub (event :: events) final

/-! ### One after the other -/

def accept (envelope : Envelope) (s : Subscriber) : Subscriber :=
  match s.queue.offer envelope with
  | .ok queue => { s with queue }
  | .error _ => s

def refuses (envelope : Envelope) (hub : Hub) (id : Nat) : Bool :=
  (hub.connected? id).any fun s => !(s.queue.offer envelope).isOk

theorem accept_id (envelope : Envelope) (s : Subscriber) : (accept envelope s).id = s.id := by
  unfold accept
  split <;> rfl

theorem Numbered.modify (h : hub.Numbered) (id : Nat) {f : Subscriber → Subscriber}
    (hf : ∀ s, (f s).id = s.id)
    : (hub.modify id f).Numbered := by
  unfold Numbered Hub.modify at *
  rw [← h, List.map_map]
  apply List.map_congr_left
  intro s hs
  simp only [Function.comp_apply]
  split
  . exact hf s
  . rfl

theorem connected?_modify_of_ne {id id' : Nat} (hne : id' ≠ id) {f : Subscriber → Subscriber}
    (hf : ∀ s, (f s).id = s.id)
    : (hub.modify id f).connected? id' = hub.connected? id' := by
  unfold connected? Hub.modify
  rw [List.find?_map]
  have hsame :
      ((fun s : Subscriber => s.id == id' && s.connected) ∘ fun s => if s.id = id then f s else s)
        = fun s => s.id == id' && s.connected := by
    funext s
    simp only [Function.comp_apply]
    split
    . next hid =>
      have hother : (id == id') = false := by simpa using hne.symm
      simp [hf, hid, hother]
    . rfl
  rw [hsame]
  cases hfind : hub.subscribers.find? fun s => s.id == id' && s.connected with
  | none => rfl
  | some s =>
    have hid : s.id = id' ∧ s.connected = true := by simpa using List.find?_some hfind
    simp [hid.1, hne]

theorem foldl_modify (order : List Nat) (hnodup : order.Nodup) {f : Subscriber → Subscriber}
    (hf : ∀ s, (f s).id = s.id)
    : order.foldl (fun hub id => hub.modify id f) hub
        =
      { hub with subscribers := hub.subscribers.map fun s => if s.id ∈ order then f s else s } := by
  induction order generalizing hub with
  | nil => simp
  | cons id order ih =>
    rw [List.nodup_cons] at hnodup
    rw [List.foldl_cons, ih hnodup.2]
    unfold Hub.modify
    simp only [List.map_map]
    congr 1
    apply List.map_congr_left
    intro s hs
    by_cases hid : s.id = id
    . simp [hid, hf, hnodup.1]
    . simp [hid]

theorem Numbered.offerTo_eq (h : hub.Numbered) (noted : List Nat) {id : Nat}
    (hplace : (hub.connected? id).isSome)
    : offerTo envelope (hub, noted) id
        =
      (hub.modify id (accept envelope), noted ++ [id].filter (refuses envelope hub)) := by
  obtain ⟨t, hplace⟩ := Option.isSome_iff_exists.mp hplace
  obtain ⟨ht, rfl, hconnected⟩ := connected?_eq_some hplace
  unfold offerTo
  simp only [hplace]
  cases hoffer : t.queue.offer envelope with
  | ok queue =>
    have haccept : hub.modify t.id (accept envelope) = hub.modify t.id fun s => { s with queue } := by
      apply h.modify_congr_at ht
      simp [accept, hoffer]
    simp [haccept, refuses, hplace, hoffer, Except.isOk, Except.toBool]
  | error refusal =>
    have haccept : hub.modify t.id (accept envelope) = hub := by
      apply h.modify_eq_self_at ht
      simp [accept, hoffer]
    simp [haccept, refuses, hplace, hoffer, Except.isOk, Except.toBool]

/--
The first loop: everybody whose queue has room gets the message, and the ids of the others are noted.
-/
theorem Numbered.foldl_offerTo (h : hub.Numbered) {order : List Nat} (hnodup : order.Nodup)
    (hplaces : ∀ id ∈ order, (hub.connected? id).isSome) (noted : List Nat)
    : order.foldl (offerTo envelope) (hub, noted)
        =
      (order.foldl (fun hub id => hub.modify id (accept envelope)) hub,
        noted ++ order.filter (refuses envelope hub)) := by
  induction order generalizing hub noted with
  | nil => simp
  | cons id order ih =>
    rw [List.nodup_cons] at hnodup
    -- what is offered to one subscriber changes nothing for those who come later
    have hlater : ∀ id' ∈ order,
        (hub.modify id (accept envelope)).connected? id' = hub.connected? id' := by
      intro id' hid'
      apply connected?_modify_of_ne _ (accept_id envelope)
      rintro rfl
      exact hnodup.1 hid'
    have hplaces' : ∀ id' ∈ order,
        ((hub.modify id (accept envelope)).connected? id').isSome := by
      intro id' hid'
      rw [hlater id' hid']
      exact hplaces id' (List.mem_cons_of_mem _ hid')
    have hrefuses :
        order.filter (refuses envelope (hub.modify id (accept envelope)))
          = order.filter (refuses envelope hub) := by
      apply List.filter_congr
      intro id' hid'
      unfold refuses
      rw [hlater id' hid']
    rw [List.foldl_cons, h.offerTo_eq noted (hplaces id List.mem_cons_self)]
    rw [ih (h.modify id (accept_id envelope)) hnodup.2 hplaces', hrefuses]
    rw [List.append_assoc, ← List.filter_append, List.foldl_cons]
    rfl

theorem Numbered.mem_registered (h : hub.Numbered) (hs : s ∈ hub.subscribers) :
    s.id ∈ hub.registered ↔ s.connected = true := by
  unfold registered
  simp only [List.mem_map, List.mem_filter]
  constructor
  . rintro ⟨t, ⟨ht, hconnected⟩, hid⟩
    rw [h.eq_of_id_eq ht hs hid] at hconnected
    exact hconnected
  . intro hconnected
    exact ⟨s, ⟨hs, hconnected⟩, rfl⟩

theorem Numbered.isSome_connected? (h : hub.Numbered) {id : Nat} (hid : id ∈ hub.registered) :
    (hub.connected? id).isSome := by
  unfold registered at hid
  simp only [List.mem_map, List.mem_filter] at hid
  obtain ⟨t, ⟨ht, hconnected⟩, rfl⟩ := hid
  rw [h.connected?_eq ht, if_pos hconnected]
  rfl

theorem Numbered.nodup_registered (h : hub.Numbered) : hub.registered.Nodup :=
  h.nodup.sublist (List.filter_sublist.map _)

/-! ### In any order -/

theorem Numbered.broadcastIn_eq (h : hub.Numbered) {order : List Nat}
    (horder : order.Perm hub.registered) (envelope : Envelope)
    : hub.broadcastIn order envelope = (hub.broadcast envelope).hub := by
  have hnodup : order.Nodup := horder.nodup_iff.mpr h.nodup_registered
  have hplaces : ∀ id ∈ order, (hub.connected? id).isSome := by
    intro id hid
    exact h.isSome_connected? (horder.mem_iff.mp hid)
  unfold broadcastIn
  simp only [unregister_eq_modify]
  rw [h.foldl_offerTo hnodup hplaces, List.nil_append]
  rw [foldl_modify order hnodup (accept_id envelope)]
  dsimp only
  rw [foldl_modify (f := Subscriber.leave) _ (hnodup.filter _) (fun _ => rfl)]
  rw [h.broadcast_eq]
  simp only [List.map_map]
  congr 1
  apply List.map_congr_left
  intro s hs
  -- both loops pass over exactly those that have lost their places
  have hmem : s.id ∈ order ↔ s.connected = true :=
    horder.mem_iff.trans (h.mem_registered hs)
  cases hconnected : s.connected with
  | false =>
    simp [hmem, hconnected, Subscriber.deliver]
  | true =>
    cases hoffer : s.queue.offer envelope with
    | ok queue =>
      simp [hmem, hconnected, Subscriber.deliver, accept, refuses, h.connected?_eq hs, hoffer, Except.isOk,
        Except.toBool]
    | error refusal =>
      simp [hmem, hconnected, Subscriber.deliver, accept, refuses, h.connected?_eq hs, hoffer, Except.isOk,
        Except.toBool]

theorem Numbered.stepIn_eq (h : hub.Numbered) {order : List Nat}
    (horder : order.Perm hub.registered) (event : HubEvent)
    : hub.stepIn order event = hub.step event := by
  unfold stepIn
  split
  . exact h.broadcastIn_eq horder _
  . rfl

theorem Numbered.runsTo_iff (h : hub.Numbered) {events : List HubEvent} {final : Hub} :
    hub.RunsTo events final ↔ final = hub.run events := by
  constructor
  . intro hruns
    induction hruns with
    | nil hub => rfl
    | cons order horder hrest ih =>
      rw [h.stepIn_eq horder] at ih
      exact ih (h.step _)
  . rintro rfl
    induction events generalizing hub with
    | nil => exact .nil hub
    | cons event events ih =>
      apply RunsTo.cons hub.registered (List.Perm.refl _)
      rw [h.stepIn_eq (List.Perm.refl _)]
      exact ih (h.step event)

end Hub

end WafWatch

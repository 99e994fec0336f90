import WafWatch.Proofs.Live.Numbering

/-!
This module contains what comes to the queue of a subscriber. With every event comes the message that goes with
it or none, and with its registration the first two; all that came has been taken or is on the queue.
-/

namespace WafWatch

/--
A message that may come to the queue of the subscriber of an id with an event.
-/
def HubEvent.Sends (limit : Int) (id : Nat) (envelope : Envelope) : HubEvent → Prop
  | .handle store now (.register ..) =>
    envelope = ⟨.welcome ServerMessage.welcomeText, now⟩ ∨ envelope = ⟨.stats (store.snapshot now), now⟩
  | .handle _ _ (.broadcast message) => envelope = message
  | .handle store now (.request who request) =>
    who = id ∧ envelope = ⟨.answering limit store now request, now⟩
  | .handle _ now (.reject who reason) => who = id ∧ envelope = ⟨.error reason, now⟩
  | _ => False

theorem HubEvent.Puts.cases {limit : Int} {id : Nat} {event : HubEvent} {put : List Envelope}
    (h : event.Puts limit id put)
    : put = [] ∨ ∃ envelope, put = [envelope] ∧ event.Sends limit id envelope := by
  cases event with
  | handle store now command =>
    cases command with
    | broadcast envelope => exact .inr ⟨envelope, h, rfl⟩
    | request who request => exact h.imp_right fun hput => ⟨_, hput.2, hput.1, rfl⟩
    | reject who reason => exact h.imp_right fun hput => ⟨_, hput.2, hput.1, rfl⟩
    | register identity awaited => exact .inl h
    | unregister who => exact .inl h
    | count awaited => exact .inl h
  | take who => exact .inl h
  | abandon who => exact .inl h
  | stop => exact .inl h

namespace Hub

/--
The messages on the queue of the subscriber of an id.
-/
def queueOf (hub : Hub) (id : Nat) : List Envelope :=
  (hub.subscribers.find? (·.id == id)).elim [] (·.queue.items)

/--
What comes to the end of the queue of the subscriber of an id with an event.
-/
def putFor (id : Nat) (hub : Hub) (event : HubEvent) : List Envelope :=
  ((hub.step event).queueOf id).drop (hub.queueOf id).length

/--
What comes to the end of the queue of the subscriber of an id with one event after the other, each message
with what it came with.
-/
def putsFor {α : Type} (eventOf : α → HubEvent) (id : Nat) (hub : Hub) : List α → List (α × Envelope)
  | [] => []
  | thing :: things =>
    (hub.putFor id (eventOf thing)).map (thing, ·)
      ++ (hub.step (eventOf thing)).putsFor eventOf id things

variable {hub : Hub} {s : Subscriber} {id : Nat} {event : HubEvent}

theorem Numbered.queueOf_eq (h : hub.Numbered) (hs : s ∈ hub.subscribers) :
    hub.queueOf s.id = s.queue.items := by
  unfold queueOf
  rw [h.find?_eq hs]
  rfl

theorem queueOf_of_absent (hnone : ∀ s ∈ hub.subscribers, s.id ≠ id) : hub.queueOf id = [] := by
  unfold queueOf
  rw [find?_eq_none hnone]
  rfl

/-! ### One event -/

theorem Numbered.putFor_changed (h : hub.Numbered) (hs : s ∈ hub.subscribers) (event : HubEvent)
    : let s' := s.step hub.defaultLogLimit event
      s.Changed s' (s.takenAt event) (hub.putFor s.id event)
        ∧
      (s'.connected = true → event.Puts hub.defaultLogLimit s.id (hub.putFor s.id event))
        ∧
      (s'.connected = false → hub.putFor s.id event = []) := by
  intro s'
  obtain ⟨put, hchanged, hput, hlost⟩ := s.step_changed hub.defaultLogLimit event
  have hafter := (h.step event).queueOf_eq (h.step_mem hs event)
  rw [Subscriber.step_id] at hafter
  -- nothing comes when something is taken
  have hone : s.takenAt event = [] ∨ put = [] := by
    cases event with
    | take who =>
      right
      cases hconnected : s'.connected with
      | true => exact hput hconnected
      | false => exact hlost hconnected
    | handle store now command => exact .inl rfl
    | abandon who => exact .inl rfl
    | stop => exact .inl rfl
  have hputFor : hub.putFor s.id event = put := by
    have hitems := hchanged.items
    unfold putFor
    rw [hafter, h.queueOf_eq hs]
    cases hone with
    | inl hnothing =>
      rw [hnothing, List.nil_append] at hitems
      rw [hitems, List.drop_left]
    | inr hnothing =>
      rw [hnothing, List.append_nil] at hitems
      rw [hnothing, ← hitems, List.drop_eq_nil_iff, List.length_append]
      omega
  rw [hputFor]
  exact ⟨hchanged, hput, hlost⟩

theorem Numbered.absent_of_arrivals (h : hub.Numbered) (hs : s ∈ hub.arrivals event) :
    ∀ t ∈ hub.subscribers, t.id ≠ s.id := by
  intro t ht hid
  obtain ⟨store, now, identity, awaited, rfl, rfl⟩ := mem_arrivals hs
  have hle := (h.id_le ht).2
  rw [hid] at hle
  exact absurd hle (Nat.not_succ_le_self _)

theorem Numbered.putFor_of_arrivals (h : hub.Numbered) (hs : s ∈ hub.arrivals event) :
    hub.putFor s.id event = s.queue.items := by
  have hmem : s ∈ (hub.step event).subscribers := by
    rw [h.step_eq]
    exact List.mem_append_right _ hs
  unfold putFor
  rw [queueOf_of_absent (h.absent_of_arrivals hs), (h.step event).queueOf_eq hmem]
  rfl

theorem Numbered.putFor_of_absent (h : hub.Numbered) (hnone : ∀ s ∈ hub.subscribers, s.id ≠ id)
    (hnobody : ∀ s ∈ hub.arrivals event, s.id ≠ id)
    : (hub.step event).queueOf id = [] ∧ hub.putFor id event = [] := by
  have hafter : (hub.step event).queueOf id = [] := by
    apply queueOf_of_absent
    intro t ht
    rw [h.step_eq, List.mem_append, List.mem_map] at ht
    rcases ht with ⟨s, hs, rfl⟩ | hnew
    . rw [Subscriber.step_id]
      exact hnone s hs
    . exact hnobody t hnew
  refine ⟨hafter, ?_⟩
  unfold putFor
  rw [hafter, List.drop_nil]

/--
With an event comes nothing, or one message that goes with it, or the first two.
-/
theorem Numbered.putFor_cases (h : hub.Numbered) (id : Nat) (event : HubEvent)
    : hub.putFor id event = []
        ∨
      (∃ envelope, hub.putFor id event = [envelope] ∧ event.Sends hub.defaultLogLimit id envelope)
        ∨
      ∃ store now identity awaited, event = .handle store now (.register identity awaited)
        ∧ hub.putFor id event
            = [⟨.welcome ServerMessage.welcomeText, now⟩, ⟨.stats (store.snapshot now), now⟩] := by
  by_cases hmem : ∃ s ∈ hub.subscribers, s.id = id
  . obtain ⟨s, hs, rfl⟩ := hmem
    obtain ⟨-, hput, hlost⟩ := h.putFor_changed hs event
    cases hconnected : (s.step hub.defaultLogLimit event).connected with
    | true => exact (hput hconnected).cases.imp_right .inl
    | false => exact .inl (hlost hconnected)
  . have hnone : ∀ s ∈ hub.subscribers, s.id ≠ id := fun s hs hid => hmem ⟨s, hs, hid⟩
    by_cases hcomes : ∃ t ∈ hub.arrivals event, t.id = id
    . obtain ⟨t, ht, rfl⟩ := hcomes
      have hput := h.putFor_of_arrivals ht
      obtain ⟨store, now, identity, awaited, rfl, rfl⟩ := mem_arrivals ht
      exact .inr (.inr ⟨store, now, identity, awaited, rfl, hput⟩)
    . exact .inl (h.putFor_of_absent hnone fun t ht hid => hcomes ⟨t, ht, hid⟩).2

theorem Numbered.sends_of_mem_putFor (h : hub.Numbered) {envelope : Envelope}
    (henvelope : envelope ∈ hub.putFor id event)
    : event.Sends hub.defaultLogLimit id envelope := by
  rcases h.putFor_cases id event with hnone | ⟨one, hone, hsends⟩ | ⟨store, now, _, _, rfl, htwo⟩
  . simp [hnone] at henvelope
  . rw [hone, List.mem_singleton] at henvelope
    exact henvelope ▸ hsends
  . rw [htwo, List.mem_pair] at henvelope
    exact henvelope

/--
Whoever has been registered gets at most one message with an event.
-/
theorem Numbered.putFor_cases_of_mem (h : hub.Numbered) (hs : s ∈ hub.subscribers) (event : HubEvent)
    : hub.putFor s.id event = []
        ∨
      ∃ envelope, hub.putFor s.id event = [envelope]
        ∧ event.Sends hub.defaultLogLimit s.id envelope ∧ event.isRegistration = false := by
  obtain ⟨-, hput, hlost⟩ := h.putFor_changed hs event
  cases hconnected : (s.step hub.defaultLogLimit event).connected with
  | false => exact .inl (hlost hconnected)
  | true =>
    have hput := hput hconnected
    rcases hput.cases with hnone | ⟨envelope, hone, hsends⟩
    . exact .inl hnone
    . right
      refine ⟨envelope, hone, hsends, ?_⟩
      rw [hone] at hput
      cases event with
      | handle store now command => cases command <;> first | rfl | contradiction
      | _ => rfl

theorem Numbered.takenAt_append_queueOf (h : hub.Numbered) (id : Nat) (event : HubEvent)
    : hub.takenAt id event ++ (hub.step event).queueOf id = hub.queueOf id ++ hub.putFor id event := by
  by_cases hmem : ∃ s ∈ hub.subscribers, s.id = id
  . obtain ⟨s, hs, rfl⟩ := hmem
    have hitems := (h.putFor_changed hs event).1.items
    have hafter := (h.step event).queueOf_eq (h.step_mem hs event)
    rw [Subscriber.step_id] at hafter
    rw [h.takenAt_eq hs, hafter, h.queueOf_eq hs]
    exact hitems
  . have hnone : ∀ s ∈ hub.subscribers, s.id ≠ id := fun s hs hid => hmem ⟨s, hs, hid⟩
    unfold putFor
    rw [takenAt_of_absent hnone, queueOf_of_absent hnone]
    rfl

/-! ### Runs -/

section

variable {α : Type} {eventOf : α → HubEvent}

/--
What came has been taken or is on the queue.
-/
theorem Numbered.takenBy_append_queueOf (h : hub.Numbered) (eventOf : α → HubEvent) (id : Nat)
    (things : List α)
    : hub.takenBy id (things.map eventOf) ++ (hub.run (things.map eventOf)).queueOf id
        =
      hub.queueOf id ++ (hub.putsFor eventOf id things).map (·.2) := by
  induction things generalizing hub with
  | nil =>
    rw [putsFor, List.map_nil, List.map_nil, List.append_nil]
    rfl
  | cons thing things ih =>
    have hfirst := h.takenAt_append_queueOf id (eventOf thing)
    have hrest := ih (h.step (eventOf thing))
    have hrun : hub.run ((thing :: things).map eventOf)
        = (hub.step (eventOf thing)).run (things.map eventOf) := rfl
    have hputs : ((hub.putFor id (eventOf thing)).map (thing, ·)).map (·.2)
        = hub.putFor id (eventOf thing) := by
      simp [Function.comp_def]
    rw [hrun, List.map_cons, takenBy, List.append_assoc, hrest, ← List.append_assoc, hfirst,
      putsFor, List.map_append, hputs, List.append_assoc]

theorem Numbered.sends_of_mem_putsFor (h : hub.Numbered) {things : List α} {put : α × Envelope}
    (hput : put ∈ hub.putsFor eventOf id things)
    : put.1 ∈ things ∧ (eventOf put.1).Sends hub.defaultLogLimit id put.2 := by
  induction things generalizing hub with
  | nil => simp [putsFor] at hput
  | cons thing things ih =>
    rw [putsFor, List.mem_append, List.mem_map] at hput
    rcases hput with ⟨envelope, henvelope, rfl⟩ | hlater
    . exact ⟨List.mem_cons_self, h.sends_of_mem_putFor henvelope⟩
    . have hrest := ih (h.step (eventOf thing)) hlater
      rw [h.step_defaultLogLimit] at hrest
      exact ⟨List.mem_cons_of_mem _ hrest.1, hrest.2⟩

/--
Whoever has been registered gets some messages in the order of what they come with, one with each, and nothing
more from any registration.
-/
theorem Numbered.putsFor_of_mem (h : hub.Numbered) (hs : s ∈ hub.subscribers)
    (eventOf : α → HubEvent) (things : List α)
    : ((hub.putsFor eventOf s.id things).map (·.1)).Sublist things
        ∧ ∀ put ∈ hub.putsFor eventOf s.id things, (eventOf put.1).isRegistration = false := by
  induction things generalizing hub s with
  | nil => exact ⟨.slnil, by simp [putsFor]⟩
  | cons thing things ih =>
    have hrest := ih (h.step (eventOf thing)) (h.step_mem hs (eventOf thing))
    rw [Subscriber.step_id] at hrest
    rw [putsFor]
    rcases h.putFor_cases_of_mem hs (eventOf thing) with hnone | ⟨envelope, hone, -, hregistration⟩
    . rw [hnone]
      exact ⟨hrest.1.cons _, hrest.2⟩
    . rw [hone]
      refine ⟨hrest.1.cons_cons _, ?_⟩
      simpa [hregistration] using hrest.2

/--
Nothing comes to somebody without a place.
-/
theorem Numbered.putsFor_of_gone (h : hub.Numbered) (hs : s ∈ hub.subscribers)
    (hgone : s.connected = false) (eventOf : α → HubEvent) (things : List α)
    : hub.putsFor eventOf s.id things = [] := by
  induction things generalizing hub s with
  | nil => rfl
  | cons thing things ih =>
    have hlater : (s.step hub.defaultLogLimit (eventOf thing)).connected = false := by
      rw [← Bool.not_eq_true, s.step_connected_iff]
      simp [hgone]
    have hrest := ih (h.step (eventOf thing)) (h.step_mem hs (eventOf thing)) hlater
    rw [Subscriber.step_id] at hrest
    rw [putsFor, (h.putFor_changed hs (eventOf thing)).2.2 hlater, hrest]
    rfl

theorem putsFor_append (hub : Hub) (eventOf : α → HubEvent) (id : Nat) (things more : List α)
    : hub.putsFor eventOf id (things ++ more)
        =
      hub.putsFor eventOf id things ++ (hub.run (things.map eventOf)).putsFor eventOf id more := by
  induction things generalizing hub with
  | nil => rfl
  | cons thing things ih =>
    rw [List.cons_append, putsFor, ih, putsFor, List.append_assoc]
    rfl

/--
Nothing comes to somebody with its leaving or after that.
-/
theorem Numbered.putsFor_unregister (h : hub.Numbered) (hs : s ∈ hub.subscribers)
    (store : EventStore) (now : Time.Timestamp) (before after : List HubEvent)
    : hub.putsFor (fun event => event) s.id (before ++ .handle store now (.unregister s.id) :: after)
        =
      hub.putsFor (fun event => event) s.id before := by
  obtain ⟨t, ht, hid⟩ : ∃ t ∈ (hub.run before).subscribers, t.id = s.id := by
    obtain ⟨_, -, hchanged⟩ := s.run_changed hub.defaultLogLimit before
    exact ⟨_, h.run_mem hs before, hchanged.id⟩
  rw [← hid]
  have hbefore := h.run before
  have hgone : (t.step (hub.run before).defaultLogLimit
      (.handle store now (.unregister t.id))).connected = false := by
    simp [Subscriber.step, Subscriber.leave]
  have hnone := (hbefore.putFor_changed ht _).2.2 hgone
  have hlater := (hbefore.step _).putsFor_of_gone (hbefore.step_mem ht _) hgone
    (fun event => event) after
  rw [Subscriber.step_id] at hlater
  rw [putsFor_append, List.map_id', putsFor, hnone, hlater]
  simp

/--
What holds between the messages that come with things in some relation holds between the messages that come
in this order.
-/
theorem Numbered.pairwise_putsFor (h : hub.Numbered) {R : α → α → Prop}
    {S : α × Envelope → α × Envelope → Prop} {things : List α} (hthings : things.Pairwise R)
    (hone : ∀ (hub : Hub) (thing : α), hub.Numbered →
      ((hub.putFor id (eventOf thing)).map (thing, ·)).Pairwise S)
    (htwo : ∀ thing later envelope message, R thing later →
      (eventOf thing).Sends hub.defaultLogLimit id envelope →
        (eventOf later).Sends hub.defaultLogLimit id message → S (thing, envelope) (later, message))
    : (hub.putsFor eventOf id things).Pairwise S := by
  induction things generalizing hub with
  | nil => exact .nil
  | cons thing things ih =>
    rw [List.pairwise_cons] at hthings
    have hnext := h.step (eventOf thing)
    have hlimit := h.step_defaultLogLimit (eventOf thing)
    rw [putsFor, List.pairwise_append]
    refine ⟨hone hub thing h, ih hnext hthings.2 (hlimit ▸ htwo), ?_⟩
    intro put hput later hlater
    obtain ⟨envelope, henvelope, rfl⟩ := List.mem_map.mp hput
    obtain ⟨hmem, hsends⟩ := hnext.sends_of_mem_putsFor hlater
    rw [hlimit] at hsends
    exact htwo _ _ _ _ (hthings.1 later.1 hmem) (h.sends_of_mem_putFor henvelope) hsends

end

end Hub

end WafWatch

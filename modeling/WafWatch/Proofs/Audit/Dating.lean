import WafWatch.Proofs.Audit.Entry
import WafWatch.Proofs.Time.OffsetClock

/-!
This module contains where the time of an event comes from: the time at the start of its line if there is one, else
the first one in square brackets if there is one, else the clock. Both forms of a time name the same instant.
-/

namespace WafWatch.AuditLine

open WafWatch.Text WafWatch.Time

variable {line : List Char} {t : Timestamp}

/-! ### Times at the start of a line -/

/--
The line begins with a time that exists.
-/
def StartsDated (line : List Char) : Prop :=
  ∃ fields : Timestamp.Fields, fields.Fits ∧ fields.slashed <+: line ∧ fields.exists = true

theorem leadingTime?_eq_some_iff
    : leadingTime? line = some t
        ↔
      ∃ fields : Timestamp.Fields, fields.Fits ∧ fields.slashed <+: line ∧ fields.exists = true
        ∧ fields.Names t := by
  constructor
  . intro h
    unfold leadingTime? at h
    rw [Option.ite_none_right_eq_some, readSlashed?_eq_some_iff] at h
    obtain ⟨-, fields, hfits, hexists, hwritten, hnames⟩ := h
    exact ⟨fields, hfits, hwritten ▸ List.take_prefix _ _, hexists, (Timestamp.Fields.names_iff hexists).mpr hnames⟩
  . rintro ⟨fields, hfits, ⟨rest, rfl⟩, hexists, hnames⟩
    rw [leadingTime?_slashed (hfits.isWritable hexists), (Timestamp.Fields.names_iff hexists).mp hnames]

theorem isSome_leadingTime?_iff : (leadingTime? line).isSome = true ↔ StartsDated line := by
  rw [Option.isSome_iff_exists]
  simp only [leadingTime?_eq_some_iff]
  constructor
  . rintro ⟨t, fields, hfits, hbegins, hexists, -⟩
    exact ⟨fields, hfits, hbegins, hexists⟩
  . rintro ⟨fields, hfits, hbegins, hexists⟩
    exact ⟨_, fields, hfits, hbegins, hexists, (Timestamp.Fields.names_iff hexists).mpr rfl⟩

/-! ### Times in square brackets -/

theorem hasForm_append_form (form form' s : List Char) :
    hasForm (form ++ form') s = (hasForm form s && hasForm form' (s.drop form.length)) := by
  induction form generalizing s with
  | nil => simp [hasForm]
  | cons f form ih =>
    cases s with
    | nil => rfl
    | cons c rest =>
      change (_ && hasForm (form ++ form') rest) = ((_ && hasForm form rest) && hasForm form' (rest.drop form.length))
      rw [ih, Bool.and_assoc]

def bracketed (content : List Char) : List Char :=
  '[' :: content ++ [']']

theorem exists_bracketed {s : List Char} (h : hasForm bracketedForm s = true) :
    ∃ content rest, content.length = 26 ∧ s = bracketed content ++ rest := by
  have hsplit : bracketedForm = '[' :: (bracketedForm.take 27).drop 1 ++ [']'] := by decide
  have hlength : ('[' :: (bracketedForm.take 27).drop 1).length = 27 := by decide
  have hlong := length_le_of_hasForm h
  rw [hsplit, List.length_append, hlength] at hlong
  rw [hsplit, hasForm_append_form, Bool.and_eq_true, hlength] at h
  obtain ⟨hopening, hclosing⟩ := h
  match s, hlong, hopening with
  | c :: s, hlong, hopening =>
    rw [List.drop_succ_cons] at hclosing
    cases hrest : s.drop 26 with
    | nil =>
      rw [hrest] at hclosing
      contradiction
    | cons d rest =>
      rw [hrest] at hclosing
      have hc : ('[' == c) = true := (Bool.and_eq_true_iff.mp hopening).1
      have hd : (']' == d) = true := (Bool.and_eq_true_iff.mp hclosing).1
      rw [beq_iff_eq] at hc hd
      subst hc hd
      refine ⟨s.take 26, rest, ?_, ?_⟩
      . rw [List.length_take]
        simp only [List.length_cons, List.length_nil] at hlong
        omega
      . unfold bracketed
        rw [List.append_assoc, List.cons_append, List.singleton_append, ← hrest, List.take_append_drop]

theorem bracketedTime?_eq_some_iff {s content : List Char}
    : bracketedTime? s = some content ↔ IsBracketedTime (bracketed content) ∧ bracketed content <+: s := by
  have hform : bracketedForm.length = 28 := by decide
  have hwritten {content : List Char} (hcontent : content.length = 26) (rest : List Char) :
      ((bracketed content ++ rest).take 27).drop 1 = content := by
    unfold bracketed
    rw [List.append_assoc, List.cons_append, List.take_succ_cons, List.drop_succ_cons, ← hcontent, List.drop_zero,
      List.take_left]
  unfold bracketedTime?
  rw [Option.ite_none_right_eq_some, Option.some.injEq, hform]
  constructor
  . rintro ⟨hs, rfl⟩
    obtain ⟨content, rest, hcontent, rfl⟩ := exists_bracketed hs
    have hlength : (bracketed content).length = bracketedForm.length := by simp [bracketed, hcontent, hform]
    rw [hwritten hcontent]
    rw [hasForm_append (Nat.le_of_eq hlength.symm)] at hs
    exact ⟨⟨hlength, hs⟩, List.prefix_append _ rest⟩
  . rintro ⟨⟨hlength, hs⟩, rest, rfl⟩
    have hcontent : content.length = 26 := by
      simpa [bracketed, hform] using hlength
    rw [hasForm_append (Nat.le_of_eq hlength.symm)]
    exact ⟨hs, hwritten hcontent rest⟩

/--
The first text of the line that has the form of a time in square brackets has this content. Digits of any script have
the form.
-/
structure FirstBracketed (content line : List Char) : Prop where
  isBracketedTime : IsBracketedTime (bracketed content)
  first : ∃ before after, line = before ++ bracketed content ++ after
    ∧ ∀ earlier part later, IsBracketedTime part → line = earlier ++ part ++ later → before.length ≤ earlier.length

theorem firstMatch?_bracketedTime?_eq_some_iff {content : List Char} :
    firstMatch? bracketedTime? line = some content ↔ FirstBracketed content line := by
  rw [recognizes_bracketedTime?.firstMatch?_eq_some_iff]
  simp only [bracketedTime?_eq_some_iff]
  constructor
  . rintro ⟨before, _, rfl, ⟨hform, after, rfl⟩, hfirst⟩
    exact ⟨hform, before, after, by rw [List.append_assoc], hfirst⟩
  . rintro ⟨hform, before, after, rfl, hfirst⟩
    exact ⟨before, bracketed content ++ after, by rw [List.append_assoc], ⟨hform, List.prefix_append _ _⟩, hfirst⟩

/-! ### Times of events -/

/--
Where the time of an event comes from: the time at the start of its line, if there is such a time; else the first one
in square brackets, if there is such a time on such a clock; else the clock that the line is read by.
-/
structure Dated (line : List Char) (now t : Timestamp) : Prop where
  leading : ∀ fields : Timestamp.Fields, fields.Fits → fields.slashed <+: line →
    (StartsDated line ↔ fields.exists = true) ∧ (StartsDated line → fields.Names t)
  bracketed : ¬StartsDated line → ∀ (clock : OffsetClock) (month : Nat), clock.Fits →
    FirstBracketed clock.written line → clock.IsValid month → clock.Names month t
  undated : ¬StartsDated line → (∀ (clock : OffsetClock) (month : Nat), clock.Fits →
    FirstBracketed clock.written line → ¬clock.IsValid month) → t = now

theorem StartsDated.exists_eq {fields : Timestamp.Fields} (h : StartsDated line) (hfits : fields.Fits)
    (hbegins : fields.slashed <+: line)
    : fields.exists = true := by
  obtain ⟨rest, rfl⟩ := hbegins
  obtain ⟨fields', hfits', ⟨rest', hsame⟩, hexists⟩ := h
  rw [hfits.eq hfits' hsame.symm]
  exact hexists

theorem bind_readOffsetClock?_eq_some_iff
    : (firstMatch? bracketedTime? line).bind readOffsetClock? = some t
        ↔
      ∃ (clock : OffsetClock) (month : Nat), clock.Fits ∧ FirstBracketed clock.written line ∧ clock.IsValid month
        ∧ clock.Names month t := by
  simp only [Option.bind_eq_some_iff, firstMatch?_bracketedTime?_eq_some_iff, readOffsetClock?_eq_some_iff]
  constructor
  . rintro ⟨_, hfirst, clock, month, hfits, rfl, hvalid, hnames⟩
    exact ⟨clock, month, hfits, hfirst, hvalid, hnames⟩
  . rintro ⟨clock, month, hfits, hfirst, hvalid, hnames⟩
    exact ⟨clock.written, hfirst, clock, month, hfits, rfl, hvalid, hnames⟩

theorem time?_dated (line : List Char) (now : Timestamp) : Dated line now ((time? line).getD now) := by
  rw [time?_eq]
  constructor
  . intro fields hfits hbegins
    have hstarts (hexists : fields.exists = true) : StartsDated line := ⟨fields, hfits, hbegins, hexists⟩
    refine ⟨⟨fun h => h.exists_eq hfits hbegins, hstarts⟩, ?_⟩
    intro h
    have hexists := h.exists_eq hfits hbegins
    have hleading : leadingTime? line = some (.ofFields fields) :=
      leadingTime?_eq_some_iff.mpr ⟨fields, hfits, hbegins, hexists, (Timestamp.Fields.names_iff hexists).mpr rfl⟩
    rw [hleading]
    exact (Timestamp.Fields.names_iff hexists).mpr rfl
  . intro hundated clock month hfits hfirst hvalid
    rw [← isSome_leadingTime?_iff, Option.not_isSome_iff_eq_none] at hundated
    have hnames := (OffsetClock.names_iff hvalid.exists_eq).mpr rfl
    have hbracketed := bind_readOffsetClock?_eq_some_iff.mpr ⟨clock, month, hfits, hfirst, hvalid, hnames⟩
    rw [hundated, hbracketed]
    exact hnames
  . intro hundated hnone
    rw [← isSome_leadingTime?_iff, Option.not_isSome_iff_eq_none] at hundated
    have hbracketed : (firstMatch? bracketedTime? line).bind readOffsetClock? = none := by
      rw [Option.eq_none_iff_forall_ne_some]
      intro t ht
      obtain ⟨clock, month, hfits, hfirst, hvalid, -⟩ := bind_readOffsetClock?_eq_some_iff.mp ht
      exact hnone clock month hfits hfirst hvalid
    rw [hundated, hbracketed]
    rfl

/--
The time of an event comes from its line wherever the line has one. A line with the time of a clock in square brackets
and a line that begins with what a clock in UTC shows then are given the same time.
-/
theorem parse_dated {limit : Nat} {stamp : Stamp} {text : String} {event : SecurityEvent}
    (h : parse limit stamp text = some event)
    : Dated text.toList stamp.now event.timestamp
        ∧
      ∀ (clock : OffsetClock) (month : Nat), clock.Fits → clock.IsValid month → ¬StartsDated text.toList →
        FirstBracketed clock.written text.toList →
          (∃! utc, clock.IsInUtc month utc)
            ∧ ∀ utc, clock.IsInUtc month utc → 0 ≤ utc.date.year → utc.date.year ≤ 9999 →
              ∀ (limit' : Nat) (stamp' : Stamp) (text' : String) (event' : SecurityEvent),
                utc.slashed <+: text'.toList → parse limit' stamp' text' = some event' →
                  event'.timestamp = event.timestamp := by
  have hdated {limit : Nat} {stamp : Stamp} {text : String} {event : SecurityEvent}
      (h : parse limit stamp text = some event) : Dated text.toList stamp.now event.timestamp := by
    obtain ⟨-, -, rfl⟩ := parse_eq_some_iff.mp h
    exact time?_dated text.toList stamp.now
  refine ⟨hdated h, ?_⟩
  intro clock month hfits hvalid hundated hfirst
  have hclock := (hdated h).bracketed hundated clock month hfits hfirst hvalid
  refine ⟨OffsetClock.existsUnique_isInUtc hvalid, ?_⟩
  intro utc hutc hyear hlast limit' stamp' text' event' hbegins h'
  obtain ⟨hstarts, hnames⟩ := (hdated h').leading utc (hutc.fits hyear hlast) hbegins
  have hleading := hnames (hstarts.mpr hutc.exists_eq)
  rw [← (Timestamp.Fields.names_iff hutc.exists_eq).mp hleading]
  exact (Timestamp.Fields.names_iff hutc.exists_eq).mp (hutc.names_of hvalid hclock)

/--
Half an hour into March on a clock an hour ahead is still the leap day in UTC.
-/
theorem parse_dated_leap_day :
    let text := "[01/Mar/2024:00:30:00 +0100] ModSecurity: Access denied"
    let text' := "2024/02/29 23:30:00 ModSecurity: Access denied"
    let utc : Timestamp.Fields := ⟨⟨2024, 2, 29⟩, 23, 30, 0, 0⟩
    ∃ event event', parse 100 default text = some event ∧ parse 100 default text' = some event'
      ∧ utc.Names event.timestamp ∧ event'.timestamp = event.timestamp := by
  intro text text' utc
  let clock : OffsetClock := ⟨1, ['M', 'a', 'r'], 2024, 0, 30, 0, true, 1, 0⟩
  have h : parse 100 default text = some (toEvent default text.toList) :=
    parse_eq_some_iff.mpr ⟨by decide +kernel, by decide, rfl⟩
  have h' : parse 100 default text' = some (toEvent default text'.toList) :=
    parse_eq_some_iff.mpr ⟨by decide +kernel, by decide, rfl⟩
  have hfits : clock.Fits := by
    constructor <;> decide
  have hvalid : clock.IsValid 3 := by
    constructor
    . exact ⟨"mar", by decide, by decide⟩
    all_goals decide
  have hundated : ¬StartsDated text.toList := by
    rw [← isSome_leadingTime?_iff]
    decide +kernel
  have hfirst : FirstBracketed clock.written text.toList := by
    rw [← firstMatch?_bracketedTime?_eq_some_iff]
    decide +kernel
  have hnames : clock.Names 3 (.ofFields utc) := by
    rw [OffsetClock.names_iff hvalid.exists_eq]
    decide +kernel
  have hexists : utc.exists = true := by decide
  have hutc : clock.IsInUtc 3 utc := ⟨hexists, _, hnames, (Timestamp.Fields.names_iff hexists).mpr rfl⟩
  obtain ⟨hdated, hsame⟩ := parse_dated h
  refine ⟨_, _, h, h', ?_, ?_⟩
  . exact hutc.names_of hvalid (hdated.bracketed hundated clock 3 hfits hfirst hvalid)
  . have hbegins : utc.slashed <+: text'.toList := by decide +kernel
    exact (hsame clock 3 hfits hvalid hundated hfirst).2 utc hutc (by decide) (by decide) _ _ _ _ hbegins h'

end WafWatch.AuditLine

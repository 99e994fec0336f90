import WafWatch.Proofs.Time.Slashed
import WafWatch.Proofs.Time.Succession

/-!
This module contains the written form of clocks that are ahead of UTC or behind it: which texts are read as the time
of such a clock, and which instant it is.
-/

namespace WafWatch.Time

open WafWatch.Text

/--
The letters are the name of the month, in any letter case.
-/
def IsMonthName (name : List Char) (month : Nat) : Prop :=
  ∃ known, (known, month) ∈ monthNames.zipIdx 1 ∧ name.map Char.toLower = known.toList

/--
What a clock shows, and by how many hours and minutes it is ahead of UTC or behind it.
-/
structure OffsetClock where
  day : Nat
  month : List Char
  year : Nat
  hour : Nat
  minute : Nat
  second : Nat
  ahead : Bool
  hours : Nat
  minutes : Nat

namespace OffsetClock

def sign (clock : OffsetClock) : Char :=
  if clock.ahead then '+' else '-'

/--
The written form `DD/Mon/YYYY:hh:mm:ss +hhmm`.
-/
def written (clock : OffsetClock) : List Char :=
  showPadded 2 clock.day ++ '/' :: clock.month ++ '/' :: showPadded 4 clock.year ++
    ':' :: showPadded 2 clock.hour ++ ':' :: showPadded 2 clock.minute ++ ':' :: showPadded 2 clock.second ++
    ' ' :: clock.sign :: showPadded 2 clock.hours ++ showPadded 2 clock.minutes

/--
There is room for every number in its digits, whether there is such a time or not.
-/
structure Fits (clock : OffsetClock) : Prop where
  day_lt : clock.day < 10 ^ 2
  length_month : clock.month.length = 3
  year_lt : clock.year < 10 ^ 4
  hour_lt : clock.hour < 10 ^ 2
  minute_lt : clock.minute < 10 ^ 2
  second_lt : clock.second < 10 ^ 2
  hours_lt : clock.hours < 10 ^ 2
  minutes_lt : clock.minutes < 10 ^ 2

def fields (clock : OffsetClock) (month : Nat) : Timestamp.Fields :=
  ⟨⟨clock.year, month, clock.day⟩, clock.hour, clock.minute, clock.second, 0⟩

/--
The clock shows a time that exists, in a month of that number, and is less than a day ahead or behind.
-/
structure IsValid (clock : OffsetClock) (month : Nat) : Prop where
  isMonthName : IsMonthName clock.month month
  exists_eq : (clock.fields month).exists = true
  hours_le : clock.hours ≤ 23
  minutes_le : clock.minutes ≤ 59

/--
The seconds by which the clock is ahead of UTC.
-/
def offset (clock : OffsetClock) : Int :=
  let seconds : Nat := clock.hours * 3600 + clock.minutes * 60
  if clock.ahead then seconds else -seconds

/--
The clock shows the instant: what it shows would in UTC be later by the offset.
-/
def Names (clock : OffsetClock) (month : Nat) (t : Timestamp) : Prop :=
  ∃ shown, (clock.fields month).Names shown ∧ t.seconds = shown.seconds - clock.offset ∧ t.nanos = shown.nanos

variable {clock : OffsetClock} {month : Nat} {t : Timestamp}

theorem names_iff (h : (clock.fields month).exists = true) :
    clock.Names month t ↔ (Timestamp.ofFields (clock.fields month)).behind clock.offset = t := by
  obtain ⟨seconds, nanos⟩ := t
  unfold Names Timestamp.behind
  simp only [Timestamp.Fields.names_iff h, exists_eq_left', Timestamp.mk.injEq]
  constructor
  . rintro ⟨rfl, rfl⟩
    exact ⟨rfl, rfl⟩
  . rintro ⟨rfl, rfl⟩
    exact ⟨rfl, rfl⟩

end OffsetClock

/-! ### Parts -/

variable {s rest : List Char}

theorem IsMonthName.eq {name : List Char} {month month' : Nat} (h : IsMonthName name month)
    (h' : IsMonthName name month')
    : month = month' := by
  have hdistinct : ∀ known ∈ monthNames.zipIdx 1, ∀ other ∈ monthNames.zipIdx 1,
      known.1.toList = other.1.toList → known.2 = other.2 := by
    decide
  obtain ⟨known, hknown, hname⟩ := h
  obtain ⟨other, hother, hname'⟩ := h'
  exact hdistinct _ hknown _ hother (hname.symm.trans hname')

theorem readMonthName?_eq_some_iff {month : Nat}
    : readMonthName? s = some (month, rest)
        ↔
      ∃ name, name.length = 3 ∧ IsMonthName name month ∧ s = name ++ rest := by
  have hlengths : ∀ known ∈ monthNames, known.toList.length = 3 := by decide
  have hdistinct : monthNames.Pairwise (·.toList ≠ ·.toList) := by decide
  unfold readMonthName? IsMonthName
  dsimp only
  constructor
  . intro h
    split at h
    . next index hindex =>
      rw [Option.some.injEq, Prod.mk.injEq] at h
      obtain ⟨rfl, rfl⟩ := h
      obtain ⟨hbound, hname, -⟩ := List.findIdx?_eq_some_iff_getElem.mp hindex
      rw [beq_iff_eq] at hname
      refine ⟨s.take 3, ?_, ⟨monthNames[index], ?_, hname.symm⟩, (List.take_append_drop 3 s).symm⟩
      . have hlength := congrArg List.length hname
        rw [List.length_map, hlengths _ (List.getElem_mem hbound)] at hlength
        exact hlength.symm
      . rw [List.mk_mem_zipIdx_iff_le_and_getElem?_sub]
        simp [hbound]
    . contradiction
  . rintro ⟨name, hlength, ⟨known, hknown, hname⟩, rfl⟩
    rw [List.mk_mem_zipIdx_iff_le_and_getElem?_sub, List.getElem?_eq_some_iff] at hknown
    obtain ⟨hfirst, hbound, rfl⟩ := hknown
    have hindex : monthNames.findIdx? (·.toList == ((name ++ rest).take 3).map Char.toLower)
        = some (month - 1) := by
      rw [List.take_append_of_le_length (by omega), List.take_of_length_le (by omega), hname,
        List.findIdx?_eq_some_iff_getElem]
      refine ⟨hbound, beq_self_eq_true _, ?_⟩
      intro earlier hearlier
      rw [beq_iff_eq]
      intro hsame
      exact List.pairwise_iff_getElem.mp hdistinct _ _ _ hbound hearlier hsame
    rw [hindex]
    simp only [Nat.sub_add_cancel hfirst, ← hlength, List.drop_left]

theorem readSign?_eq_some_iff {ahead : Bool} :
    readSign? s = some (ahead, rest) ↔ s = (if ahead then '+' else '-') :: rest := by
  unfold readSign?
  split
  . cases ahead <;> simp
  . cases ahead <;> simp
  . next hplus hminus =>
    constructor
    . nofun
    . intro h
      cases ahead with
      | true => exact absurd h (hplus rest)
      | false => exact absurd h (hminus rest)

theorem clockOffset?_eq_some_iff {ahead : Bool} {hours minutes : Nat} {offset : Int}
    : clockOffset? ahead hours minutes = some offset
        ↔
      (hours ≤ 23 ∧ minutes ≤ 59)
        ∧ (if ahead then ((hours * 3600 + minutes * 60 : Nat) : Int) else -(hours * 3600 + minutes * 60 : Nat))
          = offset := by
  unfold clockOffset?
  dsimp only
  rw [Option.ite_none_right_eq_some, Option.some.injEq, Bool.and_eq_true, decide_eq_true_eq, decide_eq_true_eq]

/-! ### Clocks -/

/--
The texts that are read are those that are written for times that exist on clocks that exist.
-/
theorem readOffsetClock?_eq_some_iff {t : Timestamp}
    : readOffsetClock? s = some t
        ↔
      ∃ (clock : OffsetClock) (month : Nat), clock.Fits ∧ s = clock.written ∧ clock.IsValid month
        ∧ clock.Names month t := by
  unfold readOffsetClock?
  simp only [Option.bind_eq_bind, Option.bind_eq_some_iff, Prod.exists, readTwo?_eq_some_iff,
    readFour?_eq_some_iff, readClock?_eq_some_iff, afterPrefix?_eq_some_iff, readMonthName?_eq_some_iff,
    readSign?_eq_some_iff, clockOffset?_eq_some_iff, Option.ite_none_right_eq_some, Option.some.injEq,
    List.isEmpty_iff, checkFields?_eq_some_iff]
  constructor
  . rintro ⟨day, _, ⟨hday, rfl⟩, _, rfl, number, _, ⟨month, hlength, hmonth, rfl⟩, _, rfl, year, _, ⟨hyear, rfl⟩, _,
      rfl, hour, minute, second, _, ⟨⟨hhour, hminute, hsecond⟩, rfl⟩, _, rfl, ahead, _, rfl, hours, _,
      ⟨hhours, rfl⟩, minutes, _, ⟨hminutes, rfl⟩, _, ⟨⟨hhoursLe, hminutesLe⟩, rfl⟩, _, ⟨hexists, rfl⟩, rfl, rfl⟩
    let clock : OffsetClock := ⟨day, month, year, hour, minute, second, ahead, hours, minutes⟩
    have hshown : (clock.fields number).exists = true := hexists
    refine ⟨clock, number, ?_, ?_, ⟨hmonth, hexists, hhoursLe, hminutesLe⟩, ?_⟩
    . exact ⟨hday, hlength, hyear, hhour, hminute, hsecond, hhours, hminutes⟩
    . simp [clock, OffsetClock.written, OffsetClock.sign]
    . exact (OffsetClock.names_iff hshown).mpr rfl
  . rintro ⟨⟨day, month, year, hour, minute, second, ahead, hours, minutes⟩, number, hfits, rfl, hvalid, hnames⟩
    obtain ⟨hday, hlength, hyear, hhour, hminute, hsecond, hhours, hminutes⟩ := hfits
    obtain ⟨hmonth, hexists, hhoursLe, hminutesLe⟩ := hvalid
    rw [OffsetClock.names_iff hexists] at hnames
    refine ⟨day, _, ⟨hday, ?_⟩, _, rfl, number, _, ⟨month, hlength, hmonth, rfl⟩, _, rfl, year, _, ⟨hyear, rfl⟩, _,
      rfl, hour, minute, second, _, ⟨⟨hhour, hminute, hsecond⟩, rfl⟩, _, rfl, ahead, _, rfl, hours, _,
      ⟨hhours, rfl⟩, minutes, [], ⟨hminutes, rfl⟩, _, ⟨⟨hhoursLe, hminutesLe⟩, rfl⟩, _, ⟨hexists, rfl⟩, rfl, hnames⟩
    simp [OffsetClock.written, OffsetClock.sign]

theorem OffsetClock.Fits.eq {clock clock' : OffsetClock} (h : clock.Fits) (h' : clock'.Fits)
    (hsame : clock.written = clock'.written)
    : clock = clock' := by
  simp only [written, List.append_assoc, List.cons_append] at hsame
  obtain ⟨hday, hsame⟩ := showPadded_append_cons_inj (by decide) h.day_lt h'.day_lt hsame
  obtain ⟨hmonth, hsame⟩ := List.append_inj hsame (h.length_month.trans h'.length_month.symm)
  rw [List.cons_inj_right] at hsame
  obtain ⟨hyear, hsame⟩ := showPadded_append_cons_inj (by decide) h.year_lt h'.year_lt hsame
  obtain ⟨hhour, hsame⟩ := showPadded_append_cons_inj (by decide) h.hour_lt h'.hour_lt hsame
  obtain ⟨hminute, hsame⟩ := showPadded_append_cons_inj (by decide) h.minute_lt h'.minute_lt hsame
  obtain ⟨hsecond, hsame⟩ := showPadded_append_cons_inj (by decide) h.second_lt h'.second_lt hsame
  obtain ⟨hsign, hsame⟩ := List.cons.inj hsame
  obtain ⟨hhours, hsame⟩ := showPadded_append_inj (by decide) h.hours_lt h'.hours_lt hsame
  rw [← List.append_nil (showPadded 2 clock.minutes), ← List.append_nil (showPadded 2 clock'.minutes)] at hsame
  obtain ⟨hminutes, -⟩ := showPadded_append_inj (by decide) h.minutes_lt h'.minutes_lt hsame
  have hahead : clock.ahead = clock'.ahead := by
    unfold sign at hsign
    cases hclock : clock.ahead <;> cases hclock' : clock'.ahead <;> simp_all
  obtain ⟨day, month, year, hour, minute, second, ahead, hours, minutes⟩ := clock
  obtain ⟨day', month', year', hour', minute', second', ahead', hours', minutes'⟩ := clock'
  dsimp only at *
  subst hday hmonth hyear hhour hminute hsecond hahead hhours hminutes
  rfl

/-! ### Clocks in UTC -/

/--
The fields are those that a clock in UTC shows at the same time.
-/
structure OffsetClock.IsInUtc (clock : OffsetClock) (month : Nat) (utc : Timestamp.Fields) : Prop where
  exists_eq : utc.exists = true
  names : ∃ t, clock.Names month t ∧ utc.Names t

namespace OffsetClock

variable {clock : OffsetClock} {month : Nat} {utc : Timestamp.Fields}

theorem IsInUtc.names_of (h : clock.IsInUtc month utc) (hvalid : clock.IsValid month) {t : Timestamp}
    (ht : clock.Names month t)
    : utc.Names t := by
  obtain ⟨t', hclock, hutc⟩ := h.names
  rw [names_iff hvalid.exists_eq] at ht hclock
  rwa [← ht, hclock]

/--
The offset is one of whole minutes, so a leap second is one in UTC too.
-/
theorem nanos_of_names {t : Timestamp} (ht : clock.Names month t) :
    t.nanos = 0 ∨ t.nanos = nanosPerSecond ∧ t.seconds % 60 = 59 := by
  obtain ⟨shown, ⟨⟨number, -, hshown⟩, hnanos⟩, hseconds, hsame⟩ := ht
  have hoffset : clock.offset % 60 = 0 := by
    unfold offset
    dsimp only
    split <;> omega
  rw [hsame, hnanos]
  unfold nanosPerSecond fields at *
  dsimp only at *
  split
  . next hleap =>
    rw [hleap] at hshown
    refine .inr ⟨rfl, ?_⟩
    omega
  . exact .inl rfl

theorem existsUnique_isInUtc (hvalid : clock.IsValid month) : ∃! utc, clock.IsInUtc month utc := by
  have hnames := (names_iff hvalid.exists_eq).mpr rfl
  generalize (Timestamp.ofFields (clock.fields month)).behind clock.offset = t at hnames
  have hnanos : t.nanos < nanosPerSecond ∨ t.nanos < 2 * nanosPerSecond ∧ t.seconds % 60 = 59 := by
    rcases nanos_of_names hnames with hplain | ⟨hleap, hlast⟩
    . exact .inl (by rw [hplain]; decide)
    . exact .inr ⟨by rw [hleap]; decide, hlast⟩
  have hexists := Timestamp.exists_toFields hnanos
  refine ⟨t.toFields, ⟨hexists, t, hnames, ?_⟩, ?_⟩
  . exact (Timestamp.Fields.names_iff hexists).mpr (Timestamp.ofFields_toFields hnanos)
  . intro utc hutc
    have ht := hutc.names_of hvalid hnames
    rw [← (Timestamp.Fields.names_iff hutc.exists_eq).mp ht, Timestamp.toFields_ofFields hutc.exists_eq]

theorem IsInUtc.fits (h : clock.IsInUtc month utc) (hyear : 0 ≤ utc.date.year) (hlast : utc.date.year ≤ 9999) :
    utc.Fits := by
  obtain ⟨t, hclock, hutc⟩ := h.names
  have hnanos : utc.nanos = 0 := by
    have hbound : utc.nanos < 1000000000 := by
      have hexists := h.exists_eq
      simp only [Timestamp.Fields.exists, Bool.and_eq_true, decide_eq_true_eq] at hexists
      exact hexists.2
    have hsum := hutc.nanos_eq
    rcases nanos_of_names hclock with hplain | ⟨hleap, -⟩
    . omega
    . unfold nanosPerSecond at hleap
      split at hsum
      . omega
      . omega
  exact Timestamp.Fields.IsWritable.fits ⟨h.exists_eq, hyear, hlast, hnanos⟩

end OffsetClock

end WafWatch.Time

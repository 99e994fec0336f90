import Mathlib.Data.List.Basic
import WafWatch.Metrics.Basic

/-!
This module contains what can be read off a meter: the number of a series, the sum of a metric over its labels, and
the readings of the ingestion and of the hub. A measurement changes the readings that it is about and no others.
-/

namespace WafWatch

/--
The series is the part of a metric that has some label under a key.
-/
def Series.isLabelled (series : Series) (metric : Metric) (key : String) : Bool :=
  series.metric = metric && series.label.any (·.1 == key)

namespace Measurement

/--
The measurement is of the kind of its metric.
-/
def Fits : Measurement → Prop
  | .add series _ => series.metric.kind = .counter
  | .set series _ => series.metric.kind = .gauge
  | .sample series => series.metric.kind = .histogram

end Measurement

namespace Meter

variable {metric : Metric} {key : String} {measurement : Measurement}

/--
The number of a series, which is zero as long as the series has not been measured.
-/
def figure (meter : Meter) (series : Series) : Nat :=
  (meter.read? series).getD 0

/--
The sum of the numbers of a metric over its labels under a key.
-/
def total (metric : Metric) (key : String) : Meter → Nat
  | [] => 0
  | (series, n) :: rest => if series.isLabelled metric key then n + total metric key rest else total metric key rest

theorem figure_cons (first series : Series) (n : Nat) (rest : Meter) :
    figure ((first, n) :: rest) series = if first = series then n else rest.figure series := by
  unfold figure read?
  rw [List.lookup_cons]
  by_cases hfirst : first = series
  . simp [hfirst]
  . have hother : (series == first) = false := beq_false_of_ne (Ne.symm hfirst)
    rw [hother, if_neg hfirst]

theorem figure_record (meter : Meter) (measurement : Measurement) (series : Series)
    : (meter.record measurement).figure series
        = if measurement.series = series then measurement.applyTo (meter.figure series) else meter.figure series := by
  induction meter with
  | nil => exact figure_cons _ _ _ _
  | cons entry rest ih =>
    obtain ⟨first, n⟩ := entry
    unfold record
    split
    . next hfirst =>
      subst hfirst
      simp only [figure_cons]
      split <;> rfl
    . next hfirst =>
      simp only [figure_cons, ih]
      by_cases hseries : first = series
      . rw [if_pos hseries, if_pos hseries, if_neg (hseries ▸ Ne.symm hfirst)]
      . rw [if_neg hseries, if_neg hseries]

theorem total_record_of_not (h : measurement.series.isLabelled metric key = false) (meter : Meter) :
    (meter.record measurement).total metric key = meter.total metric key := by
  induction meter with
  | nil => simp [record, total, h]
  | cons entry rest ih =>
    unfold record
    split
    . next hfirst => simp [total, hfirst, h]
    . simp [total, ih]

theorem total_record_add {series : Series} (h : series.isLabelled metric key = true) (meter : Meter) (n : Nat) :
    (meter.record (.add series n)).total metric key = meter.total metric key + n := by
  induction meter with
  | nil => simp [record, total, Measurement.series, Measurement.applyTo, h]
  | cons entry rest ih =>
    unfold record
    split
    . next hfirst =>
      simp only [total, hfirst, Measurement.series, Measurement.applyTo, h, if_true]
      omega
    . simp only [total, ih]
      split <;> omega

theorem total_record (h : measurement.Fits) (hcounter : metric.kind = .counter) (key : String) (meter : Meter)
    : (meter.record measurement).total metric key
        = if measurement.series.isLabelled metric key then measurement.applyTo (meter.total metric key)
          else meter.total metric key := by
  split
  . next hlabelled =>
    have hmetric : measurement.series.metric = metric := by
      unfold Series.isLabelled at hlabelled
      rw [Bool.and_eq_true, decide_eq_true_eq] at hlabelled
      exact hlabelled.1
    subst hmetric
    cases measurement with
    | add series n => exact total_record_add hlabelled meter n
    | set series n => exact absurd (h.symm.trans hcounter) (by decide)
    | sample series => exact absurd (h.symm.trans hcounter) (by decide)
  . next hother => exact total_record_of_not (Bool.eq_false_iff.mpr hother) meter

end Meter

/--
What can be read off a meter about the ingestion and the hub.
-/
structure Readings where
  linesRead : Nat
  parsed : Nat
  /-- The events stored by ticks, of all types of attacks. -/
  stored : Nat
  duplicates : Nat
  sourceErrors : Nat
  /-- The number of ticks whose durations were taken. -/
  durations : Nat
  evicted : Nat
  size : Nat
  subscribers : Nat
  deriving DecidableEq, Repr

def Meter.readings (meter : Meter) : Readings where
  linesRead := meter.figure ⟨.linesRead, none⟩
  parsed := meter.figure ⟨.eventsParsed, none⟩
  stored := meter.total .eventsStored attackTypeLabel
  duplicates := meter.figure ⟨.duplicates, none⟩
  sourceErrors := meter.figure ⟨.sourceErrors, none⟩
  durations := meter.figure ⟨.tickDuration, none⟩
  evicted := meter.figure ⟨.eventsEvicted, none⟩
  size := meter.figure ⟨.storeSize, none⟩
  subscribers := meter.figure ⟨.subscribers, none⟩

namespace Readings

/--
The readings after a measurement.
-/
def record (readings : Readings) (measurement : Measurement) : Readings :=
  let reading (series : Series) (n : Nat) : Nat :=
    if measurement.series = series then measurement.applyTo n else n
  { linesRead := reading ⟨.linesRead, none⟩ readings.linesRead
    parsed := reading ⟨.eventsParsed, none⟩ readings.parsed
    stored :=
      if measurement.series.isLabelled .eventsStored attackTypeLabel then measurement.applyTo readings.stored
      else readings.stored
    duplicates := reading ⟨.duplicates, none⟩ readings.duplicates
    sourceErrors := reading ⟨.sourceErrors, none⟩ readings.sourceErrors
    durations := reading ⟨.tickDuration, none⟩ readings.durations
    evicted := reading ⟨.eventsEvicted, none⟩ readings.evicted
    size := reading ⟨.storeSize, none⟩ readings.size
    subscribers := reading ⟨.subscribers, none⟩ readings.subscribers }

def recordAll (readings : Readings) (measurements : List Measurement) : Readings :=
  measurements.foldl record readings

theorem recordAll_cons (readings : Readings) (measurement : Measurement) (measurements : List Measurement) :
    readings.recordAll (measurement :: measurements) = (readings.record measurement).recordAll measurements :=
  rfl

theorem recordAll_append (readings : Readings) (measurements more : List Measurement) :
    readings.recordAll (measurements ++ more) = (readings.recordAll measurements).recordAll more :=
  List.foldl_append

end Readings

theorem Meter.readings_recordAll (meter : Meter) {measurements : List Measurement}
    (h : ∀ measurement ∈ measurements, measurement.Fits)
    : (meter.recordAll measurements).readings = meter.readings.recordAll measurements := by
  induction measurements generalizing meter with
  | nil => rfl
  | cons measurement measurements ih =>
    rw [List.forall_mem_cons] at h
    have hfirst : (meter.record measurement).readings = meter.readings.record measurement := by
      have hstored : (meter.record measurement).total .eventsStored attackTypeLabel = _ :=
        total_record h.1 rfl _ meter
      unfold readings Readings.record
      simp only [figure_record, hstored]
    rw [Readings.recordAll_cons, ← hfirst]
    exact ih (meter.record measurement) h.2

end WafWatch

import Mathlib.Algebra.BigOperators.Group.List.Lemmas
import Mathlib.Data.Int.ConditionallyCompleteOrder
import Mathlib.Order.ConditionallyCompleteLattice.Basic
import Mathlib.Order.WithBot
import Xaytune.Metrics.Series
import Xaytune.Metrics.Store

/-!
# Serving metric series

A series is a name and unit and the worker and rank that reported it. The route serves every series
of an attempt, each in stream order and downsampled. What it serves depends on the answered calls
alone: not on their order, and not on how often each came.
-/

namespace Xaytune.Metrics

open Xaytune.Library

/-- What names a series of one attempt. -/
structure SeriesKey where
  name : String
  unit : Option String
  worker : Option String
  rank : Option Int
  deriving DecidableEq

structure MetricSeriesSummary extends SeriesKey where
  count : Nat

/-- One recorded point. -/
structure StoredMetricPoint (V : Type) where
  streamGeneration : Int
  sequence : Int
  optimizerStep : Option Int
  value : V
  worker : Option String
  rank : Option Int
  eventId : String
  emittedAt : Option String

variable {V : Type}

def MetricPoint.series (point : MetricPoint V) : SeriesKey :=
  ⟨point.name, point.unit, point.worker, point.rank⟩

def stored (position : TelemetryPosition) (point : MetricPoint V) : StoredMetricPoint V :=
  ⟨position.streamGeneration, position.sequence, point.optimizerStep, point.value, point.worker,
    point.rank, position.eventId, position.emittedAt⟩

/-- `stream_generation, sequence`. -/
def StoredMetricPoint.place (point : StoredMetricPoint V) : Int ×ₗ Int :=
  toLex (point.streamGeneration, point.sequence)

/-- `name, worker IS NOT NULL, worker, rank IS NOT NULL, rank`. -/
def SeriesKey.listed (key : SeriesKey) : String ×ₗ WithBot String ×ₗ WithBot Int :=
  toLex (key.name, toLex (key.worker, key.rank))

/-- The rows of an attempt. -/
def Store.ofAttempt (store : Store V) (attemptId : String) : List (Row V) :=
  store.metricPoints.rows.filter fun row => row.home.attemptId = attemptId

/-- The rows of a series. -/
def Store.ofSeries (store : Store V) (attemptId : String) (key : SeriesKey) : List (Row V) :=
  (store.ofAttempt attemptId).filter fun row => row.point.series = key

/-- `MetricPointStore.points`. -/
def Store.points (store : Store V) (attemptId : String) (key : SeriesKey) :
    List (StoredMetricPoint V) :=
  ((store.ofSeries attemptId key).map fun row => stored row.position row.point).insertionSort
    fun first second => first.place ≤ second.place

/-- `MetricPointStore.series`; `arrange` is the order the groups come in before they are sorted. -/
def Store.series (arrange : List SeriesKey → List SeriesKey) (store : Store V)
    (attemptId : String) : List MetricSeriesSummary :=
  let groups := ((store.ofAttempt attemptId).map fun row => row.point.series).dedup
  ((arrange groups).insertionSort fun first second => first.listed ≤ second.listed).map fun key =>
    ⟨key, ((store.ofAttempt attemptId).map fun row => row.point.series).count key⟩

structure MetricSeriesOut (V : Type) extends MetricSeriesSummary where
  downsampled : Bool
  points : List (StoredMetricPoint V)

structure AttemptMetrics (V : Type) where
  attemptId : String
  runId : String
  series : List (MetricSeriesOut V)

/-- `Query(ge=4, le=MAX_METRIC_POINTS)`. -/
structure MaxPoints where
  limit : Nat
  least : 4 ≤ limit
  most : limit ≤ 5000

/-- `wanted is None or name in wanted`. -/
def isWanted (name : Option (List String)) (series : String) : Bool :=
  name.all fun names => series ∈ names

section route

variable [LinearOrder V] (arrange : List SeriesKey → List SeriesKey)

def metricSeriesOut (summary : MetricSeriesSummary) (points : List (StoredMetricPoint V))
    (limit : Nat) : MetricSeriesOut V where
  toSeriesKey := summary.toSeriesKey
  count := points.length
  downsampled := (downsample StoredMetricPoint.value points limit).length < points.length
  points := downsample StoredMetricPoint.value points limit

/-- `get_attempt_metrics`; `none` is its `NotFoundError`. -/
def getAttemptMetrics (store : Store V) (attemptId : String) (name : Option (List String))
    (maxPoints : MaxPoints) : Option (AttemptMetrics V) := do
  let attempt ← store.attempts.find? attemptId
  let wanted := (store.series arrange attemptId).filter fun summary => isWanted name summary.name
  pure ⟨attemptId, attempt.runId, wanted.map fun summary =>
    metricSeriesOut summary (store.points attemptId summary.toSeriesKey) maxPoints.limit⟩

end route

/-! ## The points of a series -/

section points

variable {store : Store V} {attemptId : String} {key : SeriesKey}

instance placeTotal :
    Std.Total fun first second : StoredMetricPoint V => first.place ≤ second.place :=
  ⟨fun first second => le_total first.place second.place⟩

instance placeTrans :
    IsTrans (StoredMetricPoint V) fun first second => first.place ≤ second.place :=
  ⟨fun _ _ _ => le_trans⟩

theorem mem_ofSeries {row : Row V} :
    row ∈ store.ofSeries attemptId key ↔
      row ∈ store.metricPoints ∧ row.home.attemptId = attemptId ∧ row.point.series = key := by
  rw [Store.ofSeries, List.mem_filter, Store.ofAttempt, List.mem_filter, decide_eq_true_iff,
    decide_eq_true_iff, and_assoc]
  rfl

theorem points_perm (store : Store V) (attemptId : String) (key : SeriesKey) :
    (store.points attemptId key).Perm
      ((store.ofSeries attemptId key).map fun row => stored row.position row.point) :=
  List.perm_insertionSort _ _

theorem mem_points {point : StoredMetricPoint V} :
    point ∈ store.points attemptId key ↔
      ∃ row ∈ store.metricPoints, row.home.attemptId = attemptId ∧ row.point.series = key ∧
        stored row.position row.point = point := by
  rw [(points_perm store attemptId key).mem_iff, List.mem_map]
  constructor
  · rintro ⟨row, member, rfl⟩
    obtain ⟨member, here, isKey⟩ := mem_ofSeries.mp member
    exact ⟨row, member, here, isKey, rfl⟩
  · rintro ⟨row, member, here, isKey, rfl⟩
    exact ⟨row, mem_ofSeries.mpr ⟨member, here, isKey⟩, rfl⟩

/-- A series has one point at a place. -/
theorem places_nodup (store : Store V) (attemptId : String) (key : SeriesKey) :
    ((store.points attemptId key).map StoredMetricPoint.place).Nodup := by
  rw [((points_perm store attemptId key).map _).nodup_iff, List.map_map]
  have keys : ((store.ofSeries attemptId key).map Row.key).Nodup :=
    store.metricPoints.nodup.sublist ((List.filter_sublist.trans List.filter_sublist).map _)
  apply List.Nodup.of_map fun place : Int ×ₗ Int => ((attemptId, ofLex place), key.name)
  rw [List.map_map]
  convert keys using 1
  apply List.map_congr_left
  intro row member
  obtain ⟨-, here, isKey⟩ := mem_ofSeries.mp member
  rw [← here, ← isKey]
  rfl

/-- The points of a series come in the order of the stream. -/
theorem points_ordered (store : Store V) (attemptId : String) (key : SeriesKey) :
    (store.points attemptId key).Pairwise fun first second => first.place < second.place := by
  have sorted : (store.points attemptId key).Pairwise fun first second =>
      first.place ≤ second.place := List.pairwise_insertionSort _ _
  have apart := List.pairwise_map.mp (places_nodup store attemptId key)
  exact (sorted.and apart).imp fun both => lt_of_le_of_ne both.1 both.2

end points

/-! ## Replays and the order of calls -/

section replays

theorem stored_of_said {row : Row V} {attemptId : String} {position : TelemetryPosition}
    {point : MetricPoint V} (same : row.said = said position point)
    (place : row.place = placeOf attemptId position) :
    row.home.attemptId = attemptId ∧ row.point = point ∧
      stored row.position row.point = stored position point := by
  obtain ⟨home, ⟨generation, sequence, event, protocol, emitted⟩, each⟩ := row
  simp only [Row.said, said, Said.mk.injEq] at same
  simp only [Row.place, placeOf, Prod.mk.injEq] at place
  obtain ⟨rfl, rfl, rfl, rfl⟩ := same
  obtain ⟨rfl, rfl, rfl⟩ := place
  exact ⟨rfl, rfl, rfl⟩

variable [DecidableEq V] {finite : V → Bool} {history other : List (Move V)}

/-- The points of a series are those of the answered calls. -/
theorem mem_points_after {attemptId : String} {key : SeriesKey} {point : StoredMetricPoint V} :
    point ∈ (after finite history).points attemptId key ↔
      ∃ answered ∈ answers finite history, answered.1.attemptId = attemptId ∧
        ∃ each ∈ answered.1.points, each.series = key ∧
          stored answered.1.position each = point := by
  have holds := holds_after finite history
  rw [mem_points]
  constructor
  · rintro ⟨row, member, here, isKey, rfl⟩
    obtain ⟨delivery, count, answered, same, position, among⟩ := holds.origin row member
    refine ⟨(delivery, count), answered, same.symm.trans here, row.point, among, isKey, ?_⟩
    rw [position]
  · rintro ⟨⟨delivery, count⟩, answered, rfl, each, among, rfl, rfl⟩
    have perm := holds.held delivery count answered (List.ne_nil_of_mem among)
    have told : Metrics.said delivery.position each ∈ delivery.said := List.mem_map_of_mem among
    obtain ⟨row, atPlace, same⟩ := List.mem_map.mp (perm.mem_iff.mpr told)
    obtain ⟨member, place⟩ := List.mem_filter.mp atPlace
    obtain ⟨here, isPoint, isStored⟩ := stored_of_said same (of_decide_eq_true place)
    exact ⟨row, member, here, by rw [isPoint], isStored⟩

/--
Two histories that answered the same calls serve the same series: it does not matter in which order
the events came, which of them were delivered more than once, or what was refused in between.
-/
theorem MetricPointStore.points_of_answered (same : ∀ delivery,
      delivery ∈ (answers finite history).map Prod.fst ↔
        delivery ∈ (answers finite other).map Prod.fst) (attemptId : String) (key : SeriesKey) :
    (after finite history).points attemptId key = (after finite other).points attemptId key := by
  have asymm : Std.Antisymm fun first second : StoredMetricPoint V => first.place < second.place :=
    ⟨fun _ _ before behind => absurd before (lt_asymm behind)⟩
  have irrefl : Std.Irrefl fun first second : StoredMetricPoint V => first.place < second.place :=
    ⟨fun _ => lt_irrefl _⟩
  apply List.Pairwise.eq_of_mem_iff (points_ordered _ _ _) (points_ordered _ _ _)
  intro point
  have reads (history : List (Move V)) : point ∈ (after finite history).points attemptId key ↔
      ∃ delivery ∈ (answers finite history).map Prod.fst, delivery.attemptId = attemptId ∧
        ∃ each ∈ delivery.points, each.series = key ∧ stored delivery.position each = point := by
    rw [mem_points_after]
    constructor
    · rintro ⟨answered, member, rest⟩
      exact ⟨answered.1, List.mem_map_of_mem member, rest⟩
    · rintro ⟨delivery, member, rest⟩
      obtain ⟨answered, among, rfl⟩ := List.mem_map.mp member
      exact ⟨answered, among, rest⟩
  rw [reads, reads]
  simp only [same]

/-- A loss reported by an event of an attempt. -/
def lossAt (sequence : Int) (value : Nat) : Delivery Nat where
  attemptId := "att"
  position := ⟨0, sequence, toString sequence, "v1", none⟩
  points := [⟨"training.loss", value, none, some sequence, none, none, "TrainingMetricObserved"⟩]

def inOrder : List (Move Nat) :=
  [.attempt ⟨"att", "run", "exp"⟩, .deliver true (lossAt 0 7), .deliver true (lossAt 1 5)]

/-- The second event first, the first refused by the fence and then delivered twice. -/
def replayed : List (Move Nat) :=
  [.attempt ⟨"att", "run", "exp"⟩, .deliver true (lossAt 1 5), .deliver false (lossAt 0 7),
    .deliver true (lossAt 0 7), .deliver true (lossAt 0 7)]

theorem inOrder_answers :
    answers (fun _ => true) inOrder = [(lossAt 0 7, 1), (lossAt 1 5, 1)] := by
  rfl

theorem replayed_answers :
    answers (fun _ => true) replayed = [(lossAt 1 5, 1), (lossAt 0 7, 1), (lossAt 0 7, 0)] := by
  rfl

def lossSeries : SeriesKey := ⟨"training.loss", none, none, none⟩

theorem MetricPointStore.replayed_serves_same :
    (after (fun _ => true) inOrder).points "att" lossSeries =
      (after (fun _ => true) replayed).points "att" lossSeries := by
  apply MetricPointStore.points_of_answered
  intro delivery
  rw [inOrder_answers, replayed_answers]
  simp [or_comm]

end replays

/-! ## What the route serves -/

section serves

variable {arrange : List SeriesKey → List SeriesKey} {store : Store V} {attemptId : String}

theorem length_points (store : Store V) (attemptId : String) (key : SeriesKey) :
    (store.points attemptId key).length =
      ((store.ofAttempt attemptId).map fun row => row.point.series).count key := by
  rw [(points_perm store attemptId key).length_eq, List.length_map, List.count, List.countP_map,
    List.countP_eq_length_filter, Store.ofSeries]
  rfl

/-- The series of an attempt, before the names are asked for. -/
theorem series_perm (arranges : ∀ groups, (arrange groups).Perm groups) (store : Store V)
    (attemptId : String) :
    ((store.series arrange attemptId).map fun summary => summary.toSeriesKey).Perm
      ((store.ofAttempt attemptId).map fun row => row.point.series).dedup := by
  rw [Store.series, List.map_map, show (_ ∘ _) = (id : SeriesKey → SeriesKey) from rfl, List.map_id]
  exact (List.perm_insertionSort _ _).trans (arranges _)

/-- The names of the series that are served. -/
theorem wanted_perm (arranges : ∀ groups, (arrange groups).Perm groups) (store : Store V)
    (attemptId : String) (name : Option (List String)) :
    (((store.series arrange attemptId).filter fun summary => isWanted name summary.name).map
      fun summary => summary.toSeriesKey).Perm
      (((store.ofAttempt attemptId).map fun row => row.point.series).dedup.filter
        fun key => isWanted name key.name) := by
  have filtered := (series_perm arranges store attemptId).filter fun key => isWanted name key.name
  rwa [List.filter_map] at filtered

instance listedTotal : Std.Total fun first second : SeriesKey => first.listed ≤ second.listed :=
  ⟨fun first second => le_total first.listed second.listed⟩

instance listedTrans : IsTrans SeriesKey fun first second => first.listed ≤ second.listed :=
  ⟨fun _ _ _ => le_trans⟩

theorem series_ordered (arrange : List SeriesKey → List SeriesKey) (store : Store V)
    (attemptId : String) :
    (store.series arrange attemptId).Pairwise fun first second =>
      first.toSeriesKey.listed ≤ second.toSeriesKey.listed :=
  List.pairwise_map.mpr (List.pairwise_insertionSort _ _)

variable [LinearOrder V] {name : Option (List String)} {maxPoints : MaxPoints}

/-- A series as it is served: its points are those of the store that keep its shape. -/
structure ServesSeries (store : Store V) (attemptId : String) (limit : Nat)
    (served : MetricSeriesOut V) : Prop where
  reported : store.points attemptId served.toSeriesKey ≠ []
  ordered : (store.points attemptId served.toSeriesKey).Pairwise fun first second =>
    first.place < second.place
  count : served.count = (store.points attemptId served.toSeriesKey).length
  downsampled : served.downsampled = true ↔ limit < served.count
  points : ∃ kept, KeepsShape StoredMetricPoint.value (store.points attemptId served.toSeriesKey)
    limit kept ∧ served.points = kept.map (store.points attemptId served.toSeriesKey).get

/-- What is served of an attempt, against the rows of the store. -/
structure Serves (store : Store V) (attemptId : String) (name : Option (List String))
    (limit : Nat) (metrics : AttemptMetrics V) : Prop where
  home : ∃ home, store.attempts.find? attemptId = some home ∧ metrics.runId = home.runId
  each : ∀ served ∈ metrics.series, ServesSeries store attemptId limit served
  /-- One entry for a series, in the order of names, workers and ranks. -/
  distinct : (metrics.series.map fun served => served.toSeriesKey).Nodup
  ordered : metrics.series.Pairwise fun first second =>
    first.toSeriesKey.listed ≤ second.toSeriesKey.listed
  /-- A series is served exactly if a row of the attempt belongs to it and its name is wanted. -/
  complete : ∀ key, (∃ served ∈ metrics.series, served.toSeriesKey = key) ↔
    (∃ row ∈ store.ofAttempt attemptId, row.point.series = key) ∧
      isWanted name key.name = true
  /-- Every row with a wanted name is counted once. -/
  counted : (metrics.series.map fun served => served.count).sum =
    (store.ofAttempt attemptId).countP fun row => isWanted name row.point.name

theorem metricSeriesOut_serves {summary : MetricSeriesSummary} {limit : Nat} (wide : 4 ≤ limit)
    (reported : store.points attemptId summary.toSeriesKey ≠ []) :
    ServesSeries store attemptId limit
      (metricSeriesOut summary (store.points attemptId summary.toSeriesKey) limit) := by
  have shape := @keptIndices_keepsShape _ _ _ StoredMetricPoint.value limit
    (store.points attemptId summary.toSeriesKey) wide
  refine ⟨reported, points_ordered _ _ _, rfl, ?_, _, shape, rfl⟩
  simp only [metricSeriesOut, downsample, List.length_map, decide_eq_true_iff]
  constructor
  · intro fewer
    by_contra short
    rw [shape.whole (Nat.not_lt.mp short), List.length_finRange] at fewer
    exact Nat.lt_irrefl _ fewer
  · exact fun long => Nat.lt_of_le_of_lt shape.few long

/-- The route serves every wanted series of an attempt, each once, whole or in its shape. -/
theorem getAttemptMetrics_serves (arranges : ∀ groups, (arrange groups).Perm groups)
    {metrics : AttemptMetrics V}
    (served : getAttemptMetrics arrange store attemptId name maxPoints = some metrics) :
    Serves store attemptId name maxPoints.limit metrics := by
  obtain ⟨home, known, rfl⟩ := Option.bind_eq_some_iff.mp served |>.imp
    fun _ => And.imp_right fun made => (Option.some.inj made).symm
  have perm := wanted_perm arranges store attemptId name
  have wanted {key : SeriesKey} := perm.mem_iff (a := key)
  constructor
  · exact ⟨home, known, rfl⟩
  · intro served member
    obtain ⟨summary, among, rfl⟩ := List.mem_map.mp member
    apply metricSeriesOut_serves maxPoints.least
    have key := wanted.mp (List.mem_map_of_mem among)
    rw [← List.length_pos_iff, length_points, List.count_pos_iff]
    exact List.mem_dedup.mp (List.mem_filter.mp key).1
  · rw [List.map_map]
    exact perm.nodup_iff.mpr ((List.nodup_dedup _).filter _)
  · exact List.pairwise_map.mpr ((series_ordered arrange store attemptId).filter _)
  · intro key
    have row : (∃ row ∈ store.ofAttempt attemptId, row.point.series = key) ↔
        key ∈ ((store.ofAttempt attemptId).map fun row => row.point.series).dedup := by
      rw [List.mem_dedup, List.mem_map]
    rw [row]
    refine Iff.trans ?_ (wanted.trans List.mem_filter)
    rw [List.mem_map]
    constructor
    · rintro ⟨served, member, rfl⟩
      obtain ⟨summary, among, rfl⟩ := List.mem_map.mp member
      exact ⟨summary, among, rfl⟩
    · rintro ⟨summary, among, rfl⟩
      exact ⟨_, List.mem_map_of_mem among, rfl⟩
  · have counts := (perm.map fun key =>
      ((store.ofAttempt attemptId).map fun row => row.point.series).count key).sum_eq
    rw [List.sum_map_count_dedup_filter_eq_countP, List.countP_map, List.map_map] at counts
    rw [List.map_map]
    refine Eq.trans ?_ counts
    congr 1
    exact List.map_congr_left fun summary _ => length_points store attemptId summary.toSeriesKey

def rateAt (sequence : Int) : Delivery Nat where
  attemptId := "att"
  position := ⟨0, sequence, toString sequence, "v1", none⟩
  points := [⟨"training.rate", 1, none, some sequence, none, none, "TrainingMetricObserved"⟩]

/-- A loss of seven steps that leaps once, and another series. -/
def leaping : List (Move Nat) :=
  .attempt ⟨"att", "run", "exp"⟩ ::
    [(0, 7), (1, 6), (2, 9), (3, 5), (4, 2), (5, 3), (6, 4)].map
      (fun each => .deliver true (lossAt each.1 each.2)) ++ [.deliver true (rateAt 7)]

def lossPoint (sequence : Int) (value : Nat) : StoredMetricPoint Nat :=
  ⟨0, sequence, some sequence, value, none, none, toString sequence, none⟩

/-- Its ends, its greatest and its least point. -/
def servedLoss : AttemptMetrics Nat where
  attemptId := "att"
  runId := "run"
  series := [⟨⟨lossSeries, 7⟩, true,
    [lossPoint 0 7, lossPoint 2 9, lossPoint 4 2, lossPoint 6 4]⟩]

theorem leaping_serves :
    Serves (after (fun _ => true) leaping) "att" (some ["training.loss"]) 4 servedLoss := by
  have served : getAttemptMetrics id (after (fun _ => true) leaping) "att"
      (some ["training.loss"]) ⟨4, by decide, by decide⟩ = some servedLoss := rfl
  exact getAttemptMetrics_serves (fun groups => .refl groups) served

end serves

end Xaytune.Metrics

import Mathlib.Algebra.Ring.Nat
import Mathlib.Data.List.Sort
import Mathlib.Data.String.Basic
import Xaytune.Library.Histories
import Xaytune.Library.Table
import Xaytune.Library.Transaction

/-!
# The metric-point store

One row for each scalar of a telemetry event, under the event's place in its attempt's stream.
Telemetry is delivered at least once, so a call finds at its place either nothing or what an earlier
call recorded there. A row is compared by all that it says, its provenance included.
-/

namespace Xaytune.Metrics

open Xaytune.Library

/-- One scalar of one telemetry event. -/
structure MetricPoint (V : Type) where
  name : String
  value : V
  unit : Option String
  optimizerStep : Option Int
  worker : Option String
  rank : Option Int
  observation : String
  deriving DecidableEq

/-- Where a telemetry event sits, and who wrote it; its time as `isoformat` has it. -/
structure TelemetryPosition where
  streamGeneration : Int
  sequence : Int
  eventId : String
  protocolVersion : String
  emittedAt : Option String
  deriving DecidableEq

/-- An attempt with the run and the experiment it belongs to. -/
structure Home where
  attemptId : String
  runId : String
  experimentId : String

/-- A row of `metric_points`. -/
structure Row (V : Type) where
  home : Home
  position : TelemetryPosition
  point : MetricPoint V

variable {V : Type}

/-- A place in the stream of an attempt. -/
def placeOf (attemptId : String) (position : TelemetryPosition) : String × Int × Int :=
  (attemptId, position.streamGeneration, position.sequence)

def Row.place (row : Row V) : String × Int × Int := placeOf row.home.attemptId row.position

/-- The primary key. -/
def Row.key (row : Row V) : (String × Int × Int) × String := (row.place, row.point.name)

/-- Everything a recorded point says. -/
structure Said (V : Type) where
  point : MetricPoint V
  eventId : String
  protocolVersion : String
  emittedAt : Option String
  deriving DecidableEq

def said (position : TelemetryPosition) (point : MetricPoint V) : Said V :=
  ⟨point, position.eventId, position.protocolVersion, position.emittedAt⟩

def Row.said (row : Row V) : Said V := Metrics.said row.position row.point

/-- `ORDER BY name`, and the order of the offered tuples: their names differ first. -/
def byName (points : List (Said V)) : List (Said V) :=
  points.insertionSort fun first second => first.point.name ≤ second.point.name

/-- `_COMPARED`, with the comparison of each column. -/
def compared [DecidableEq V] : List (String × (Said V → Said V → Bool)) :=
  [("name", fun recorded offered => recorded.point.name = offered.point.name),
    ("value", fun recorded offered => recorded.point.value = offered.point.value),
    ("unit", fun recorded offered => recorded.point.unit = offered.point.unit),
    ("optimizer_step",
      fun recorded offered => recorded.point.optimizerStep = offered.point.optimizerStep),
    ("worker", fun recorded offered => recorded.point.worker = offered.point.worker),
    ("rank", fun recorded offered => recorded.point.rank = offered.point.rank),
    ("observation", fun recorded offered => recorded.point.observation = offered.point.observation),
    ("event_id", fun recorded offered => recorded.eventId = offered.eventId),
    ("protocol_version",
      fun recorded offered => recorded.protocolVersion = offered.protocolVersion),
    ("emitted_at", fun recorded offered => recorded.emittedAt = offered.emittedAt)]

/-- The columns a conflict names. -/
def differing [DecidableEq V] (recorded offered : List (Said V)) : List String :=
  (compared.filter fun column =>
    recorded.length ≠ offered.length ||
      (recorded.zip offered).any fun pair => !column.2 pair.1 pair.2).map Prod.fst

/-- What the store knows of attempts, and its rows. -/
structure Store (V : Type) where
  attempts : Table Home.attemptId
  metricPoints : Table (Row.key (V := V))

def Store.empty : Store V := ⟨.empty _, .empty _⟩

/-- The rows at a place. -/
def Store.at (store : Store V) (place : String × Int × Int) : List (Row V) :=
  store.metricPoints.rows.filter fun row => row.place = place

inductive Refusal where
  | leaseLost
  | aggregateNotFound (kind id : String)
  | idempotencyConflict (key : String) (differing : List String) (kind : String)
  | integrity (constraint : String)
  deriving DecidableEq

section Writes

variable [DecidableEq V] (finite : V → Bool)

/-- The `CHECK`s of a row. -/
def Row.checks (row : Row V) : Bool :=
  0 ≤ row.position.streamGeneration && 0 ≤ row.position.sequence &&
    1 ≤ row.point.name.length && row.point.name.length ≤ 200 &&
    row.point.optimizerStep.all (0 ≤ ·) && row.point.rank.all (0 ≤ ·) && finite row.point.value

def insertRow (row : Row V) : Transaction (Store V) Refusal Unit := fun store =>
  if row.checks finite then
    match store.metricPoints.insert? row with
    | none => .error (.integrity "PRIMARY KEY")
    | some table => .ok ((), { store with metricPoints := table })
  else .error (.integrity "CHECK")

def conflict (attemptId : String) (position : TelemetryPosition)
    (recorded offered : List (Said V)) : Refusal :=
  .idempotencyConflict
    (attemptId ++ "@" ++ toString position.streamGeneration ++ ":" ++ toString position.sequence)
    (if (differing recorded offered).isEmpty then ["points"] else differing recorded offered)
    "metric observation"

/-- `MetricPointStore._record`. -/
def record (home : Home) (position : TelemetryPosition) (points : List (MetricPoint V)) :
    Transaction (Store V) Refusal Nat := do
  let existing ← Transaction.read fun store => store.at (placeOf home.attemptId position)
  let recorded := byName (existing.map Row.said)
  let offered := byName (points.map (said position))
  if existing.isEmpty then do
    Transaction.forEach points fun point => insertRow finite ⟨home, position, point⟩
    pure points.length
  else do
    Transaction.require (recorded = offered) (conflict home.attemptId position recorded offered)
    pure 0

/-- One telemetry event's points, as a call passes them. -/
structure Delivery (V : Type) where
  attemptId : String
  position : TelemetryPosition
  points : List (MetricPoint V)

def Delivery.place (delivery : Delivery V) : String × Int × Int :=
  placeOf delivery.attemptId delivery.position

/-- What the event says, point by point. -/
def Delivery.said (delivery : Delivery V) : List (Said V) :=
  delivery.points.map (Metrics.said delivery.position)

/-- `record_metric_points`; `owns` is the fence of the write. -/
def recordMetricPoints (owns : Bool) (delivery : Delivery V) : Transaction (Store V) Refusal Nat :=
  if delivery.points.isEmpty then pure 0
  else do
    Transaction.require owns .leaseLost
    let found ← Transaction.read fun store => store.attempts.find? delivery.attemptId
    let home ← Transaction.expect found (.aggregateNotFound "RunAttempt" delivery.attemptId)
    record finite home delivery.position delivery.points

/-- A new attempt, or a call with an event's points. -/
inductive Move (V : Type) where
  | attempt (home : Home)
  | deliver (owns : Bool) (delivery : Delivery V)

def step : Move V → Store V → Store V
  | .attempt home, store =>
      match store.attempts.insert? home with
      | none => store
      | some table => { store with attempts := table }
  | .deliver owns delivery, store => (recordMetricPoints finite owns delivery).settle store

/-- The store after a history of moves. -/
def after (history : List (Move V)) : Store V := follow (step finite) history .empty

/-- What a move returns, if it is a call that does not raise. -/
def answer : Move V → Store V → List (Delivery V × Nat)
  | .attempt _, _ => []
  | .deliver owns delivery, store =>
      match recordMetricPoints finite owns delivery store with
      | .ok (count, _) => [(delivery, count)]
      | .error _ => []

/-- The calls of a history that returned, each with its count. -/
def answers (history : List (Move V)) : List (Delivery V × Nat) :=
  outputs (step finite) (answer finite) history .empty

end Writes

/-! ## The columns that differ -/

section differing

variable [DecidableEq V] {recorded offered : List (Said V)}

/-- Two points that agree in every column say the same. -/
theorem exists_column {first second : Said V} (differ : first ≠ second) :
    ∃ column ∈ compared (V := V), column.2 first second = false := by
  by_contra none
  push Not at none
  obtain ⟨⟨_, _, _, _, _, _, _⟩, _, _, _⟩ := first
  obtain ⟨⟨_, _, _, _, _, _, _⟩, _, _, _⟩ := second
  simp [compared] at none
  simp_all

/-- A conflict always names a column. -/
theorem differing_ne_nil (differ : recorded ≠ offered) : differing recorded offered ≠ [] := by
  have named {column : String × (Said V → Said V → Bool)} (member : column ∈ compared)
      (shows : recorded.length ≠ offered.length ∨
        ∃ pair ∈ recorded.zip offered, column.2 pair.1 pair.2 = false) :
      differing recorded offered ≠ [] := by
    apply List.ne_nil_of_mem
    apply List.mem_map_of_mem (a := column)
    rw [List.mem_filter]
    simpa [member] using shows
  by_cases long : recorded.length = offered.length
  · obtain ⟨index, below, differs⟩ : ∃ index, ∃ below : index < recorded.length,
        recorded[index] ≠ offered[index] := by
      by_contra none
      push Not at none
      exact differ (List.ext_getElem long fun index below _ => none index below)
    obtain ⟨column, member, shows⟩ := exists_column differs
    refine named member (.inr ⟨(recorded[index], offered[index]), ?_, shows⟩)
    rw [List.mem_iff_getElem]
    exact ⟨index, by simp [← long, below], by simp⟩
  · exact @named ("name", _) List.mem_cons_self (.inl long)

end differing

/-! ## What is said at a place -/

section byName

variable {first second : List (Said V)}

instance nameTotal : Std.Total fun first second : Said V => first.point.name ≤ second.point.name :=
  ⟨fun first second => le_total first.point.name second.point.name⟩

instance nameTrans : IsTrans (Said V) fun first second => first.point.name ≤ second.point.name :=
  ⟨fun _ _ _ => le_trans⟩

theorem byName_perm (points : List (Said V)) : (byName points).Perm points :=
  List.perm_insertionSort _ points

/-- Two lists of points, one with distinct names, are sorted alike if they hold the same. -/
theorem byName_eq_iff (names : (first.map fun each => each.point.name).Nodup) :
    byName first = byName second ↔ first.Perm second := by
  constructor
  · intro same
    exact (byName_perm first).symm.trans (same ▸ byName_perm second)
  · intro perm
    refine ((byName_perm first).trans (perm.trans (byName_perm second).symm)).eq_of_pairwise ?_
      (List.pairwise_insertionSort _ first) (List.pairwise_insertionSort _ second)
    intro each other member among before behind
    have stored := (byName_perm first).mem_iff.mp member
    have also := perm.mem_iff.mpr ((byName_perm second).mem_iff.mp among)
    exact List.inj_on_of_nodup_map names stored also (le_antisymm before behind)

theorem names_nodup (store : Store V) (place : String × Int × Int) :
    (((store.at place).map Row.said).map fun each => each.point.name).Nodup := by
  have keys : ((store.at place).map Row.key).Nodup :=
    store.metricPoints.nodup.sublist (List.filter_sublist.map _)
  rw [List.map_map]
  apply List.Nodup.of_map (fun name => (place, name))
  rw [List.map_map]
  convert keys using 1
  apply List.map_congr_left
  intro row member
  have placed : row.place = place := by simpa using (List.mem_filter.mp member).2
  rw [← placed]
  rfl

end byName

/-! ## What a call does -/

section calls

variable {finite : V → Bool} {store : Store V}

/-- The rows an event leaves. -/
def Delivery.rows (delivery : Delivery V) (home : Home) : List (Row V) :=
  delivery.points.map fun point => ⟨home, delivery.position, point⟩

theorem Delivery.rows_said (delivery : Delivery V) (home : Home) :
    (delivery.rows home).map Row.said = delivery.said := by
  rw [rows, List.map_map]
  rfl

theorem Delivery.place_of_mem_rows {delivery : Delivery V} {home : Home} {row : Row V}
    (here : home.attemptId = delivery.attemptId) (member : row ∈ delivery.rows home) :
    row.place = delivery.place := by
  obtain ⟨point, -, rfl⟩ := List.mem_map.mp member
  rw [Row.place, Delivery.place, here]

/-- The rows of an event are found at its place and nowhere else. -/
theorem Store.at_recorded {store' : Store V} {delivery : Delivery V} {home : Home}
    (here : home.attemptId = delivery.attemptId)
    (rows : store'.metricPoints.rows = store.metricPoints.rows ++ delivery.rows home)
    (place : String × Int × Int) :
    store'.at place =
      store.at place ++ if delivery.place = place then delivery.rows home else [] := by
  rw [Store.at, rows, List.filter_append, Store.at]
  congr 1
  split_ifs with same
  · rw [List.filter_eq_self]
    intro row member
    rw [Delivery.place_of_mem_rows here member, same]
    exact decide_eq_true rfl
  · rw [List.filter_eq_nil_iff]
    intro row member
    rw [Delivery.place_of_mem_rows here member]
    simpa using same

theorem insertRows_ensures (home : Home) (position : TelemetryPosition)
    (points : List (MetricPoint V)) :
    (Transaction.forEach points fun point => insertRow finite ⟨home, position, point⟩).Ensures store
      fun _ store' => store'.attempts = store.attempts ∧ store'.metricPoints.rows =
        store.metricPoints.rows ++ points.map fun point => ⟨home, position, point⟩ := by
  induction points generalizing store with
  | nil => exact Transaction.ensures_pure.mpr ⟨rfl, by simp⟩
  | cons point rest ih =>
      refine Transaction.ensures_bind.mpr ?_
      intro _ store' inserts
      simp only [insertRow] at inserts
      split at inserts
      · split at inserts
        · cases inserts
        · next table inserted =>
            cases inserts
            refine ih.mono ?_
            rintro _ store' ⟨attempts, rows⟩
            refine ⟨attempts, ?_⟩
            rw [rows, Table.insert?_rows inserted, List.append_assoc]
            rfl
      · cases inserts

/-- What a call that returns has found, and what it leaves. -/
inductive Answered (delivery : Delivery V) (store : Store V) : Nat → Store V → Prop
  | nothing (none : delivery.points = []) : Answered delivery store 0 store
  | recorded {home : Home} {store' : Store V}
      (known : store.attempts.find? delivery.attemptId = some home)
      (free : store.at delivery.place = []) (attempts : store'.attempts = store.attempts)
      (rows : store'.metricPoints.rows = store.metricPoints.rows ++ delivery.rows home) :
      Answered delivery store delivery.points.length store'
  | replayed (same : ((store.at delivery.place).map Row.said).Perm delivery.said) :
      Answered delivery store 0 store

variable [DecidableEq V]

theorem recordMetricPoints_ensures (owns : Bool) (delivery : Delivery V) :
    (recordMetricPoints finite owns delivery).Ensures store (Answered delivery store) := by
  rw [recordMetricPoints]
  refine Transaction.ensures_ite.mpr ⟨?_, fun _ => ?_⟩
  · intro none
    exact Transaction.ensures_pure.mpr (.nothing (List.isEmpty_iff.mp none))
  refine Transaction.ensures_bind.mpr (Transaction.ensures_require.mpr fun _ => ?_)
  refine Transaction.ensures_bind.mpr (Transaction.ensures_read.mpr ?_)
  refine Transaction.ensures_bind.mpr (Transaction.ensures_expect.mpr ?_)
  intro home known
  have here : home.attemptId = delivery.attemptId := Table.key_of_find? known
  refine Transaction.ensures_bind.mpr (Transaction.ensures_read.mpr ?_)
  rw [here]
  refine Transaction.ensures_ite.mpr ⟨?_, fun _ => ?_⟩
  · intro free
    refine Transaction.ensures_bind.mpr ((insertRows_ensures _ _ _).mono ?_)
    rintro _ store' ⟨attempts, rows⟩
    exact Transaction.ensures_pure.mpr (.recorded known (List.isEmpty_iff.mp free) attempts rows)
  · refine Transaction.ensures_bind.mpr (Transaction.ensures_require.mpr fun same => ?_)
    have perm := (byName_eq_iff (names_nodup store delivery.place)).mp (of_decide_eq_true same)
    exact Transaction.ensures_pure.mpr (.replayed perm)

/-- A call with an event's points where the same or other ones are recorded. -/
theorem recordMetricPoints_taken {delivery : Delivery V} {home : Home}
    (points : delivery.points ≠ []) (known : store.attempts.find? delivery.attemptId = some home)
    (taken : store.at delivery.place ≠ []) :
    recordMetricPoints finite true delivery store =
      if byName ((store.at delivery.place).map Row.said) = byName delivery.said then .ok (0, store)
      else .error (conflict delivery.attemptId delivery.position
        (byName ((store.at delivery.place).map Row.said)) (byName delivery.said)) := by
  have here : home.attemptId = delivery.attemptId := Table.key_of_find? known
  rw [Delivery.place] at taken
  rw [recordMetricPoints, if_neg (by simpa using points)]
  simp only [Transaction.bind_apply, Transaction.require_apply, if_true, Transaction.read_apply,
    known, Transaction.expect_some, record, here]
  rw [if_neg (by simpa using taken)]
  simp only [Transaction.bind_apply, Transaction.require_apply, decide_eq_true_iff]
  rw [Delivery.place, Delivery.said]
  split_ifs
  · rfl
  · rfl

end calls

/-! ## What a history leaves -/

section histories

/-- A store against the calls that were answered. -/
structure Holds (answers : List (Delivery V × Nat)) (store : Store V) : Prop where
  held : ∀ delivery count, (delivery, count) ∈ answers → delivery.points ≠ [] →
    ((store.at delivery.place).map Row.said).Perm delivery.said
  origin : ∀ row ∈ store.metricPoints, ∃ delivery count, (delivery, count) ∈ answers ∧
    row.home.attemptId = delivery.attemptId ∧ row.position = delivery.position ∧
    row.point ∈ delivery.points
  homes : ∀ row ∈ store.metricPoints, row.home ∈ store.attempts
  counts : (answers.map Prod.snd).sum = store.metricPoints.rows.length

/-- An answered call finds its attempt and its own rows from then on. -/
theorem Holds.found {answers : List (Delivery V × Nat)} {store : Store V} {delivery : Delivery V}
    {count : Nat} (holds : Holds answers store) (answered : (delivery, count) ∈ answers)
    (points : delivery.points ≠ []) :
    store.at delivery.place ≠ [] ∧ ∃ home, store.attempts.find? delivery.attemptId = some home := by
  have stored := holds.held delivery count answered points
  have taken : store.at delivery.place ≠ [] := by
    intro free
    rw [free] at stored
    exact absurd (List.map_eq_nil_iff.mp stored.nil_eq.symm) points
  obtain ⟨row, member⟩ := List.exists_mem_of_ne_nil _ taken
  obtain ⟨recorded, place⟩ := List.mem_filter.mp member
  have known := Table.find?_of_mem (holds.homes row recorded)
  have here : row.home.attemptId = delivery.attemptId :=
    congrArg Prod.fst (of_decide_eq_true place)
  exact ⟨taken, row.home, here ▸ known⟩

/-- A call that returns leaves its own event at its place and every other place as it was. -/
theorem Holds.answered {answers : List (Delivery V × Nat)} {store store' : Store V}
    {delivery : Delivery V} {count : Nat} (holds : Holds answers store)
    (answered : Answered delivery store count store') :
    Holds (answers ++ [(delivery, count)]) store' := by
  have originLater {row : Row V} (member : row ∈ store.metricPoints) :
      ∃ each number, (each, number) ∈ answers ++ [(delivery, count)] ∧
        row.home.attemptId = each.attemptId ∧ row.position = each.position ∧
        row.point ∈ each.points := by
    obtain ⟨each, number, among, rest⟩ := holds.origin row member
    exact ⟨each, number, List.mem_append_left _ among, rest⟩
  cases answered with
  | nothing none =>
      constructor
      · intro each number among points
        rcases List.mem_append.mp among with before | now
        · exact holds.held each number before points
        · cases List.mem_singleton.mp now
          exact absurd none points
      · exact fun row member => originLater member
      · exact holds.homes
      · rw [List.map_append, List.sum_append, holds.counts]
        rfl
  | replayed same =>
      constructor
      · intro each number among points
        rcases List.mem_append.mp among with before | now
        · exact holds.held each number before points
        · cases List.mem_singleton.mp now
          exact same
      · exact fun row member => originLater member
      · exact holds.homes
      · rw [List.map_append, List.sum_append, holds.counts]
        rfl
  | @recorded home _ known free attempts rows =>
      have here : home.attemptId = delivery.attemptId := Table.key_of_find? known
      constructor
      · intro each number among points
        rw [Store.at_recorded here rows]
        rcases List.mem_append.mp among with before | now
        · have stored := holds.held each number before points
          split_ifs with same
          · -- the place of an answered call is not free
            rw [← same, free] at stored
            exact absurd (List.map_eq_nil_iff.mp stored.nil_eq.symm) points
          · rwa [List.append_nil]
        · cases List.mem_singleton.mp now
          rw [if_pos rfl, free, List.nil_append, Delivery.rows_said]
      · intro row member
        rw [Table.mem_iff, rows, List.mem_append] at member
        rcases member with before | now
        · exact originLater before
        · obtain ⟨point, among, rfl⟩ := List.mem_map.mp now
          exact ⟨delivery, _, List.mem_append_right _ (List.mem_singleton_self _), here, rfl, among⟩
      · intro row member
        rw [Table.mem_iff, rows, List.mem_append] at member
        rw [attempts]
        rcases member with before | now
        · exact holds.homes row before
        · obtain ⟨point, -, rfl⟩ := List.mem_map.mp now
          exact Table.mem_of_find? known
      · rw [List.map_append, List.sum_append, holds.counts, rows, List.length_append]
        simp [Delivery.rows]

variable [DecidableEq V] {finite : V → Bool}

theorem Holds.attempt {answers : List (Delivery V × Nat)} {store : Store V}
    (holds : Holds answers store) (home : Home) :
    Holds answers (step finite (.attempt home) store) := by
  rw [step]
  split
  · exact holds
  · next table inserted =>
      refine { holds with homes := ?_ }
      intro row member
      exact (Table.mem_insert? inserted).mpr (.inl (holds.homes row member))

theorem holds_after (finite : V → Bool) (history : List (Move V)) :
    Holds (answers finite history) (after finite history) := by
  apply follow_outputs
  · constructor
    · intro _ _ member
      cases member
    · exact fun row member => absurd member (Table.not_mem_empty row)
    · exact fun row member => absurd member (Table.not_mem_empty row)
    · rfl
  · intro before store move holds
    cases move with
    | attempt home =>
        rw [answer, List.append_nil]
        exact holds.attempt home
    | deliver owns delivery =>
        rw [answer, step, Transaction.settle]
        cases called : recordMetricPoints finite owns delivery store with
        | error refusal => simpa using holds
        | ok result =>
            exact holds.answered (recordMetricPoints_ensures owns delivery _ _ called)

/-- What at-least-once delivery comes to. -/
structure OnceEach (finite : V → Bool) (answers : List (Delivery V × Nat)) (store : Store V) :
    Prop extends Holds answers store where
  /-- A replay of an answered call returns 0 and changes nothing. -/
  replay : ∀ delivery count, (delivery, count) ∈ answers →
    recordMetricPoints finite true delivery store = .ok (0, store)
  /-- Anything else at its place is refused, with the columns in which it differs. -/
  conflict : ∀ delivery count, (delivery, count) ∈ answers → delivery.points ≠ [] →
    ∀ other : Delivery V, other.points ≠ [] → other.place = delivery.place →
      ¬ other.said.Perm delivery.said →
      differing (byName delivery.said) (byName other.said) ≠ [] ∧
      recordMetricPoints finite true other store = .error (.idempotencyConflict
        (other.attemptId ++ "@" ++ toString other.position.streamGeneration ++ ":" ++
          toString other.position.sequence)
        (differing (byName delivery.said) (byName other.said)) "metric observation")

/--
However the calls come (replayed, in any order, refused by the fence or by the database), every
event whose call returned is recorded once, nothing else is, and the counts returned are the rows.
-/
theorem MetricPointStore.holds_each_event_once (finite : V → Bool) (history : List (Move V)) :
    OnceEach finite (answers finite history) (after finite history) := by
  have holds := holds_after finite history
  refine { holds with replay := ?_, conflict := ?_ }
  · intro delivery count answered
    by_cases points : delivery.points = []
    · rw [recordMetricPoints, if_pos (by simpa using points)]
      rfl
    · obtain ⟨taken, home, known⟩ := holds.found answered points
      have same := (byName_eq_iff (names_nodup _ _)).mpr (holds.held _ _ answered points)
      rw [recordMetricPoints_taken points known taken, if_pos same]
  · intro delivery count answered points other otherPoints place differs
    obtain ⟨taken, home, known⟩ := holds.found answered points
    have here : other.attemptId = delivery.attemptId := congrArg Prod.fst place
    have same := (byName_eq_iff (names_nodup _ _)).mpr (holds.held _ _ answered points)
    have apart : byName delivery.said ≠ byName other.said := by
      intro alike
      rw [← same] at alike
      have perm := (byName_eq_iff (names_nodup _ _)).mp alike
      exact differs (perm.symm.trans (holds.held _ _ answered points))
    have named := differing_ne_nil apart
    refine ⟨named, ?_⟩
    rw [recordMetricPoints_taken otherPoints (here ▸ known) (place ▸ taken), place, same,
      if_neg apart, conflict, if_neg (by simpa using named)]

end histories

end Xaytune.Metrics

import Mathlib.Data.List.Pairwise
import Mathlib.Data.Prod.Lex
import Mathlib.Data.String.Basic
import Xaytune.Library.Fallible
import Xaytune.Library.FixedWidth
import Xaytune.Library.Paging
import Xaytune.Library.Table

/-!
# Paging through experiments

Experiments are listed newest first and paged by the text of their creation time and their id.
Between two requests experiments are created and change their status. The texts fall with the times
they stand for where the offset from UTC is one and the same, so that the pages are in the order of
time, whatever happens between them.
-/

namespace Xaytune.Api

open Xaytune.Library

/-! ## Creation times -/

/-- How far a clock is ahead of UTC or behind it, in whole minutes. -/
structure Offset where
  isBehind : Bool
  hours : Nat
  minutes : Nat
  deriving DecidableEq

namespace Offset

def utc : Offset := ⟨false, 0, 0⟩

def isoformat (offset : Offset) : List Char :=
  (if offset.isBehind then '-' else '+') ::
    (digits 2 offset.hours ++ ':' :: digits 2 offset.minutes)

end Offset

/-- A time as a clock shows it, with the clock's offset if it is known. -/
structure Moment where
  year : Nat
  month : Nat
  day : Nat
  hour : Nat
  minute : Nat
  second : Nat
  microsecond : Nat
  yearFits : year < 10 ^ 4
  monthFits : month < 10 ^ 2
  dayFits : day < 10 ^ 2
  hourFits : hour < 10 ^ 2
  minuteFits : minute < 10 ^ 2
  secondFits : second < 10 ^ 2
  microsecondFits : microsecond < 10 ^ 6
  offset : Option Offset

namespace Moment

/-- Year, month, day, hour, minute and second. -/
def calendar (moment : Moment) : List Nat :=
  [moment.year, moment.month, moment.day, moment.hour, moment.minute, moment.second]

/-- The order of time, of moments with one offset. -/
def time (moment : Moment) : List Nat ×ₗ Nat := toLex (moment.calendar, moment.microsecond)

/-- Digits of each part of a time, and what follows them. -/
def blocks : List (Nat × List Char) :=
  [(4, ['-']), (2, ['-']), (2, ['T']), (2, [':']), (2, [':']), (2, [])]

/-- What `isoformat` says of the offset. -/
def zone (moment : Moment) : List Char := (moment.offset.map Offset.isoformat).getD []

/-- `isoformat`: microseconds are left out if there are none. -/
def isoformat (moment : Moment) : List Char :=
  fixedText blocks moment.calendar
    (if moment.microsecond = 0 then moment.zone
      else '.' :: (digits 6 moment.microsecond ++ moment.zone))

/-- An offset stands in front of a fraction, whatever its sign, and so does none. -/
theorem zone_lt (moment : Moment) (fraction : List Char) : moment.zone < '.' :: fraction := by
  rw [zone]
  cases moment.offset with
  | none => exact List.nil_lt_cons ..
  | some offset =>
      rw [Option.map_some, Option.getD_some, Offset.isoformat, List.cons_lt_cons_iff]
      left
      split <;> decide

theorem calendar_fits (moment : Moment) : Fits blocks moment.calendar :=
  ⟨moment.yearFits, moment.monthFits, moment.dayFits, moment.hourFits, moment.minuteFits,
    moment.secondFits, trivial⟩

section offset

variable {first second : Moment}

/-- The text falls with the time, also where only one of two times has a fraction. -/
theorem isoformat_lt (same : first.offset = second.offset) (less : first.time < second.time) :
    first.isoformat < second.isoformat := by
  have zones : first.zone = second.zone := by rw [zone, zone, same]
  rcases Prod.Lex.toLex_lt_toLex.mp less with earlier | ⟨calendars, earlier⟩
  · exact fixedText_lt first.calendar_fits second.calendar_fits earlier _ _
  · rw [isoformat, isoformat, show first.calendar = second.calendar from calendars, zones]
    apply fixedText_lt_behind
    have some_of : second.microsecond ≠ 0 := Nat.ne_zero_of_lt earlier
    rw [if_neg some_of]
    split_ifs with none
    · exact second.zone_lt _
    · rw [List.cons_lt_cons_iff]
      refine .inr ⟨rfl, append_lt_append (by simp) ?_ _ _⟩
      exact digits_lt earlier second.microsecondFits

theorem isoformat_eq_iff (same : first.offset = second.offset) :
    first.isoformat = second.isoformat ↔ first.time = second.time := by
  constructor
  · intro texts
    rcases lt_trichotomy first.time second.time with earlier | alike | later
    · exact absurd texts (ne_of_lt (isoformat_lt same earlier))
    · exact alike
    · exact absurd texts (ne_of_gt (isoformat_lt same.symm later))
  · intro times
    obtain ⟨calendar, microsecond⟩ := Prod.mk.inj (toLex_inj.mp times)
    rw [isoformat, isoformat, calendar, microsecond, zone, zone, same]

theorem isoformat_lt_iff (same : first.offset = second.offset) :
    first.isoformat < second.isoformat ↔ first.time < second.time := by
  refine ⟨fun less => ?_, isoformat_lt same⟩
  rcases lt_trichotomy first.time second.time with earlier | alike | later
  · exact earlier
  · exact absurd ((isoformat_eq_iff same).mpr alike) (ne_of_lt less)
  · exact absurd less (lt_asymm (isoformat_lt same.symm later))

end offset

/-- Two in the morning, two hours ahead of UTC, stands behind one in the morning in UTC. -/
example :
    (⟨2026, 1, 1, 1, 0, 0, 0, by decide, by decide, by decide, by decide, by decide, by decide,
        by decide, some .utc⟩ : Moment).isoformat <
      (⟨2026, 1, 1, 2, 0, 0, 0, by decide, by decide, by decide, by decide, by decide, by decide,
        by decide, some ⟨false, 2, 0⟩⟩ : Moment).isoformat := by
  decide

end Moment

/-! ## Experiments -/

structure ListedExperiment where
  id : String
  createdAt : Moment
  status : String

namespace ListedExperiment

/-- `(created_at, id)`, as the columns hold them. -/
def stamp (experiment : ListedExperiment) : List Char ×ₗ String :=
  toLex (experiment.createdAt.isoformat, experiment.id)

/-- The order of time, then of ids. -/
def age (experiment : ListedExperiment) : (List Nat ×ₗ Nat) ×ₗ String :=
  toLex (experiment.createdAt.time, experiment.id)

end ListedExperiment

abbrev Experiments := Table ListedExperiment.id

/-- What happens between two requests. -/
inductive Change where
  | create (experiment : ListedExperiment)
  | move (id status : String)

def change : Change → Experiments → Experiments
  | .create experiment, experiments => (experiments.insert? experiment).getD experiments
  | .move id status, experiments =>
      match experiments.find? id with
      | none => experiments
      | some experiment => experiments.replace { experiment with status := status }

/-- `status = ?`, if a status is asked for. -/
def wanted (status : Option String) (experiments : Experiments) : List ListedExperiment :=
  experiments.rows.filter fun experiment => status.all (· = experiment.status)

/-- `Query(ge=1, le=MAX_LIMIT)`. -/
structure PageLimit where
  limit : Nat
  least : 1 ≤ limit
  most : limit ≤ 500

/-- `list_experiments`: a page of the experiments older than the last one of the page before. -/
def listExperiments (experiments : Experiments) (status : Option String)
    (before : Option (List Char ×ₗ String)) (limit : PageLimit) : List ListedExperiment :=
  page ListedExperiment.stamp limit.limit (wanted status experiments) before

/-- The experiments at each request; changes are made before every one of them. -/
def atRequests : List (List Change) → Experiments → List Experiments
  | [], _ => []
  | changes :: later, experiments =>
      let now := changes.foldl (fun experiments each => change each experiments) experiments
      now :: atRequests later now

/-- The pages a client gets that follows `next_before`, one from each request. -/
def pages (status : Option String) (limit : PageLimit) :
    List Experiments → (before : Option (List Char ×ₗ String)) → List (List ListedExperiment)
  | [], _ => []
  | experiments :: later, before =>
      let items := listExperiments experiments status before limit
      items ::
        match nextKey ListedExperiment.stamp limit.limit items with
        | none => []
        | some last => pages status limit later (some last)

theorem pages_eq_readPages (status : Option String) (limit : PageLimit)
    (requests : List Experiments) (before : Option (List Char ×ₗ String)) :
    pages status limit requests before =
      readPages ListedExperiment.stamp limit.limit (requests.map (wanted status)) before := by
  induction requests generalizing before with
  | nil => rfl
  | cons experiments later ih =>
      rw [pages, List.map_cons, readPages]
      simp only [ih, listExperiments]
      generalize nextKey _ _ _ = next
      cases next <;> rfl

/-! ## An experiment keeps its creation time -/

/-- Every experiment is still there, created when it was. -/
def Kept (earlier later : Experiments) : Prop :=
  ∀ experiment ∈ earlier, ∃ other ∈ later,
    other.id = experiment.id ∧ other.createdAt = experiment.createdAt

theorem Kept.refl (experiments : Experiments) : Kept experiments experiments :=
  fun experiment member => ⟨experiment, member, rfl, rfl⟩

theorem Kept.trans {first second third : Experiments} (kept : Kept first second)
    (kept' : Kept second third) : Kept first third := by
  intro experiment member
  obtain ⟨other, among, id, created⟩ := kept experiment member
  obtain ⟨last, among', id', created'⟩ := kept' other among
  exact ⟨last, among', id'.trans id, created'.trans created⟩

theorem change_kept (each : Change) (experiments : Experiments) :
    Kept experiments (change each experiments) := by
  intro experiment member
  cases each with
  | create new =>
      rw [change]
      cases inserted : experiments.insert? new with
      | none => exact ⟨experiment, member, rfl, rfl⟩
      | some table =>
          exact ⟨experiment, (Table.mem_insert? inserted).mpr (.inl member), rfl, rfl⟩
  | move id status =>
      rw [change]
      cases found : experiments.find? id with
      | none => exact ⟨experiment, member, rfl, rfl⟩
      | some stored =>
          obtain ⟨isStored, rfl⟩ := Table.find?_eq_some_iff.mp found
          by_cases same : experiment.id = stored.id
          · obtain rfl := Table.eq_of_key_eq member isStored same
            exact ⟨_, Table.mem_replace.mpr (.inr ⟨rfl, experiment, member, rfl⟩), rfl, rfl⟩
          · exact ⟨experiment, Table.mem_replace.mpr (.inl ⟨member, same⟩), rfl, rfl⟩

theorem changes_kept (changes : List Change) (experiments : Experiments) :
    Kept experiments
      (changes.foldl (fun experiments each => change each experiments) experiments) := by
  induction changes generalizing experiments with
  | nil => exact Kept.refl experiments
  | cons each changes ih => exact (change_kept each experiments).trans (ih _)

theorem atRequests_kept (segments : List (List Change)) (experiments : Experiments) :
    (∀ later ∈ atRequests segments experiments, Kept experiments later) ∧
      (atRequests segments experiments).Pairwise Kept := by
  induction segments generalizing experiments with
  | nil => exact ⟨nofun, .nil⟩
  | cons changes segments ih =>
      have now := changes_kept changes experiments
      obtain ⟨later, pairwise⟩ := ih
        (changes.foldl (fun experiments each => change each experiments) experiments)
      rw [atRequests, List.forall_mem_cons, List.pairwise_cons]
      exact ⟨⟨now, fun other member => now.trans (later other member)⟩, later, pairwise⟩

/-- Two tables in which an experiment has one creation time. -/
def Agree (first second : Experiments) : Prop :=
  ∀ one ∈ first, ∀ two ∈ second, one.id = two.id → one.createdAt = two.createdAt

theorem Kept.agree {first second : Experiments} (kept : Kept first second) :
    Agree first second := by
  intro one isOne two isTwo same
  obtain ⟨found, among, id, created⟩ := kept one isOne
  obtain rfl := Table.eq_of_key_eq among isTwo (id.trans same)
  exact created.symm

theorem atRequests_agree {segments : List (List Change)} {start first second : Experiments}
    (isFirst : first ∈ atRequests segments start) (isSecond : second ∈ atRequests segments start) :
    Agree first second := by
  have symm : Std.Symm Agree :=
    ⟨fun _ _ agree one isOne two isTwo same => (agree two isTwo one isOne same.symm).symm⟩
  have pairwise := (atRequests_kept segments start).2.imp Kept.agree
  exact List.Pairwise.forall_of_forall (fun each _ => (Kept.refl each).agree) pairwise isFirst
    isSecond

/-! ## The pages -/

/-- What following the pages promises, whatever happens between them. -/
structure ListsAll (status : Option String) (limit : PageLimit) (requests : List Experiments)
    (pages : List (List ListedExperiment)) : Prop where
  /-- Each page holds experiments as they stood at its request, with the status asked for. -/
  stored : List.Forall₂
    (fun page experiments => page ⊆ wanted status experiments ∧ page.length ≤ limit.limit) pages
    (requests.take pages.length)
  /-- The stored texts fall over all pages. -/
  falls : pages.flatten.Pairwise fun first second => second.stamp < first.stamp
  /-- Newest first, over all pages, where the offset is the same. -/
  newest : pages.flatten.Pairwise fun first second =>
    first.createdAt.offset = second.createdAt.offset → second.age < first.age
  once : (pages.flatten.map ListedExperiment.id).Nodup
  /-- What has the status asked for at every request is listed. -/
  complete : Ended limit.limit pages → ∀ id,
    (∀ experiments ∈ requests.take pages.length, ∃ experiment ∈ wanted status experiments,
      experiment.id = id) → id ∈ pages.flatten.map ListedExperiment.id

theorem stamp_lt_iff {first second : ListedExperiment}
    (same : first.createdAt.offset = second.createdAt.offset) :
    first.stamp < second.stamp ↔ first.age < second.age := by
  rw [ListedExperiment.stamp, ListedExperiment.stamp, ListedExperiment.age, ListedExperiment.age,
    Prod.Lex.toLex_lt_toLex, Prod.Lex.toLex_lt_toLex]
  simp only [Moment.isoformat_lt_iff same, Moment.isoformat_eq_iff same]

theorem wanted_unique (status : Option String) (experiments : Experiments) :
    ((wanted status experiments).map ListedExperiment.stamp).Nodup := by
  apply List.Nodup.of_map fun key => (ofLex key).2
  rw [List.map_map]
  exact experiments.nodup.sublist (List.filter_sublist.map _)

/--
A client that follows the pages gets every experiment once that has the status asked for all along,
none twice and the newest first, while others are created and moved between its requests.
-/
theorem pages_listsAll (segments : List (List Change)) (start : Experiments)
    (status : Option String) (limit : PageLimit) :
    ListsAll status limit (atRequests segments start)
      (pages status limit (atRequests segments start) none) := by
  have unique : ∀ rows ∈ (atRequests segments start).map (wanted status),
      (rows.map ListedExperiment.stamp).Nodup := by
    intro rows member
    obtain ⟨experiments, -, rfl⟩ := List.mem_map.mp member
    exact wanted_unique status experiments
  have reads := readPages_readsAll limit.least _ unique none
  rw [← pages_eq_readPages] at reads
  obtain ⟨stored, -, falls, complete⟩ := reads
  rw [← List.map_take, List.forall₂_map_right_iff] at stored
  have listed {row : ListedExperiment}
      (member : row ∈ (pages status limit (atRequests segments start) none).flatten) :
      ∃ experiments ∈ atRequests segments start, row ∈ experiments := by
    obtain ⟨page, isPage, onPage⟩ := List.mem_flatten.mp member
    obtain ⟨experiments, isOne, subset, -⟩ := exists_of_forall₂ stored isPage
    exact ⟨experiments, List.mem_of_mem_take isOne, List.mem_of_mem_filter (subset onPage)⟩
  refine ⟨stored, falls, ?_, ?_, ?_⟩
  · exact falls.imp fun less same => (stamp_lt_iff (Eq.symm same)).mp less
  · apply List.pairwise_map.mpr
    refine falls.imp_of_mem ?_
    intro first second isFirst isSecond less same
    obtain ⟨earlier, isEarlier, inEarlier⟩ := listed isFirst
    obtain ⟨later, isLater, inLater⟩ := listed isSecond
    have created := atRequests_agree isEarlier isLater first inEarlier second inLater same
    rw [ListedExperiment.stamp, ListedExperiment.stamp, same, created] at less
    exact absurd less (lt_irrefl _)
  · intro ended id stays
    have ⟨last, isLast, _⟩ := ended
    obtain ⟨first, isFirst, -⟩ := exists_of_forall₂ stored (List.mem_of_getLast? isLast)
    obtain ⟨experiment, member, rfl⟩ := stays first isFirst
    have inFirst := List.mem_of_mem_filter member
    have found := complete ended experiment.stamp nofun ?_
    · obtain ⟨other, isListed, same⟩ := List.mem_map.mp found
      exact List.mem_map.mpr ⟨other, isListed, congrArg (fun key => (ofLex key).2) same⟩
    · intro rows isState
      rw [← List.map_take] at isState
      obtain ⟨experiments, inTake, rfl⟩ := List.mem_map.mp isState
      obtain ⟨other, isWanted, same⟩ := stays experiments inTake
      have created := atRequests_agree (List.mem_of_mem_take inTake) (List.mem_of_mem_take isFirst)
        other (List.mem_of_mem_filter isWanted) experiment inFirst same
      refine List.mem_map.mpr ⟨other, isWanted, ?_⟩
      rw [ListedExperiment.stamp, ListedExperiment.stamp, same, created]

end Xaytune.Api

import Mathlib.Data.List.Count
import Mathlib.Logic.Relation
import Xaytune.Storage.Migrations

/-!
# Runs of migrations

A run applies an ordered part of what is pending and records it, or refuses the database as a
whole.  What it leaves at any moment, another run takes up and brings to the same end.
-/

namespace Xaytune.Storage.Migrations

open Xaytune.Library

variable {S : Type} (runs : String → S → Except String S)
  (readText : String → Except String String)

/-! ## One migration -/

/-- What a migration's file makes of the tables. -/
def runScript (migration : Migration) (schema : S) : Except String S := do
  let sql ← readText migration.path
  runs sql schema

/-- The database once a migration is applied and recorded, unless it fails. -/
def advance (db : Database S) (migration : Migration) : Option (Database S) :=
  match readText migration.path with
  | .error _ => none
  | .ok sql => (db.execute runs sql migration).toOption

/-- Some migrations were applied in order, and recorded behind what was. -/
structure Applied (db : Database S) (migrations : List Migration) (left : Database S) : Prop where
  recorded : left.rows = db.rows ++ migrations.map Migration.row
  applied : migrations.foldlM (fun schema migration => runScript runs readText migration schema)
    db.schema = .ok left.schema

variable {runs readText} {db next left : Database S} {migration : Migration}

theorem execute_ok {sql : String} (executed : db.execute runs sql migration = .ok next) :
    runs sql db.schema = .ok next.schema ∧ next.rows = db.rows ++ [migration.row] ∧
      next.ledger.isSome = true := by
  unfold Database.execute at executed
  cases ran : runs sql db.schema with
  | error error =>
      simp only [ran] at executed
      cases executed
  | ok schema =>
      cases recorded : db.ledger with
      | none =>
          simp only [ran, recorded] at executed
          cases executed
      | some ledger =>
          simp only [ran, recorded] at executed
          split at executed
          · cases executed
            refine ⟨rfl, ?_, rfl⟩
            simp only [Database.rows, recorded]
            rfl
          · cases executed

theorem advance_some (advanced : advance runs readText db migration = some next) :
    runScript runs readText migration db.schema = .ok next.schema ∧
      next.rows = db.rows ++ [migration.row] ∧ next.ledger.isSome = true := by
  unfold advance at advanced
  unfold runScript
  cases text : readText migration.path with
  | error error =>
      simp only [text] at advanced
      cases advanced
  | ok sql =>
      simp only [text] at advanced
      cases executed : db.execute runs sql migration with
      | error error =>
          simp only [executed, Except.toOption] at advanced
          cases advanced
      | ok written =>
          simp only [executed, Except.toOption, Option.some.injEq] at advanced
          subst advanced
          exact execute_ok executed

theorem applied_of_foldlM {migrations : List Migration}
    (advanced : migrations.foldlM (advance runs readText) db = some left) :
    Applied runs readText db migrations left := by
  induction migrations generalizing db with
  | nil =>
      cases advanced
      exact ⟨by simp, rfl⟩
  | cons migration rest ih =>
      rw [List.foldlM_cons] at advanced
      obtain ⟨next, first, later⟩ := Option.bind_eq_some_iff.mp advanced
      obtain ⟨ran, row, ledger⟩ := advance_some first
      obtain ⟨recorded, applied⟩ := ih later
      constructor
      · rw [recorded, row, List.map_cons, List.append_assoc, List.singleton_append]
      · rw [List.foldlM_cons, ran]
        exact applied

theorem ledger_of_foldlM {migrations : List Migration} (ledger : db.ledger.isSome = true)
    (advanced : migrations.foldlM (advance runs readText) db = some left) :
    left.ledger.isSome = true := by
  induction migrations generalizing db with
  | nil =>
      cases advanced
      exact ledger
  | cons migration rest ih =>
      rw [List.foldlM_cons] at advanced
      obtain ⟨next, first, later⟩ := Option.bind_eq_some_iff.mp advanced
      exact ih (advance_some first).2.2 later

theorem keeps_statement (statement : Statement) {safe : Database S → Prop}
    {post : Except MigrationFailure statement.Answer → Unit → Database S → Prop} {memory : Unit}
    (before : safe db) (behind : safe (db.perform runs statement).1)
    (ends : post (db.perform runs statement).2 memory (db.perform runs statement).1) :
    (Action.ask statement : Migrating statement.Answer).Keeps
    (sqlite runs) safe post memory db := by
  apply Action.keeps_ask.mpr
  refine ⟨before, ?_, ends⟩
  rintro left (rfl | rfl)
  · exact before
  · exact behind

/-- A migration is interrupted before it took effect, or behind it. -/
theorem keeps_applyMigration {safe : Database S → Prop}
    {post : Except MigrationFailure Unit → Unit → Database S → Prop} {memory : Unit}
    (here : safe db)
    (advanced : ∀ next, advance runs readText db migration = some next →
      safe next ∧ post (.ok ()) memory next)
    (fails : advance runs readText db migration = none → ∀ failure,
      post (.error failure) memory db) :
    (applyMigration readText migration).Keeps (sqlite runs) safe post memory db := by
  unfold applyMigration
  unfold advance at advanced fails
  cases text : readText migration.path with
  | error error =>
      rw [text] at fails
      exact fails rfl _
  | ok sql =>
      simp only [text] at advanced fails
      let statement := Statement.executeScript sql migration
      cases executed : db.execute runs sql migration with
      | error error =>
          have performed : db.perform runs statement = (db, .error (.sqlite error)) := by
            simp only [statement, Database.perform, executed]
          have asked : (Action.ask statement : Migrating Unit).Keeps (sqlite runs) safe
              (fun outcome _ state => outcome = .error (.sqlite error) ∧ state = db) memory db := by
            apply keeps_statement statement here
            · rw [performed]
              exact here
            · rw [performed]
              exact ⟨rfl, rfl⟩
          apply asked.tryCatch
          · rintro value memory state ⟨other, _⟩
            cases other
          · rintro failure memory state ⟨raised, isState⟩
            cases raised
            subst isState
            apply fails
            rw [executed]
            rfl
      | ok written =>
          obtain ⟨after, done⟩ := advanced written (by rw [executed]; rfl)
          have performed : db.perform runs statement = (written, .ok ()) := by
            simp only [statement, Database.perform, executed]
          have asked : (Action.ask statement : Migrating Unit).Keeps (sqlite runs) safe
              (fun outcome _ state => outcome = .ok () ∧ state = written) memory db := by
            apply keeps_statement statement here
            · rw [performed]
              exact after
            · rw [performed]
              exact ⟨rfl, rfl⟩
          apply asked.tryCatch
          · rintro value memory state ⟨_, isState⟩
            subst isState
            exact done
          · rintro failure memory state ⟨other, _⟩
            cases other

/-! ## The loop -/

def notYet (already : List Int) (migrations : List Migration) : List Migration :=
  migrations.filter fun migration => migration.version ∉ already

/-- Where nothing that is left to do lies below the running maximum, the loop stops behind some
of it, and ends behind all of it. -/
theorem keeps_applyPending {already : List Int} {safe : Database S → Prop}
    {post : Except MigrationFailure (List Int) → Unit → Database S → Prop} {memory : Unit}
    {highest : Int} {known : List Migration}
    (ordered : known.Pairwise fun earlier later => earlier.version < later.version)
    (above : ∀ migration ∈ known, migration.version ∉ already → highest ≤ migration.version)
    (stops : ∀ done later left, notYet already known = done ++ later →
      done.foldlM (advance runs readText) db = some left → safe left)
    (ends : ∀ left, (notYet already known).foldlM (advance runs readText) db = some left →
      post (.ok ((notYet already known).map Migration.version)) memory left)
    (fails : ∀ done migration later left failure,
      notYet already known = done ++ migration :: later →
      done.foldlM (advance runs readText) db = some left →
      advance runs readText left migration = none → post (.error failure) memory left) :
    (applyPending readText already highest known).Keeps (sqlite runs) safe post memory db := by
  induction known generalizing highest db post with
  | nil => exact ends db rfl
  | cons migration rest ih =>
      obtain ⟨first, ordered⟩ := List.pairwise_cons.mp ordered
      rw [applyPending]
      by_cases recorded : migration.version ∈ already
      · have same : notYet already (migration :: rest) = notYet already rest := by
          simp [notYet, recorded]
        rw [if_pos recorded]
        rw [same] at stops ends fails
        apply ih ordered _ stops ends fails
        intro other member
        exact above other (List.mem_cons_of_mem _ member)
      · have same : notYet already (migration :: rest) = migration :: notYet already rest := by
          simp [notYet, recorded]
        rw [if_neg recorded,
          if_neg (Int.not_lt.mpr (above migration (List.mem_cons_self) recorded))]
        rw [same] at stops ends fails
        apply Action.keeps_bind.mpr
        apply keeps_applyMigration
        · exact stops [] _ db rfl rfl
        · intro next advanced
          constructor
          · apply stops [migration] (notYet already rest) next rfl
            rw [List.foldlM_cons, advanced]
            rfl
          · apply Action.keeps_bind.mpr
            apply ih ordered
            · intro other member _
              exact le_of_lt (first other member)
            · intro done later left split ran
              apply stops (migration :: done) later left
              · rw [split, List.cons_append]
              · rw [List.foldlM_cons, advanced]
                exact ran
            · intro left ran
              apply ends left
              rw [List.foldlM_cons, advanced]
              exact ran
            · intro done failing later left failure split ran failed
              apply fails (migration :: done) failing later left failure
              · rw [split, List.cons_append]
              · rw [List.foldlM_cons, advanced]
                exact ran
              · exact failed
        · intro failed failure
          exact fails [] migration (notYet already rest) db failure rfl rfl failed

/-- Where something that is left to do lies below the running maximum, the loop raises before it
applies anything. -/
theorem keeps_applyPending_behind {already : List Int} {safe : Database S → Prop}
    {post : Except MigrationFailure (List Int) → Unit → Database S → Prop} {memory : Unit}
    {highest : Int} {known : List Migration}
    (ordered : known.Pairwise fun earlier later => earlier.version < later.version)
    (below : ∃ migration ∈ known, migration.version ∉ already ∧ migration.version < highest)
    (raises : ∀ failure, post (.error failure) memory db) :
    (applyPending readText already highest known).Keeps (sqlite runs) safe post memory db := by
  induction known with
  | nil =>
      obtain ⟨migration, member, _⟩ := below
      cases member
  | cons migration rest ih =>
      obtain ⟨first, ordered⟩ := List.pairwise_cons.mp ordered
      obtain ⟨other, member, pending, lower⟩ := below
      rw [applyPending]
      by_cases recorded : migration.version ∈ already
      · rw [if_pos recorded]
        apply ih ordered
        rcases List.mem_cons.mp member with rfl | later
        · exact absurd recorded pending
        · exact ⟨other, later, pending, lower⟩
      · have lowest : migration.version < highest := by
          rcases List.mem_cons.mp member with rfl | later
          · exact lower
          · exact lt_trans (first other later) lower
        rw [if_neg recorded, if_pos lowest]
        exact raises _

/-! ## A run -/

def pending (known : List Migration) (db : Database S) : List Migration := notYet db.versions known

/-- The ledger records a version that no file has. -/
def Unknown (known : List Migration) (db : Database S) : Prop :=
  ∃ version ∈ db.versions, version ∉ known.map Migration.version

/-- A version that is pending lies below one that is applied. -/
def Behind (known : List Migration) (db : Database S) : Prop :=
  ∃ migration ∈ known, migration.version ∉ db.versions ∧
    ∃ recorded ∈ db.versions, migration.version < recorded

@[simp]
theorem versions_withLedger : db.withLedger.versions = db.versions := by
  unfold Database.versions Database.rows Database.withLedger
  cases db.ledger with
  | none => rfl
  | some ledger => rfl

@[simp]
theorem rows_withLedger : db.withLedger.rows = db.rows := by
  unfold Database.rows Database.withLedger
  cases db.ledger with
  | none => rfl
  | some ledger => rfl

theorem withLedger_eq (ledger : db.ledger.isSome = true) : db.withLedger = db := by
  obtain ⟨rows, recorded⟩ := Option.isSome_iff_exists.mp ledger
  obtain ⟨before, schema⟩ := db
  cases recorded
  rfl

theorem ledger_of_mem_versions {version : Int} (member : version ∈ db.versions) :
    db.ledger.isSome = true := by
  unfold Database.versions Database.rows at member
  cases recorded : db.ledger with
  | none =>
      rw [recorded] at member
      cases member
  | some ledger => rfl

theorem versions_of_ledger {ledger : Ledger} (recorded : db.ledger = some ledger) :
    db.versions = ledger.rows.map LedgerRow.version := by
  simp only [Database.versions, Database.rows, recorded]

variable {safe : Database S → Prop} {memory : Unit} {known : List Migration}

theorem keeps_recordedVersions
    {post : Except MigrationFailure (Option (List Int)) → Unit → Database S → Prop}
    (here : safe db)
    (without : db.ledger = none → post (.ok none) memory db)
    (ends : db.ledger.isSome = true →
      post (.ok (some (db.versions.insertionSort (· ≤ ·)))) memory db) :
    recordedVersions.Keeps (sqlite runs) safe post memory db := by
  unfold recordedVersions
  apply Action.keeps_bind.mpr
  apply keeps_statement Statement.ledgerExists here here
  cases recorded : db.ledger with
  | none =>
      simp only [Database.perform, recorded, Option.isSome_none, Bool.false_eq_true, if_false]
      exact without recorded
  | some ledger =>
      simp only [Database.perform, recorded, Option.isSome_some, if_true]
      apply Action.keeps_bind.mpr
      have performed : db.perform runs .selectVersions =
          (db, .ok (db.versions.insertionSort (· ≤ ·))) := by
        simp only [Database.perform, recorded, versions_of_ledger recorded]
      apply keeps_statement Statement.selectVersions here
      · rw [performed]
        exact here
      · rw [performed]
        exact ends (by rw [recorded]; rfl)

theorem keeps_ensureLedger {post : Except MigrationFailure Unit → Unit → Database S → Prop}
    (here : safe db) (behind : safe db.withLedger) (ends : post (.ok ()) memory db.withLedger) :
    ensureLedger.Keeps (sqlite runs) safe post memory db :=
  keeps_statement Statement.createLedger here behind ends

theorem keeps_appliedVersions
    {post : Except MigrationFailure (List Int) → Unit → Database S → Prop}
    (here : safe db) (behind : safe db.withLedger)
    (ends : post (.ok (db.versions.insertionSort (· ≤ ·))) memory db.withLedger) :
    appliedVersions.Keeps (sqlite runs) safe post memory db := by
  unfold appliedVersions
  apply Action.keeps_bind.mpr
  apply keeps_ensureLedger here behind
  have performed : db.withLedger.perform runs .selectVersions =
      (db.withLedger, .ok (db.versions.insertionSort (· ≤ ·))) := by
    simp only [Database.perform]
    rw [← versions_withLedger]
    rfl
  apply keeps_statement Statement.selectVersions behind
  · rw [performed]
    exact behind
  · rw [performed]
    exact ends

theorem unknownVersions_eq_nil {recorded : List Int} :
    unknownVersions recorded known = [] ↔
      ∀ version ∈ recorded, version ∈ known.map Migration.version := by
  unfold unknownVersions
  constructor
  · intro none version member
    by_contra unknown
    have found : version ∈ (recorded.filter fun version =>
        version ∉ known.map Migration.version).insertionSort (· ≤ ·) := by
      rw [List.mem_insertionSort, List.mem_filter]
      exact ⟨member, decide_eq_true unknown⟩
    rw [none] at found
    cases found
  · intro all
    have empty : recorded.filter (fun version => version ∉ known.map Migration.version) = [] := by
      apply List.filter_eq_nil_iff.mpr
      intro version member
      simpa using all version member
    rw [empty]
    rfl

theorem keeps_requireKnownSchema {recorded : List Int}
    {post : Except MigrationFailure Unit → Unit → Database S → Prop}
    (fine : (∀ version ∈ recorded, version ∈ known.map Migration.version) →
      post (.ok ()) memory db)
    (raises : ¬ (∀ version ∈ recorded, version ∈ known.map Migration.version) →
      ∀ failure, post (.error failure) memory db) :
    (requireKnownSchema recorded known).Keeps (sqlite runs) safe post memory db := by
  unfold requireKnownSchema
  cases unknown : unknownVersions recorded known with
  | nil => exact fine (unknownVersions_eq_nil.mp unknown)
  | cons first rest =>
      apply raises
      intro all
      rw [unknownVersions_eq_nil.mpr all] at unknown
      cases unknown

/-- What a run leaves at each moment. -/
def Progress (runs : String → S → Except String S) (readText : String → Except String String)
    (known : List Migration) (db left : Database S) : Prop :=
  left = db ∨ (¬ Unknown known db ∧ ¬ Behind known db ∧ ∃ done later,
    pending known db = done ++ later ∧
      done.foldlM (advance runs readText) db.withLedger = some left)

/-- How a run ends. -/
inductive Ended (runs : String → S → Except String S) (readText : String → Except String String)
    (known : List Migration) (db : Database S) :
    Except MigrationFailure (List Int) → Database S → Prop
  | refused (failure : MigrationFailure) (cause : Unknown known db ∨ Behind known db) :
      Ended runs readText known db (.error failure) db
  | finished {left : Database S} (known' : ¬ Unknown known db) (ahead : ¬ Behind known db)
      (ran : (pending known db).foldlM (advance runs readText) db.withLedger = some left) :
      Ended runs readText known db (.ok ((pending known db).map Migration.version)) left
  | failed {left : Database S} {done later : List Migration} {migration : Migration}
      (failure : MigrationFailure) (known' : ¬ Unknown known db) (ahead : ¬ Behind known db)
      (split : pending known db = done ++ migration :: later)
      (ran : done.foldlM (advance runs readText) db.withLedger = some left)
      (failed : advance runs readText left migration = none) :
      Ended runs readText known db (.error failure) left

/-- The running maximum starts above a version exactly where a recorded one is. -/
theorem lt_highest {version : Int} (natural : 0 ≤ version) {recorded : List Int} :
    version < ((recorded.insertionSort (· ≤ ·)).max?).getD 0 ↔ ∃ other ∈ recorded,
      version < other := by
  cases greatest : (recorded.insertionSort (· ≤ ·)).max? with
  | none =>
      have empty : recorded.insertionSort (· ≤ ·) = [] := List.max?_eq_none_iff.mp greatest
      constructor
      · intro below
        rw [Option.getD_none] at below
        exact absurd natural (Int.not_le.mpr below)
      · rintro ⟨other, member, below⟩
        have found := (List.mem_insertionSort (· ≤ ·)).mpr member
        rw [empty] at found
        cases found
  | some highest =>
      obtain ⟨member, greatest⟩ := List.max?_eq_some_iff.mp greatest
      rw [Option.getD_some]
      constructor
      · intro below
        exact ⟨highest, (List.mem_insertionSort _).mp member, below⟩
      · rintro ⟨other, found, below⟩
        exact lt_of_lt_of_le below (greatest other ((List.mem_insertionSort _).mpr found))

theorem notYet_sorted {recorded : List Int} :
    notYet (recorded.insertionSort (· ≤ ·)) known = notYet recorded known := by
  unfold notYet
  apply List.filter_congr
  intro migration _
  simp

theorem keeps_migrate
    (ordered : known.Pairwise fun earlier later => earlier.version < later.version)
    (natural : ∀ migration ∈ known, 0 ≤ migration.version) :
    (migrate readText (.ok known)).Keeps (sqlite runs) (Progress runs readText known db)
      (fun outcome _ left => Ended runs readText known db outcome left) memory db := by
  have here : Progress runs readText known db db := .inl rfl
  have ensured : ¬ Unknown known db → Progress runs readText known db db.withLedger := by
    intro known'
    by_cases ledger : db.ledger.isSome = true
    · exact .inl (withLedger_eq ledger)
    · refine .inr ⟨known', ?_, [], pending known db, rfl, rfl⟩
      rintro ⟨_, _, _, recorded, member, _⟩
      exact ledger (ledger_of_mem_versions member)
  -- Once nothing unknown is recorded, the loop decides.
  have loops : ¬ Unknown known db → Action.Keeps (sqlite runs) (Progress runs readText known db)
      (fun outcome _ left => Ended runs readText known db outcome left)
      (do
        ensureLedger
        let already ← appliedVersions
        applyPending readText already (already.max?.getD 0) known) memory db := by
    intro known'
    apply Action.keeps_bind.mpr
    apply keeps_ensureLedger here (ensured known')
    apply Action.keeps_bind.mpr
    have twice : db.withLedger.withLedger = db.withLedger := withLedger_eq rfl
    apply keeps_appliedVersions (ensured known')
    · rw [twice]
      exact ensured known'
    rw [twice, versions_withLedger]
    by_cases behind : Behind known db
    · apply keeps_applyPending_behind ordered
      · obtain ⟨migration, member, missing, below⟩ := behind
        refine ⟨migration, member, ?_, (lt_highest (natural migration member)).mpr below⟩
        rwa [List.mem_insertionSort]
      · intro failure
        have unchanged : db.withLedger = db := by
          obtain ⟨_, _, _, recorded, member, _⟩ := behind
          exact withLedger_eq (ledger_of_mem_versions member)
        rw [unchanged]
        exact .refused failure (.inr behind)
    · apply keeps_applyPending ordered
      · intro migration member missing
        rw [List.mem_insertionSort] at missing
        apply Int.not_lt.mp
        intro below
        exact behind ⟨migration, member, missing, (lt_highest (natural migration member)).mp below⟩
      · intro done later left split ran
        rw [notYet_sorted] at split
        exact .inr ⟨known', behind, done, later, split, ran⟩
      · intro left ran
        rw [notYet_sorted] at ran ⊢
        exact .finished known' behind ran
      · intro done migration later left failure split ran failed
        rw [notYet_sorted] at split
        exact .failed failure known' behind split ran failed
  apply Action.keeps_bind.mpr
  apply keeps_recordedVersions here
  · intro missing
    apply loops
    rintro ⟨version, member, _⟩
    have ledger := ledger_of_mem_versions member
    rw [missing] at ledger
    cases ledger
  · intro ledger
    apply Action.keeps_bind.mpr
    apply keeps_requireKnownSchema
    · intro all
      apply loops
      rintro ⟨version, member, unknown⟩
      exact unknown (all version ((List.mem_insertionSort _).mpr member))
    · intro unknown failure
      apply Ended.refused failure (.inl _)
      by_contra none
      apply unknown
      intro version member
      by_contra missing
      exact none ⟨version, (List.mem_insertionSort _).mp member, missing⟩

/-! ## Running it again -/

/-- The migrations applied one after another, until one fails. -/
def settle (runs : String → S → Except String S) (readText : String → Except String String) :
    List Migration → Database S → Database S
  | [], db => db
  | migration :: rest, db =>
      match advance runs readText db migration with
      | none => db
      | some next => settle runs readText rest next

theorem settle_append {done later : List Migration}
    (ran : done.foldlM (advance runs readText) db = some left) :
    settle runs readText (done ++ later) db = settle runs readText later left := by
  induction done generalizing db with
  | nil =>
      cases ran
      rfl
  | cons migration done ih =>
      rw [List.foldlM_cons] at ran
      obtain ⟨next, advanced, ran⟩ := Option.bind_eq_some_iff.mp ran
      rw [List.cons_append, settle, advanced]
      exact ih ran

theorem Ended.refused_eq {outcome : Except MigrationFailure (List Int)}
    (ended : Ended runs readText known db outcome left)
    (cause : Unknown known db ∨ Behind known db) :
    left = db ∧ ∃ failure, outcome = .error failure := by
  cases ended with
  | refused failure _ => exact ⟨rfl, failure, rfl⟩
  | finished known' ahead ran => exact absurd cause (not_or.mpr ⟨known', ahead⟩)
  | failed failure known' ahead split ran failed => exact absurd cause (not_or.mpr ⟨known', ahead⟩)

theorem Ended.settled {outcome : Except MigrationFailure (List Int)}
    (ended : Ended runs readText known db outcome left) (known' : ¬ Unknown known db)
    (ahead : ¬ Behind known db) :
    left = settle runs readText (pending known db) db.withLedger := by
  cases ended with
  | refused failure cause => exact absurd cause (not_or.mpr ⟨known', ahead⟩)
  | finished _ _ ran =>
      have settled : settle runs readText (pending known db ++ []) _ = _ := settle_append ran
      rw [List.append_nil] at settled
      exact settled.symm
  | failed failure _ _ split ran failed =>
      rw [split, settle_append ran, settle, failed]

/-- Two runs from one database leave the same. -/
theorem Ended.unique {outcome outcome' : Except MigrationFailure (List Int)}
    {left' : Database S} (ended : Ended runs readText known db outcome left)
    (ended' : Ended runs readText known db outcome' left') : left = left' := by
  by_cases cause : Unknown known db ∨ Behind known db
  · rw [(ended.refused_eq cause).1, (ended'.refused_eq cause).1]
  · obtain ⟨known', ahead⟩ := not_or.mp cause
    rw [ended.settled known' ahead, ended'.settled known' ahead]

section Rerun

variable {done later : List Migration} {outcome : Except MigrationFailure (List Int)}
  (ordered : known.Pairwise fun earlier later => earlier.version < later.version)
  (split : pending known db = done ++ later)
  (ran : done.foldlM (advance runs readText) db.withLedger = some left)

include ran in
theorem versions_after : left.versions = db.versions ++ done.map Migration.version := by
  unfold Database.versions
  rw [(applied_of_foldlM ran).recorded, rows_withLedger, List.map_append, List.map_map]
  rfl

include ordered split in
theorem done_before_later : ∀ earlier ∈ done, ∀ migration ∈ later,
    earlier.version < migration.version := by
  have sorted : (pending known db).Pairwise fun earlier later =>
    earlier.version < later.version := ordered.filter _
  rw [split] at sorted
  exact (List.pairwise_append.mp sorted).2.2

include ordered split ran in
/-- What is left to do is what the interrupted run had left. -/
theorem pending_after : pending known left = later := by
  have filtered : pending known left =
      (pending known db).filter fun migration =>
        migration.version ∉ done.map Migration.version := by
    unfold pending notYet
    rw [List.filter_filter]
    apply List.filter_congr
    intro migration _
    rw [versions_after ran, Bool.eq_iff_iff]
    simp only [List.mem_append, not_or, decide_eq_true_eq, Bool.and_eq_true]
    exact and_comm
  rw [filtered, split, List.filter_append]
  have gone : done.filter (fun migration =>
      migration.version ∉ done.map Migration.version) = [] := by
    apply List.filter_eq_nil_iff.mpr
    intro migration member
    have recorded : migration.version ∈ done.map Migration.version :=
      List.mem_map_of_mem member
    simpa using recorded
  have kept : later.filter (fun migration =>
      migration.version ∉ done.map Migration.version) = later := by
    apply List.filter_eq_self.mpr
    intro migration member
    apply decide_eq_true
    intro recorded
    obtain ⟨earlier, early, same⟩ := List.mem_map.mp recorded
    exact absurd same (ne_of_lt (done_before_later ordered split earlier early migration member))
  rw [gone, kept, List.nil_append]

include ordered split ran in
theorem rerun_allowed (known' : ¬ Unknown known db) (ahead : ¬ Behind known db) :
    ¬ Unknown known left ∧ ¬ Behind known left := by
  have versions := versions_after ran
  have wasPending : ∀ migration ∈ done ++ later, migration ∈ known := by
    intro migration member
    rw [← split] at member
    exact (List.mem_filter.mp member).1
  constructor
  · rintro ⟨version, member, unknown⟩
    rw [versions] at member
    rcases List.mem_append.mp member with before | during
    · exact known' ⟨version, before, unknown⟩
    · obtain ⟨migration, applied, isVersion⟩ := List.mem_map.mp during
      apply unknown
      rw [← isVersion]
      exact List.mem_map_of_mem (wasPending migration (List.mem_append_left _ applied))
  · rintro ⟨migration, member, missing, recorded, isRecorded, below⟩
    have isLater : migration ∈ later := by
      rw [← pending_after ordered split ran]
      exact List.mem_filter.mpr ⟨member, decide_eq_true missing⟩
    rw [versions] at missing isRecorded
    rcases List.mem_append.mp isRecorded with before | during
    · apply ahead
      refine ⟨migration, member, ?_, recorded, before, below⟩
      intro already
      exact missing (List.mem_append_left _ already)
    · obtain ⟨earlier, applied, isVersion⟩ := List.mem_map.mp during
      have above := done_before_later ordered split earlier applied migration isLater
      rw [isVersion] at above
      exact absurd above (not_lt_of_gt below)

end Rerun

/-- A run that takes up an interrupted one leaves what that one would have left. -/
theorem Progress.resumed {outcome outcome' : Except MigrationFailure (List Int)}
    {final final' : Database S}
    (ordered : known.Pairwise fun earlier later => earlier.version < later.version)
    (progress : Progress runs readText known db left)
    (ended : Ended runs readText known db outcome final)
    (resumed : Ended runs readText known left outcome' final') : final' = final := by
  rcases progress with rfl | ⟨known', ahead, done, later, split, ran⟩
  · exact resumed.unique ended
  · obtain ⟨known'', ahead''⟩ := rerun_allowed ordered split ran known' ahead
    have ledger : left.ledger.isSome = true := ledger_of_foldlM rfl ran
    rw [resumed.settled known'' ahead'', ended.settled known' ahead, split, settle_append ran,
      pending_after ordered split ran, withLedger_eq ledger]

/-- A run to its end: what it leaves, and the versions it applied or the error it raised. -/
def run (runs : String → S → Except String S) (readText : String → Except String String)
    (available : Except MigrationFailure (List Migration)) (db : Database S) :
    Database S × Except MigrationFailure (List Int) :=
  let ended := (migrate readText available ()).exec (sqlite runs) db
  (ended.1, ended.2.1)

/-- A run that is interrupted at some moment may leave this. -/
def Interrupted (runs : String → S → Except String S) (readText : String → Except String String)
    (available : Except MigrationFailure (List Migration)) (db left : Database S) : Prop :=
  (migrate readText available ()).Crash (sqlite runs) db left

theorem ended_run (ordered : known.Pairwise fun earlier later => earlier.version < later.version)
    (natural : ∀ migration ∈ known, 0 ≤ migration.version) :
    Ended runs readText known db (run runs readText (.ok known) db).2
      (run runs readText (.ok known) db).1 :=
  Program.Keeps.exec (keeps_migrate ordered natural)

theorem Interrupted.progress
    (ordered : known.Pairwise fun earlier later => earlier.version < later.version)
    (natural : ∀ migration ∈ known, 0 ≤ migration.version)
    (interrupted : Interrupted runs readText (.ok known) db left) :
    Progress runs readText known db left := by
  apply Program.Keeps.crash (keeps_migrate ordered natural) _ interrupted
  rintro state ⟨outcome, memory⟩ ended
  by_cases cause : Unknown known db ∨ Behind known db
  · exact .inl (ended.refused_eq cause).1
  · obtain ⟨known', ahead⟩ := not_or.mp cause
    cases ended with
    | refused failure cause' => exact absurd cause' cause
    | finished _ _ ran =>
        exact .inr ⟨known', ahead, _, [], (List.append_nil _).symm, ran⟩
    | failed failure _ _ split ran failed => exact .inr ⟨known', ahead, _, _, split, ran⟩

/-- However often a run is interrupted, the one that is not leaves the same. -/
theorem run_of_interrupted
    (ordered : known.Pairwise fun earlier later => earlier.version < later.version)
    (natural : ∀ migration ∈ known, 0 ≤ migration.version)
    (interrupted : Relation.ReflTransGen (Interrupted runs readText (.ok known)) db left) :
    (run runs readText (.ok known) left).1 = (run runs readText (.ok known) db).1 := by
  induction interrupted with
  | refl => rfl
  | tail earlier last ih =>
      rw [← ih]
      exact (last.progress ordered natural).resumed ordered (ended_run ordered natural)
        (ended_run ordered natural)

theorem count_versions {version : Int} :
    db.versions.count version = if version ∈ db.versions then 1 else 0 := by
  have once : db.versions.Nodup := by
    unfold Database.versions Database.rows
    cases db.ledger with
    | none => exact List.nodup_nil
    | some ledger => exact ledger.once
  split_ifs with recorded
  · exact List.count_eq_one_of_mem once recorded
  · exact List.count_eq_zero_of_not_mem recorded

theorem applied_of_pending {done : List Migration}
    (ran : done.foldlM (advance runs readText) db.withLedger = some left) :
    Applied runs readText db done left := by
  obtain ⟨recorded, applied⟩ := applied_of_foldlM ran
  rw [rows_withLedger] at recorded
  exact ⟨recorded, applied⟩

theorem Ended.ordered_prefix {outcome : Except MigrationFailure (List Int)}
    (ended : Ended runs readText known db outcome left) (known' : ¬ Unknown known db)
    (ahead : ¬ Behind known db) :
    ∃ done later, pending known db = done ++ later ∧ Applied runs readText db done left := by
  cases ended with
  | refused failure cause => exact absurd cause (not_or.mpr ⟨known', ahead⟩)
  | finished _ _ ran => exact ⟨_, [], (List.append_nil _).symm, applied_of_pending ran⟩
  | failed failure _ _ split ran failed => exact ⟨_, _, split, applied_of_pending ran⟩

theorem Ended.returned {versions : List Int}
    (ended : Ended runs readText known db (.ok versions) left) :
    versions = (pending known db).map Migration.version ∧
      Applied runs readText db (pending known db) left ∧
      ∀ version, left.versions.count version =
        if version ∈ known.map Migration.version then 1 else 0 := by
  cases ended with
  | finished known' ahead ran =>
      refine ⟨rfl, applied_of_pending ran, ?_⟩
      intro version
      have recorded : version ∈ left.versions ↔ version ∈ known.map Migration.version := by
        rw [versions_after ran]
        constructor
        · intro recorded
          rcases List.mem_append.mp recorded with before | during
          · by_contra unknown
            exact known' ⟨version, before, unknown⟩
          · obtain ⟨migration, member, isVersion⟩ := List.mem_map.mp during
            rw [← isVersion]
            exact List.mem_map_of_mem (List.mem_filter.mp member).1
        · intro isVersion
          obtain ⟨migration, member, isVersion⟩ := List.mem_map.mp isVersion
          rw [← isVersion]
          by_cases recorded : migration.version ∈ db.versions
          · exact List.mem_append_left _ recorded
          · apply List.mem_append_right
            exact List.mem_map_of_mem (List.mem_filter.mpr ⟨member, decide_eq_true recorded⟩)
      simp only [count_versions, recorded]

/-- `migrate` refuses a ledger with a version that is not known, and a pending version below an
applied one, before it applies anything; otherwise it applies and records some of what is pending,
in order, from the lowest version on.  When it returns that is all of it, and every known version
is recorded once.  Interrupted at any moment, any number of times, and run again, it leaves what
it would have left without. -/
theorem migrations_apply_as_ordered_prefix (decimal? : Char → Option Nat)
    (runs : String → S → Except String S) (readText : String → Except String String)
    (directory : List String) (db : Database S) :
    let available := availableMigrations decimal? directory
    let final := (run runs readText available db).1
    let outcome := (run runs readText available db).2
    (∀ failure, available = .error failure → final = db ∧ outcome = .error failure) ∧
    (∀ known, available = .ok known →
      (Unknown known db ∨ Behind known db → final = db ∧ ∃ failure, outcome = .error failure) ∧
      (pending known db).Pairwise (fun earlier later => earlier.version < later.version) ∧
      (¬ Unknown known db → ¬ Behind known db → ∃ done later, pending known db = done ++ later ∧
        Applied runs readText db done final) ∧
      (∀ versions, outcome = .ok versions →
        versions = (pending known db).map Migration.version ∧
        Applied runs readText db (pending known db) final ∧
        ∀ version, final.versions.count version =
          if version ∈ known.map Migration.version then 1 else 0)) ∧
    ∀ left, Relation.ReflTransGen (Interrupted runs readText available) db left →
      (run runs readText available left).1 = final := by
  intro available final outcome
  refine ⟨?_, ?_, ?_⟩
  · intro failure unavailable
    simp only [final, outcome, unavailable]
    exact ⟨rfl, rfl⟩
  · intro known isKnown
    obtain ⟨ordered, natural⟩ := ordered_of_available isKnown
    have ended : Ended runs readText known db outcome final := by
      simp only [final, outcome, isKnown]
      exact ended_run ordered natural
    refine ⟨ended.refused_eq, ordered.filter _, ended.ordered_prefix, ?_⟩
    intro versions returned
    rw [returned] at ended
    exact ended.returned
  · intro left interrupted
    cases isKnown : available with
    | error failure =>
        have unchanged : left = db := by
          simp only [isKnown] at interrupted
          induction interrupted with
          | refl => rfl
          | tail earlier last ih =>
              cases last
              exact ih
        rw [unchanged, ← isKnown]
    | ok known =>
        obtain ⟨ordered, natural⟩ := ordered_of_available isKnown
        simp only [final, isKnown] at interrupted ⊢
        exact run_of_interrupted ordered natural interrupted

namespace Sample

def decimal? (letter : Char) : Option Nat :=
  if letter.isDigit then some (letter.toNat - '0'.toNat) else none

def directory : List String := ["002_events.sql", "README.md", "001_core.sql"]

def texts (path : String) : Except String String := .ok ("CREATE TABLE " ++ path)

/-- The scripts run so far stand for the tables. -/
def scripts (sql : String) (schema : List String) : Except String (List String) :=
  .ok (schema ++ [sql])

def core : Migration := ⟨1, "core", "001_core.sql"⟩

def events : Migration := ⟨2, "events", "002_events.sql"⟩

def fresh : Database (List String) := ⟨none, []⟩

/-- The first migration is applied and recorded. -/
def half : Database (List String) :=
  ⟨some ⟨[core.row], by decide⟩, ["CREATE TABLE 001_core.sql"]⟩

theorem available : availableMigrations decimal? directory = .ok [core, events] := by
  decide

end Sample

/-- A run interrupted between two migrations is taken up by the next one. -/
theorem migrations_apply_as_ordered_prefix_half :
    (run Sample.scripts Sample.texts (availableMigrations Sample.decimal? Sample.directory)
        Sample.half).1 =
      (run Sample.scripts Sample.texts (availableMigrations Sample.decimal? Sample.directory)
        Sample.fresh).1 ∧
    ∃ done later, pending [Sample.core, Sample.events] Sample.fresh = done ++ later ∧
      Applied Sample.scripts Sample.texts Sample.fresh done
        (run Sample.scripts Sample.texts (availableMigrations Sample.decimal? Sample.directory)
          Sample.fresh).1 := by
  obtain ⟨_, ordered, resumed⟩ := migrations_apply_as_ordered_prefix Sample.decimal? Sample.scripts
    Sample.texts Sample.directory Sample.fresh
  constructor
  · apply resumed
    apply Relation.ReflTransGen.single
    rw [Sample.available]
    exact .later (.later (.later (.later (.later (.here _ _)))))
  · apply (ordered _ Sample.available).2.2.1
    · rintro ⟨version, member, _⟩
      cases member
    · rintro ⟨_, _, _, recorded, member, _⟩
      cases member

end Xaytune.Storage.Migrations

import Mathlib.Data.List.Sort
import Mathlib.Data.String.Basic
import Xaytune.Library.Program

/-!
# Migrations

Numbered files are applied in order, each in one transaction with its row in the ledger.  A
database that has moved past a file, or records a version no file has, is refused before anything
is applied to it; a run that stops after any of its steps is taken up by the next one.
-/

namespace Xaytune.Storage.Migrations

open Xaytune.Library

structure Migration where
  version : Int
  name : String
  path : String
  deriving DecidableEq

inductive MigrationFailure where
  | malformedFilename (path : String)
  | claimedTwice (version : Int) (first second : String)
  | schemaTooNew (unknown : List Int) (newest : Int)
  | behind (path : String) (version highest : Int)
  | unreadable (path error : String)
  | failed (path error : String)
  | sqlite (error : String)
  deriving DecidableEq

/-! ## The files -/

section Files

-- The value of a decimal digit, in any script.
variable (decimal? : Char → Option Nat)

def nameLetter (letter : Char) : Bool :=
  ('a' ≤ letter && letter ≤ 'z') || ('0' ≤ letter && letter ≤ '9') || letter == '_'

/-- Three digits, an underscore, a lowercase name, then `.sql`. -/
def filename? (path : String) : Option (Int × String) :=
  match path.toList with
  | hundreds :: tens :: ones :: '_' :: rest => do
      let hundreds ← decimal? hundreds
      let tens ← decimal? tens
      let ones ← decimal? ones
      let name := rest.takeWhile nameLetter
      if name ≠ [] ∧ rest.dropWhile nameLetter = ".sql".toList then
        some (100 * hundreds + 10 * tens + ones, String.ofList name)
      else none
  | _ => none

/-- The migrations of the files, behind those found so far. -/
def collect : List String → List Migration → Except MigrationFailure (List Migration)
  | [], found => .ok found
  | path :: paths, found =>
      match filename? decimal? path with
      | none => .error (.malformedFilename path)
      | some (version, name) =>
          match found.find? (·.version = version) with
          | some other => .error (.claimedTwice version other.path path)
          | none => collect paths (found ++ [⟨version, name, path⟩])

def availableMigrations (directory : List String) : Except MigrationFailure (List Migration) := do
  let files := directory.filter fun path => ".sql".toList.isSuffixOf path.toList
  let found ← collect decimal? (files.insertionSort (· ≤ ·)) []
  return found.insertionSort fun first second => first.version ≤ second.version

end Files

/-! ## The database -/

structure LedgerRow where
  version : Int
  name : String

/-- The table `schema_migrations`; its key is the version. -/
structure Ledger where
  rows : List LedgerRow
  once : (rows.map LedgerRow.version).Nodup

def Ledger.empty : Ledger := ⟨[], List.nodup_nil⟩

def Ledger.insert (ledger : Ledger) (row : LedgerRow)
    (fresh : row.version ∉ ledger.rows.map LedgerRow.version) : Ledger where
  rows := ledger.rows ++ [row]
  once := by
    rw [List.map_append]
    apply ledger.once.append (List.nodup_singleton _)
    intro version recorded new
    exact fresh ((List.mem_singleton.mp new) ▸ recorded)

/-- A database: its ledger, where there is one, and all the rest. -/
structure Database (S : Type) where
  ledger : Option Ledger := none
  schema : S

variable {S : Type}

def Database.rows (db : Database S) : List LedgerRow :=
  match db.ledger with
  | some ledger => ledger.rows
  | none => []

def Database.versions (db : Database S) : List Int := db.rows.map LedgerRow.version

def Database.withLedger (db : Database S) : Database S :=
  { db with ledger := some (db.ledger.getD .empty) }

def Migration.row (migration : Migration) : LedgerRow := ⟨migration.version, migration.name⟩

inductive Statement where
  | ledgerExists
  | createLedger
  | selectVersions
  | executeScript (sql : String) (migration : Migration)

@[reducible]
def Statement.Answer : Statement → Type
  | .ledgerExists => Bool
  | .createLedger => Unit
  | .selectVersions => List Int
  | .executeScript _ _ => Unit

-- What a script makes of a database's tables, unless it fails.
variable (runs : String → S → Except String S)

/-- The script and its ledger row, in one transaction. -/
def Database.execute (db : Database S) (sql : String) (migration : Migration) :
    Except String (Database S) :=
  match runs sql db.schema with
  | .error error => .error error
  | .ok schema =>
      match db.ledger with
      | none => .error "no such table: schema_migrations"
      | some ledger =>
          if fresh : migration.version ∉ ledger.rows.map LedgerRow.version then
            .ok ⟨some (ledger.insert migration.row fresh), schema⟩
          else .error "UNIQUE constraint failed: schema_migrations.version"

def Database.perform (db : Database S) :
    (statement : Statement) → Database S × Except MigrationFailure statement.Answer
  | .ledgerExists => (db, .ok db.ledger.isSome)
  | .createLedger => (db.withLedger, .ok ())
  | .selectVersions =>
      match db.ledger with
      | none => (db, .error (.sqlite "no such table: schema_migrations"))
      | some ledger => (db, .ok ((ledger.rows.map LedgerRow.version).insertionSort (· ≤ ·)))
  | .executeScript sql migration =>
      match db.execute runs sql migration with
      | .error error => (db, .error (.sqlite error))
      | .ok written => (written, .ok ())

/-- A statement that is interrupted has taken effect as a whole, or not at all. -/
def sqlite : Machine Statement Statement.Answer MigrationFailure (Database S) where
  perform := Database.perform runs
  torn db statement left := left = db ∨ left = (db.perform runs statement).1

/-! ## Migrating -/

abbrev Migrating (α : Type) : Type := Action Statement Statement.Answer MigrationFailure Unit α

def ledgerExists : Migrating Bool := Action.ask Statement.ledgerExists

def ensureLedger : Migrating Unit := Action.ask Statement.createLedger

def selectVersions : Migrating (List Int) := Action.ask Statement.selectVersions

def recordedVersions : Migrating (Option (List Int)) := do
  if ← ledgerExists then
    let versions ← selectVersions
    return some versions
  else return none

def appliedVersions : Migrating (List Int) := do
  ensureLedger
  selectVersions

/-- The versions recorded that no file has. -/
def unknownVersions (recorded : List Int) (known : List Migration) : List Int :=
  (recorded.filter fun version => version ∉ known.map Migration.version).insertionSort (· ≤ ·)

def requireKnownSchema (recorded : List Int) (known : List Migration) : Migrating Unit :=
  match unknownVersions recorded known with
  | [] => return ()
  | unknown => throw (.schemaTooNew unknown (((known.map Migration.version).max?).getD 0))

-- The text of a migration's file.
variable (readText : String → Except String String)

def applyMigration (migration : Migration) : Migrating Unit :=
  match readText migration.path with
  | .error error => throw (.unreadable migration.path error)
  | .ok sql => tryCatch (Action.ask (Statement.executeScript sql migration)) fun
      | .sqlite error => throw (.failed migration.path error)
      | failure => throw failure

/-- The loop of `migrate`; `highest` is the running maximum. -/
def applyPending (already : List Int) : Int → List Migration → Migrating (List Int)
  | _, [] => return []
  | highest, migration :: rest =>
      if migration.version ∈ already then applyPending already highest rest
      else if migration.version < highest then
        throw (.behind migration.path migration.version highest)
      else do
        applyMigration readText migration
        let applied ← applyPending already migration.version rest
        return migration.version :: applied

/-- `migrate`, given what `available_migrations` returns or raises. -/
def migrate (available : Except MigrationFailure (List Migration)) : Migrating (List Int) :=
  match available with
  | .error failure => throw failure
  | .ok known => do
      if let some recorded ← recordedVersions then
        requireKnownSchema recorded known
      ensureLedger
      let already ← appliedVersions
      applyPending readText already (already.max?.getD 0) known

/-! ## What is found on disk -/

section Found

variable {decimal? : Char → Option Nat} {paths directory : List String}
  {found known : List Migration}

theorem filename?_nonneg {path name : String} {version : Int}
    (parsed : filename? decimal? path = some (version, name)) : 0 ≤ version := by
  unfold filename? at parsed
  split at parsed
  · simp only [Option.bind_eq_bind, Option.bind_eq_some_iff] at parsed
    obtain ⟨hundreds, _, tens, _, ones, _, whole⟩ := parsed
    split at whole
    · cases whole
      omega
    · cases whole
  · cases parsed

/-- No two migrations of one list have the same version, and none is negative. -/
def Numbered (migrations : List Migration) : Prop :=
  (migrations.map Migration.version).Nodup ∧ ∀ migration ∈ migrations, 0 ≤ migration.version

theorem numbered_of_collect (numbered : Numbered found)
    (collected : collect decimal? paths found = .ok known) : Numbered known := by
  induction paths generalizing found with
  | nil =>
      cases collected
      exact numbered
  | cons path paths ih =>
      rw [collect] at collected
      cases parsed : filename? decimal? path with
      | none =>
          rw [parsed] at collected
          cases collected
      | some name =>
          obtain ⟨version, name⟩ := name
          rw [parsed] at collected
          cases claimed : found.find? fun migration => migration.version = version with
          | some other =>
              simp only [claimed] at collected
              cases collected
          | none =>
              simp only [claimed] at collected
              apply ih _ collected
              constructor
              · rw [List.map_append]
                apply numbered.1.append (List.nodup_singleton _)
                intro other earlier new
                obtain ⟨migration, member, same⟩ := List.mem_map.mp earlier
                have differs := List.find?_eq_none.mp claimed migration member
                exact differs (decide_eq_true (same.trans (List.mem_singleton.mp new)))
              · intro migration member
                rcases List.mem_append.mp member with earlier | new
                · exact numbered.2 migration earlier
                · rw [List.mem_singleton.mp new]
                  exact filename?_nonneg parsed

/-- The migrations on disk are in the order of their versions. -/
theorem ordered_of_available (available : availableMigrations decimal? directory = .ok known) :
    known.Pairwise (fun earlier later => earlier.version < later.version) ∧
      ∀ migration ∈ known, 0 ≤ migration.version := by
  unfold availableMigrations at available
  cases collected : collect decimal? ((directory.filter fun path =>
      ".sql".toList.isSuffixOf path.toList).insertionSort (· ≤ ·)) [] with
  | error failure =>
      simp only [collected] at available
      cases available
  | ok found =>
      simp only [collected] at available
      cases available
      have numbered : Numbered found :=
        numbered_of_collect ⟨by simp, by simp⟩ collected
      have total : Std.Total fun first second : Migration => first.version ≤ second.version :=
        ⟨fun first second => le_total first.version second.version⟩
      have trans : IsTrans Migration fun first second => first.version ≤ second.version :=
        ⟨fun _ _ _ => le_trans⟩
      have ordered := List.pairwise_insertionSort
        (fun first second : Migration => first.version ≤ second.version) found
      have once : ((found.insertionSort fun first second =>
          first.version ≤ second.version).map Migration.version).Nodup :=
        ((List.perm_insertionSort _ _).map _).nodup_iff.mpr numbered.1
      constructor
      · apply (ordered.and (List.pairwise_map.mp once)).imp
        rintro earlier later ⟨notAfter, differs⟩
        exact lt_of_le_of_ne notAfter differs
      · intro migration member
        exact numbered.2 migration ((List.mem_insertionSort _).mp member)

end Found

end Xaytune.Storage.Migrations

import Mathlib.Data.List.Basic
import Mathlib.Tactic.Linarith
import Stophammer.Relational.Statement

/-!
# Schema migrations

The migrations that `try_open_db` runs on a database: each pending script in its own
transaction with the record of its version, with foreign keys off where its first line
says so.  What a script does to the tables is a function of the script, and the calls
that can fail for reasons of their own (the begin, the check, the record, the commit)
are functions of the environment of the run.
-/

namespace Stophammer

open Relational Statement

def foreignKeysOffMarker : String := "-- stophammer: foreign_keys=off"

/-- `sql.lines().next()`: the text before the first line feed, without the carriage
return of that line end.  An empty text has no line. -/
def firstLine (sql : String) : Option String :=
  match sql.toList with
  | [] => none
  | c :: cs =>
    match (c :: cs).span (· ≠ '\n') with
    | (line, []) => some (String.ofList line)
    | (line, _ :: _) =>
      some (String.ofList (if line.getLast? = some '\r' then line.dropLast else line))

inductive MigrationError (ε : Type) where
  | rusqlite (e : ε)
  | other (message : String)
deriving DecidableEq

/-- A script of `MIGRATIONS`: its text, and what it does to the tables beside
`schema_migrations`, with foreign keys enforced or not. -/
structure MigrationScript (ε σ : Type) where
  sql : String
  executeBatch : Bool → σ → Except ε σ

structure SchemaMigrationsRow where
  version : Int
  appliedAt : Int
deriving DecidableEq

/-- A database file.  `schemaMigrations` is `none` before the first run creates it. -/
structure MigratedDb (σ : Type) where
  tables : σ
  schemaMigrations : Option (List SchemaMigrationsRow)
deriving DecidableEq

structure Connection (σ : Type) where
  db : MigratedDb σ
  foreignKeys : Bool
deriving DecidableEq

/-- What a run meets: the clock, the answer of `PRAGMA foreign_key_check`, the errors of
the begin, the version record and the commit of each version, and the error for a version
that a row already has. -/
structure MigrationEnv (ε σ : Type) where
  unixNow : Int → Int
  foreignKeyCheck : σ → Except ε Bool
  begins : Int → Option ε
  records : Int → Option ε
  commits : Int → Option ε
  versionTaken : ε

variable {ε σ : Type}

def MigrationScript.needsForeignKeysOff (s : MigrationScript ε σ) : Bool :=
  firstLine s.sql == some foreignKeysOffMarker

namespace MigratedDb

def rows (d : MigratedDb σ) : List SchemaMigrationsRow := d.schemaMigrations.getD []

/-- `COALESCE(MAX(version), 0)`. -/
def currentVersion (d : MigratedDb σ) : Int := ((d.rows.map (·.version)).max?).getD 0

/-- `CREATE TABLE IF NOT EXISTS schema_migrations`. -/
def createTracker (d : MigratedDb σ) : MigratedDb σ :=
  { d with schemaMigrations := some d.rows }

end MigratedDb

abbrev MigrationStatement (ε σ α : Type) : Type :=
  Statement (MigrationError ε) (Connection σ) α

namespace Connection

/-- A connection as `try_open_db` opens it. -/
def openDb (d : MigratedDb σ) : Connection σ := ⟨d, true⟩

def setForeignKeys (on : Bool) : MigrationStatement ε σ Unit := fun conn =>
  (.ok (), { conn with foreignKeys := on })

def createTracker : MigrationStatement ε σ Unit := fun conn =>
  (.ok (), { conn with db := conn.db.createTracker })

/-- A call that changes nothing and can fail. -/
def call (failure : Option ε) : MigrationStatement ε σ Unit :=
  match failure with
  | some e => fail (.rusqlite e)
  | none => pure ()

def executeBatch (s : MigrationScript ε σ) : MigrationStatement ε σ Unit := fun conn =>
  match s.executeBatch conn.foreignKeys conn.db.tables with
  | .ok tables => (.ok (), { conn with db := { conn.db with tables := tables } })
  | .error e => (.error (.rusqlite e), conn)

/-- `INSERT INTO schema_migrations`, whose primary key is the version. -/
def insertVersion (taken : ε) (row : SchemaMigrationsRow) : MigrationStatement ε σ Unit :=
  fun conn =>
    if row.version ∈ conn.db.rows.map (·.version) then (.error (.rusqlite taken), conn)
    else (.ok (), { conn with
      db := { conn.db with schemaMigrations := some (conn.db.rows ++ [row]) } })

end Connection

open Connection

def checkForeignKeys (env : MigrationEnv ε σ) (version : Int) :
    MigrationStatement ε σ Unit := fun conn =>
  match env.foreignKeyCheck conn.db.tables with
  | .error e => (.error (.rusqlite e), conn)
  | .ok true => (.error (.other ("migration " ++ toString version ++
      " left a foreign key violation with foreign keys off; rolled back")), conn)
  | .ok false => (.ok (), conn)

/-- The transaction of `run_one_migration`.  An error of any call rolls it back. -/
def runOneMigration (env : MigrationEnv ε σ) (s : MigrationScript ε σ) (version : Int)
    (needsForeignKeysOff : Bool) : MigrationStatement ε σ Unit :=
  transaction do
    call (env.begins version)
    executeBatch s
    if needsForeignKeysOff then checkForeignKeys env version else pure ()
    call (env.records version)
    insertVersion env.versionTaken ⟨version, env.unixNow version⟩
    call (env.commits version)

/-- One turn of the loop for a version that the database does not record. -/
def migrateOne (env : MigrationEnv ε σ) (s : MigrationScript ε σ) (version : Int) :
    MigrationStatement ε σ Unit := do
  if s.needsForeignKeysOff then setForeignKeys false else pure ()
  let result ← attempt (runOneMigration env s version s.needsForeignKeysOff)
  if s.needsForeignKeysOff then setForeignKeys true else pure ()
  match result with
  | .ok () => pure ()
  | .error e => fail e

/-- The loop over the scripts from array position `idx`. -/
def migrateFrom (env : MigrationEnv ε σ) (current : Int) :
    Nat → List (MigrationScript ε σ) → MigrationStatement ε σ Unit
  | _, [] => pure ()
  | idx, s :: rest => do
    let version : Int := idx + 1
    if version ≤ current then pure () else migrateOne env s version
    migrateFrom env current (idx + 1) rest

/-- `run_migrations`.  A recorded version above the number of scripts is only logged. -/
def runMigrations (env : MigrationEnv ε σ) (scripts : List (MigrationScript ε σ)) :
    MigrationStatement ε σ Unit := do
  createTracker
  let current ← Statement.read (·.db.currentVersion)
  migrateFrom env current 0 scripts

/-- A script with its version: what `run_one_migration` makes of the tables, as one step. -/
def complete (env : MigrationEnv ε σ) (version : Int) (s : MigrationScript ε σ) (tables : σ) :
    Except (MigrationError ε) σ :=
  match env.begins version, s.executeBatch (!s.needsForeignKeysOff) tables with
  | some e, _ => .error (.rusqlite e)
  | none, .error e => .error (.rusqlite e)
  | none, .ok after =>
    match s.needsForeignKeysOff, env.foreignKeyCheck after with
    | true, .error e => .error (.rusqlite e)
    | true, .ok true => .error (.other ("migration " ++ toString version ++
        " left a foreign key violation with foreign keys off; rolled back"))
    | _, _ =>
      match env.records version, env.commits version with
      | some e, _ => .error (.rusqlite e)
      | none, some e => .error (.rusqlite e)
      | none, none => .ok after

/-- The scripts with their versions that a database at `current` still waits for. -/
def pendingFrom (current : Int) : Nat → List (MigrationScript ε σ) →
    List (Int × MigrationScript ε σ)
  | _, [] => []
  | idx, s :: rest =>
    if (idx : Int) + 1 ≤ current then pendingFrom current (idx + 1) rest
    else ((idx : Int) + 1, s) :: pendingFrom current (idx + 1) rest

def MigratedDb.pending (d : MigratedDb σ) (scripts : List (MigrationScript ε σ)) :
    List (Int × MigrationScript ε σ) :=
  pendingFrom d.currentVersion 0 scripts

/-- Each migration once and in order, up to the first that fails. -/
def completeAll (env : MigrationEnv ε σ) :
    List (Int × MigrationScript ε σ) → σ → Except (MigrationError ε) σ
  | [], tables => .ok tables
  | (version, s) :: rest, tables =>
    match complete env version s tables with
    | .error e => .error e
    | .ok after => completeAll env rest after

/-- The database with the tables of a completed migration and its version. -/
def MigratedDb.recorded (d : MigratedDb σ) (row : SchemaMigrationsRow) (tables : σ) :
    MigratedDb σ where
  tables := tables
  schemaMigrations := some (d.rows ++ [row])

theorem runOneMigration_run (env : MigrationEnv ε σ) (s : MigrationScript ε σ) (version : Int)
    (d : MigratedDb σ) (hnew : version ∉ d.rows.map (·.version)) :
    runOneMigration env s version s.needsForeignKeysOff ⟨d, !s.needsForeignKeysOff⟩ =
      match complete env version s d.tables with
      | .ok tables => (.ok (), ⟨d.recorded ⟨version, env.unixNow version⟩ tables,
          !s.needsForeignKeysOff⟩)
      | .error e => (.error e, ⟨d, !s.needsForeignKeysOff⟩) := by
  have hinsert (tables : σ) (fk : Bool) :
      insertVersion env.versionTaken ⟨version, env.unixNow version⟩
          (⟨{ d with tables := tables }, fk⟩ : Connection σ) =
        (.ok (), ⟨d.recorded ⟨version, env.unixNow version⟩ tables, fk⟩) :=
    if_neg hnew
  rcases hb : env.begins version with _ | e
  · rcases hx : s.executeBatch (!s.needsForeignKeysOff) d.tables with e | after
    · simp [runOneMigration, transaction, call, executeBatch, complete, bind_run, pure_run, hb, hx]
    · rcases hoff : s.needsForeignKeysOff with _ | _
      · simp only [hoff, Bool.not_false] at hx
        rcases hr : env.records version with _ | e <;> rcases hc : env.commits version with _ | e'
        all_goals
          simp [runOneMigration, transaction, call, executeBatch, complete, bind_run, pure_run,
            fail, hinsert, hb, hx, hoff, hr, hc]
      · simp only [hoff, Bool.not_true] at hx
        rcases hk : env.foreignKeyCheck after with e | _ | _
        · simp [runOneMigration, transaction, call, executeBatch, complete, bind_run, pure_run,
            checkForeignKeys, hb, hx, hoff, hk]
        · rcases hr : env.records version with _ | e <;> rcases hc : env.commits version with _ | e'
          all_goals
            simp [runOneMigration, transaction, call, executeBatch, complete, bind_run, pure_run,
              checkForeignKeys, fail, hinsert, hb, hx, hoff, hk, hr, hc]
        · simp [runOneMigration, transaction, call, executeBatch, complete, bind_run, pure_run,
            checkForeignKeys, hb, hx, hoff, hk]
  · simp [runOneMigration, transaction, call, complete, bind_run, fail, hb]

/-- On a connection that enforces foreign keys, one migration ends with its tables and its
version or with the database as it was, and foreign keys are enforced in both cases. -/
theorem migrateOne_run (env : MigrationEnv ε σ) (s : MigrationScript ε σ) (version : Int)
    (d : MigratedDb σ) (hnew : version ∉ d.rows.map (·.version)) :
    migrateOne env s version (openDb d) =
      match complete env version s d.tables with
      | .ok tables => (.ok (), openDb (d.recorded ⟨version, env.unixNow version⟩ tables))
      | .error e => (.error e, openDb d) := by
  have hrun := runOneMigration_run env s version d hnew
  rcases hoff : s.needsForeignKeysOff with _ | _ <;>
    rcases hc : complete env version s d.tables with e | tables
  all_goals
    rw [hoff, hc] at hrun
    simp only [Bool.not_true, Bool.not_false] at hrun
    simp [migrateOne, bind_run, pure_run, attempt, setForeignKeys, openDb, fail, hoff, hrun]

theorem MigratedDb.version_le_current (d : MigratedDb σ) :
    ∀ v ∈ d.rows.map (·.version), v ≤ d.currentVersion := by
  intro v hv
  rcases hm : (d.rows.map (·.version)).max? with _ | m
  · rw [List.max?_eq_none_iff.mp hm] at hv
    cases hv
  · have hcurrent : d.currentVersion = m := by
      rw [currentVersion, hm, Option.getD_some]
    rw [hcurrent]
    exact (List.max?_eq_some_iff.mp hm).2 v hv

theorem MigratedDb.recorded_current (d : MigratedDb σ) {row : SchemaMigrationsRow} (tables : σ)
    (h : d.currentVersion < row.version) :
    (d.recorded row tables).currentVersion = row.version := by
  have hmax : ((d.rows ++ [row]).map (·.version)).max? = some row.version := by
    rw [List.max?_eq_some_iff]
    constructor
    · simp
    · intro v hv
      rw [List.map_append, List.mem_append] at hv
      rcases hv with hv | hv
      · exact le_trans (d.version_le_current v hv) h.le
      · simp only [List.map_cons, List.map_nil, List.mem_singleton] at hv
        exact hv.le
  change (((d.rows ++ [row]).map (·.version)).max?).getD 0 = row.version
  rw [hmax]
  rfl

theorem pendingFrom_past {current : Int} {idx : Nat} (scripts : List (MigrationScript ε σ))
    (h : current ≤ idx) {next : Int} (hnext : next ≤ idx) :
    pendingFrom current idx scripts = pendingFrom next idx scripts := by
  induction scripts generalizing idx with
  | nil => rfl
  | cons s rest ih =>
    have hc : ¬ (idx : Int) + 1 ≤ current := by omega
    have hn : ¬ (idx : Int) + 1 ≤ next := by omega
    have hrest : pendingFrom current (idx + 1) rest = pendingFrom next (idx + 1) rest :=
      ih (by push_cast; omega) (by push_cast; omega)
    rw [pendingFrom, pendingFrom, if_neg hc, if_neg hn, hrest]

theorem pendingFrom_done {current : Int} {idx : Nat} {s : MigrationScript ε σ}
    (rest : List (MigrationScript ε σ)) (h : (idx : Int) + 1 ≤ current) :
    pendingFrom current idx (s :: rest) = pendingFrom current (idx + 1) rest := if_pos h

theorem pendingFrom_next {current : Int} {idx : Nat} {s : MigrationScript ε σ}
    (rest : List (MigrationScript ε σ)) (h : ¬ (idx : Int) + 1 ≤ current) :
    pendingFrom current idx (s :: rest) =
      ((idx : Int) + 1, s) :: pendingFrom current (idx + 1) rest := if_neg h

/-- Where a run over `pending` from `d` ends: after the first `k` migrations, with their
versions recorded and the others still pending, either because no other is left or because
the next one fails. -/
structure StopsAfter (env : MigrationEnv ε σ) (d : MigratedDb σ)
    (pending : List (Int × MigrationScript ε σ)) (k : Nat) (d' : MigratedDb σ)
    (r : Except (MigrationError ε) Unit) : Prop where
  completed : completeAll env (pending.take k) d.tables = .ok d'.tables
  recorded : d'.schemaMigrations =
    some (d.rows ++ (pending.take k).map fun m => ⟨m.1, env.unixNow m.1⟩)
  stopped : k = pending.length ∧ r = .ok () ∨
    ∃ m e, pending[k]? = some m ∧ complete env m.1 m.2 d'.tables = .error e ∧ r = .error e

theorem migrateFrom_run (env : MigrationEnv ε σ) (current : Int)
    (scripts : List (MigrationScript ε σ)) (idx : Nat) (d : MigratedDb σ)
    (htracker : d.schemaMigrations = some d.rows) (hge : current ≤ d.currentVersion)
    (hle : d.currentVersion ≤ max current idx) :
    ∃ k d' r, migrateFrom env current idx scripts (openDb d) = (r, openDb d') ∧
      StopsAfter env d (pendingFrom current idx scripts) k d' r ∧
      pendingFrom d'.currentVersion idx scripts = (pendingFrom current idx scripts).drop k ∧
      d.currentVersion ≤ d'.currentVersion := by
  induction scripts generalizing idx d with
  | nil =>
    refine ⟨0, d, .ok (), rfl, ⟨rfl, ?_, Or.inl ⟨rfl, rfl⟩⟩, rfl, le_rfl⟩
    simpa [pendingFrom] using htracker
  | cons s rest ih =>
    by_cases hdone : (idx : Int) + 1 ≤ current
    · obtain ⟨k, d', r, hrun, hstop, hpending, hmono⟩ := ih (idx + 1) d htracker hge
        (by push_cast; omega)
      refine ⟨k, d', r, ?_, ?_, ?_, hmono⟩
      · rw [migrateFrom, if_pos hdone]
        exact hrun
      · rw [pendingFrom_done rest hdone]
        exact hstop
      · rw [pendingFrom_done rest hdone, pendingFrom_done rest (by omega)]
        exact hpending
    · have hnew : ((idx : Int) + 1) ∉ d.rows.map (·.version) := by
        intro hv
        have := d.version_le_current _ hv
        omega
      have hone := migrateOne_run env s ((idx : Int) + 1) d hnew
      rw [pendingFrom_next rest hdone]
      rcases hc : complete env ((idx : Int) + 1) s d.tables with e | tables
      · rw [hc] at hone
        refine ⟨0, d, .error e, ?_, ⟨rfl, ?_, Or.inr ⟨_, e, rfl, hc, rfl⟩⟩, ?_, le_rfl⟩
        · rw [migrateFrom, if_neg hdone]
          exact bind_run_error hone
        · simpa using htracker
        · rw [List.drop_zero, ← pendingFrom_next rest hdone]
          exact pendingFrom_past (s :: rest) (by omega) (by omega)
      · rw [hc] at hone
        have hcurrent : (d.recorded ⟨(idx : Int) + 1, env.unixNow ((idx : Int) + 1)⟩
            tables).currentVersion = (idx : Int) + 1 :=
          d.recorded_current tables (show d.currentVersion < (idx : Int) + 1 by omega)
        obtain ⟨k, d', r, hrun, ⟨hall, hrows, hend⟩, hpending, hmono⟩ :=
          ih (idx + 1) (d.recorded ⟨(idx : Int) + 1, env.unixNow ((idx : Int) + 1)⟩ tables) rfl
            (by omega) (by rw [hcurrent]; push_cast; omega)
        refine ⟨k + 1, d', r, ?_, ⟨?_, ?_, ?_⟩, ?_, by omega⟩
        · rw [migrateFrom, if_neg hdone]
          exact (bind_run_ok hone).trans hrun
        · rw [List.take_succ_cons, completeAll, hc]
          exact hall
        · rw [hrows, List.take_succ_cons, List.map_cons]
          simp [MigratedDb.recorded, MigratedDb.rows]
        · simpa using hend
        · rw [pendingFrom_done rest (by omega), List.drop_succ_cons]
          exact hpending

/-- The version the database records: `none` before the first run made the table. -/
def MigratedDb.recordedVersion (d : MigratedDb σ) : Option Int :=
  d.schemaMigrations.map fun _ => d.currentVersion

theorem migrateFrom_current (env : MigrationEnv ε σ) (current : Int)
    (scripts : List (MigrationScript ε σ)) (idx : Nat) (conn : Connection σ)
    (h : (idx : Int) + scripts.length ≤ current) :
    migrateFrom env current idx scripts conn = (.ok (), conn) := by
  induction scripts generalizing idx with
  | nil => rfl
  | cons s rest ih =>
    rw [List.length_cons] at h
    push_cast at h
    rw [migrateFrom, if_pos (by omega)]
    exact ih (idx + 1) (by push_cast; omega)

theorem runMigrations_current (env : MigrationEnv ε σ) (scripts : List (MigrationScript ε σ))
    (d : MigratedDb σ) (h : d.recordedVersion = some (scripts.length : Int)) :
    runMigrations env scripts (openDb d) = (.ok (), openDb d) := by
  obtain ⟨tables, _ | rows⟩ := d
  · cases h
  · have hcurrent : (⟨tables, some rows⟩ : MigratedDb σ).currentVersion = scripts.length :=
      Option.some.inj h
    have hall : ((0 : Nat) : Int) + scripts.length ≤
        (⟨tables, some rows⟩ : MigratedDb σ).currentVersion := by
      rw [hcurrent]
      simp
    exact migrateFrom_current env _ scripts 0 _ hall

/-- `run_migrations` runs each pending script once and in order, up to the first that
fails: the database is then as after the last successful one, foreign keys are enforced,
and a later run starts with the script that failed.  On a database that records every
version it changes nothing. -/
theorem runMigrations_stops (env : MigrationEnv ε σ) (scripts : List (MigrationScript ε σ))
    (d : MigratedDb σ) :
    (∃ k d' r, runMigrations env scripts (openDb d) = (r, openDb d') ∧
      StopsAfter env d (d.pending scripts) k d' r ∧
      d'.pending scripts = (d.pending scripts).drop k) ∧
    (d.recordedVersion = some (scripts.length : Int) →
      runMigrations env scripts (openDb d) = (.ok (), openDb d)) := by
  refine ⟨?_, runMigrations_current env scripts d⟩
  obtain ⟨k, d', r, hrun, hstop, hpending, -⟩ := migrateFrom_run env d.currentVersion scripts 0
    d.createTracker rfl le_rfl (le_max_left _ _)
  exact ⟨k, d', r, hrun, ⟨hstop.completed, hstop.recorded, hstop.stopped⟩, hpending⟩

/-- Two scripts that add a table each, the second with the marker. -/
def sampleScripts : List (MigrationScript String (List String)) :=
  [⟨"CREATE TABLE feeds", fun _ tables => .ok (tables ++ ["feeds"])⟩,
   ⟨"-- stophammer: foreign_keys=off\nCREATE TABLE tracks", fun _ tables =>
      if "feeds" ∈ tables then .ok (tables ++ ["tracks"]) else .error "no such table"⟩]

/-- A script with the marker that removes the table of the feeds. -/
def droppingScript : MigrationScript String (List String) :=
  ⟨"-- stophammer: foreign_keys=off\nDROP TABLE feeds", fun enforced tables =>
    if enforced then .error "FOREIGN KEY constraint failed" else .ok (tables.erase "feeds")⟩

/-- A track names a feed. -/
def sampleMigrationEnv : MigrationEnv String (List String) where
  unixNow version := 100 + version
  foreignKeyCheck tables := .ok (decide ("tracks" ∈ tables ∧ "feeds" ∉ tables))
  begins _ := none
  records _ := none
  commits _ := none
  versionTaken := "UNIQUE constraint failed"

def olderDb : MigratedDb (List String) := ⟨["feeds"], some [⟨1, 101⟩]⟩

def migratedDb : MigratedDb (List String) := ⟨["feeds", "tracks"], some [⟨1, 101⟩, ⟨2, 102⟩]⟩

def violation : MigrationError String :=
  .other "migration 3 left a foreign key violation with foreign keys off; rolled back"

theorem olderDb_run : runMigrations sampleMigrationEnv (sampleScripts ++ [droppingScript])
    (openDb olderDb) = (.error violation, openDb migratedDb) := by
  decide +kernel

theorem runMigrations_stops_sample :
    (StopsAfter sampleMigrationEnv olderDb (olderDb.pending (sampleScripts ++ [droppingScript])) 1
        migratedDb (.error violation) ∧
      migratedDb.pending (sampleScripts ++ [droppingScript]) =
        (olderDb.pending (sampleScripts ++ [droppingScript])).drop 1) ∧
      runMigrations sampleMigrationEnv sampleScripts (openDb migratedDb) =
        (.ok (), openDb migratedDb) := by
  obtain ⟨⟨k, d', r, hrun, hstop, hpending⟩, -⟩ :=
    runMigrations_stops sampleMigrationEnv (sampleScripts ++ [droppingScript]) olderDb
  rw [olderDb_run] at hrun
  obtain ⟨rfl, hconn⟩ := Prod.mk.inj hrun
  have hdb : migratedDb = d' := congrArg Connection.db hconn
  subst hdb
  have hk : k = 1 := by
    have hlength := congrArg (fun rows => (rows.getD []).length) hstop.recorded
    have hwaiting : (olderDb.pending (sampleScripts ++ [droppingScript])).length = 2 := by
      decide +kernel
    simp only [migratedDb, olderDb, MigratedDb.rows, Option.getD_some, List.length_append,
      List.length_map, List.length_take, List.length_cons, List.length_nil] at hlength hwaiting
    omega
  subst hk
  exact ⟨⟨hstop, hpending⟩,
    (runMigrations_stops sampleMigrationEnv sampleScripts migratedDb).2 (by decide)⟩

end Stophammer

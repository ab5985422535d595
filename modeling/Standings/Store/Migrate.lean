import Standings.Store.Database

/-! # Migrations

The schema of the ledgers is made by one migration. Before it runs, the record of the database is
looked through: no migration may be there in part, none that is not known, and a known one only
with the same text. A migration on record does not run again, so migrating twice is migrating
once. -/

namespace Standings

namespace Store

namespace Migration

/-- The migration that makes the tables of the ledgers. Its checksum is the SHA-384 of its text. -/
def ledgers : Migration :=
  { version := 1
    description := "ledgers"
    checksum := (Hex.decode?
      ("1ffb1ae7800aac1a042237da3e0223bd39bcee86f0906375"
        ++ "5ac03937142b6afb3b370875a593d0d32872d04e13e3ed7c").toList).getD [] }

/-- The migrations that the service knows, lowest number first. -/
def known : List Migration := [ledgers]

end Migration

namespace Database

/-- What speaks against a migration on record being there. -/
def recordFault? (record : AppliedMigration) : Option MigrationFault :=
  match Migration.known.find? (·.version = record.version) with
  | none => some (.missing record.version)
  | some _ => none

/-- What speaks against a migration that the record already has. -/
def textFault? (migration : Migration) (record : AppliedMigration) : Option MigrationFault :=
  if record.checksum = migration.checksum then none else some (.modified migration.version)

/-- What speaks against migrating a database with such a record, before any migration is looked
at. -/
def historyFault? (applied : List AppliedMigration) : Option MigrationFault :=
  -- A migration that has been applied in part outweighs one that is not known.
  ((applied.find? (!·.success)).map fun record => .dirty record.version).or
    (applied.findSome? recordFault?)

/-- Runs a migration and puts it on record, unless it is there. -/
def apply (database : Database) (migration : Migration) : Except Fault Database :=
  match database.applied.find? (·.version = migration.version) with
  | some record =>
    match textFault? migration record with
    | some cause => .error (.migration cause)
    | none => .ok database
  | none =>
    match database.migrationError with
    | some e => .error (.migration (.execution migration.version e))
    | none =>
      .ok { database with
        applied := database.applied ++ [⟨migration.version, migration.checksum, true⟩]
        recorded := database.recorded ++ [migration] }

/-- Brings the schema up to date. -/
def migrate (database : Database) : Except Fault Database :=
  match historyFault? database.applied with
  | some cause => .error (.migration cause)
  | none => Migration.known.foldlM apply database

end Database

end Store

end Standings

/-
# The file of a store

A store is kept in a file.  The file notes which version of the tables it holds; a file that was
never used notes version 0 and has no tables.  Opening a file makes the tables if they are missing
and leaves everything else as it is, so a store that is closed and opened again is the same store.
-/

import SoilWatch.Store.Basic

namespace SoilWatch
namespace Store

/-- A file: the version of its tables, and what they hold. -/
structure File where
  version : Nat
  tables : Store
  deriving DecidableEq

namespace File

/-- The version of the tables that this library makes. -/
def current : Nat := 1

/-- A file that was never used. -/
def unused : File := ⟨0, .empty⟩

/-- Makes the tables of a file that notes an earlier version. -/
def migrate (f : File) : File :=
  if f.version < current then ⟨current, .empty⟩ else f

/-- The store of a file. -/
def openStore (f : File) : Store :=
  f.migrate.tables

end File

/-- The file that a store leaves behind when it is closed. -/
def close (s : Store) : File :=
  ⟨File.current, s⟩

/-- Closes the store and opens its file again. -/
def reopen (s : Store) : Store :=
  s.close.openStore

/-- Migrating twice does no more than migrating once. -/
theorem File.migrate_migrate (f : File) : f.migrate.migrate = f.migrate := by
  unfold migrate
  split <;> simp [*]

@[simp] theorem File.openStore_unused : File.unused.openStore = Store.empty := rfl

/-- A store that is opened again is the same store. -/
@[simp] theorem reopen_eq (s : Store) : s.reopen = s := rfl

end Store
end SoilWatch

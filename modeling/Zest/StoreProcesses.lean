import Zest.UniqueRows

/-! # Processes on a store

Processes that share a store of rows.  Each is in a phase of its own and has a
transaction of its own; a step moves one of them on, and inserts a row, commits or
rolls back on the way.  What a step of one process does to the phases and to what is
seen of the store is said here once.
-/
namespace StoreProcesses

open UniqueRows

universe u v w x

variable {ι : Type u} {ρ : Type v} {φ : Type w}

/-- The store and the phase of each process. -/
structure Processes (ι : Type u) (ρ : Type v) (φ : Type w) where
  store : RowStore ι ρ
  phase : ι → φ

namespace Processes

variable [DecidableEq ι]

/-- A process moves on. -/
def goto (s : Processes ι ρ φ) (p : ι) (next : φ) : Processes ι ρ φ :=
  { s with phase := fun q => if q = p then next else s.phase q }

/-- A process moves on, with a row more. -/
def insert (s : Processes ι ρ φ) (p : ι) (row : ρ) (next : φ) : Processes ι ρ φ :=
  goto { s with store := s.store.insert p row } p next

/-- A process moves on, and its transaction is undone. -/
def rollback (s : Processes ι ρ φ) (p : ι) (next : φ) : Processes ι ρ φ :=
  goto { s with store := s.store.rollback p } p next

/-- A process moves on, and what it has written is there for all. -/
def commit (s : Processes ι ρ φ) (p : ι) (next : φ) : Processes ι ρ φ :=
  goto { s with store := s.store.commit p } p next

variable (s : Processes ι ρ φ) {p q : ι} (row : ρ) (next : φ)

@[simp] theorem goto_store : (s.goto p next).store = s.store := rfl

@[simp] theorem insert_store : (s.insert p row next).store = s.store.insert p row := rfl

@[simp] theorem rollback_store : (s.rollback p next).store = s.store.rollback p := rfl

@[simp] theorem commit_store : (s.commit p next).store = s.store.commit p := rfl

@[simp] theorem goto_phase_self : (s.goto p next).phase p = next := if_pos rfl

@[simp] theorem insert_phase_self : (s.insert p row next).phase p = next := if_pos rfl

@[simp] theorem rollback_phase_self : (s.rollback p next).phase p = next := if_pos rfl

@[simp] theorem commit_phase_self : (s.commit p next).phase p = next := if_pos rfl

theorem goto_phase_ne (h : q ≠ p) : (s.goto p next).phase q = s.phase q := if_neg h

theorem insert_phase_ne (h : q ≠ p) : (s.insert p row next).phase q = s.phase q := if_neg h

theorem rollback_phase_ne (h : q ≠ p) : (s.rollback p next).phase q = s.phase q := if_neg h

theorem commit_phase_ne (h : q ≠ p) : (s.commit p next).phase q = s.phase q := if_neg h

end Processes

end StoreProcesses

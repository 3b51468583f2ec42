/-!
# Tables

Rows of one kind, each under a key of its own. Rows stand in the order of their keys, and a key is
given out once: a new row takes the key after the last one ever given, also when that row is gone.
Removing rows leaves the last key as it is.
-/

namespace SupplyCatalog

class Keyed (α : Type) where
  pk : α → Int
  withPk : Int → α → α
  pk_with_pk : ∀ key row, pk (withPk key row) = key

structure Table (α : Type) [Keyed α] where
  rows : List α
  /-- The last key given out. -/
  lastPk : Nat
  ascending : rows.Pairwise fun a b => Keyed.pk a < Keyed.pk b
  within : ∀ row ∈ rows, 0 < Keyed.pk row ∧ Keyed.pk row ≤ lastPk

namespace Table

variable {α : Type} [Keyed α]

def empty : Table α := ⟨[], 0, .nil, by simp⟩

instance : Inhabited (Table α) := ⟨empty⟩

def nextPk (table : Table α) : Int := table.lastPk + 1

def find? (table : Table α) (pk : Int) : Option α :=
  table.rows.find? fun row => Keyed.pk row == pk

def contains (table : Table α) (pk : Int) : Bool := (table.find? pk).isSome

/-- Whether a row with another key passes a test. -/
def anyOther (table : Table α) (pk : Int) (test : α → Bool) : Bool :=
  table.rows.any fun other => Keyed.pk other != pk && test other

/-- The row as it is kept once it has its key. -/
def keyed (table : Table α) (row : α) : α := Keyed.withPk table.nextPk row

/-- Puts a row at the end, under the next key. -/
def insert (table : Table α) (row : α) : Table α where
  rows := table.rows ++ [table.keyed row]
  lastPk := table.lastPk + 1
  ascending := by
    refine List.pairwise_append.2 ⟨table.ascending, List.pairwise_singleton _ _, ?_⟩
    intro a member b single
    have bound := (table.within a member).2
    simp only [List.mem_singleton] at single
    subst single
    simp only [keyed, nextPk, Keyed.pk_with_pk]
    omega
  within := by
    intro a member
    rcases List.mem_append.1 member with old | new
    · have bound := table.within a old
      omega
    · simp only [List.mem_singleton] at new
      subst new
      simp only [keyed, nextPk, Keyed.pk_with_pk]
      omega

def keep (table : Table α) (test : α → Bool) : Table α where
  rows := table.rows.filter test
  lastPk := table.lastPk
  ascending := table.ascending.sublist List.filter_sublist
  within := fun row member => table.within row (List.mem_filter.1 member).1

/-- Every row changed in some way that leaves its key alone. -/
def mapRows (table : Table α) (change : α → α)
    (same : ∀ row, Keyed.pk (change row) = Keyed.pk row) : Table α where
  rows := table.rows.map change
  lastPk := table.lastPk
  ascending := by
    rw [List.pairwise_map]
    exact table.ascending.imp fun {a b} less => by rw [same a, same b]; exact less
  within := by
    intro row member
    obtain ⟨old, inside, rfl⟩ := List.mem_map.1 member
    rw [same old]
    exact table.within old inside

def replace (table : Table α) (row : α) : Table α :=
  table.mapRows (fun old => if Keyed.pk old = Keyed.pk row then row else old) (by
    intro old
    split
    · next equal => exact equal.symm
    · rfl)

def erase (table : Table α) (pk : Int) : Table α := table.keep fun row => Keyed.pk row != pk

end Table

end SupplyCatalog

import SupplyCatalog.Proofs.Table

/-!
# Writing one row

A row is put into a table as a new one, or in the place of the one that has its key. Either way the
table afterwards holds that row and, under all other keys, what it held before. Rows that a key
tells apart stay so as long as no other row has the key of the one that is written.
-/

namespace SupplyCatalog

inductive Write (α : Type)
  | add (row : α)
  | set (row : α)
deriving DecidableEq

namespace Write

variable {α : Type} [Keyed α]

def result (table : Table α) : Write α → α
  | add row => table.keyed row
  | set row => row

def apply (table : Table α) : Write α → Table α
  | add row => table.insert row
  | set row => table.replace row

def HasPlace (table : Table α) : Write α → Prop
  | add _ => True
  | set row => table.contains (Keyed.pk row) = true

variable {table : Table α} {write : Write α}

theorem has_place_of_find {pk : Int} {old new : α} (found : table.find? pk = some old)
    (same : Keyed.pk new = Keyed.pk old) : (set new).HasPlace table := by
  change table.contains (Keyed.pk new) = true
  rw [same, ((table.find_eq_some_iff pk old).1 found).2]
  exact Table.contains_of_find found

theorem mem_apply (place : write.HasPlace table) (row : α) :
    row ∈ (write.apply table).rows ↔
      (row ∈ table.rows ∧ Keyed.pk row ≠ Keyed.pk (write.result table)) ∨
        row = write.result table := by
  cases write with
  | add new =>
      simp only [apply, result, Table.mem_insert, Table.pk_keyed]
      constructor
      · intro holds
        rcases holds with old | new
        · have less := table.pk_lt_next_pk old
          exact .inl ⟨old, by omega⟩
        · exact .inr new
      · intro holds
        rcases holds with ⟨old, _⟩ | new
        · exact .inl old
        · exact .inr new
  | set new =>
      have present : table.contains (Keyed.pk new) = true := place
      simp only [apply, result, Table.mem_replace, present, and_true]

theorem mem_result (place : write.HasPlace table) :
    write.result table ∈ (write.apply table).rows :=
  (mem_apply place _).2 (.inr rfl)

/-- What holds of the rows there were and of the row written holds of all rows. -/
theorem forall_apply (place : write.HasPlace table) {property : α → Prop}
    (old : ∀ row ∈ table.rows, property row) (new : property (write.result table)) :
    ∀ row ∈ (write.apply table).rows, property row := by
  intro row member
  rcases (mem_apply place row).1 member with ⟨before, _⟩ | rfl
  · exact old row before
  · exact new

theorem find_result (place : write.HasPlace table) :
    (write.apply table).find? (Keyed.pk (write.result table)) = some (write.result table) :=
  (Table.find_eq_some_iff _ _ _).2 ⟨mem_result place, rfl⟩

theorem find_other (place : write.HasPlace table) {pk : Int}
    (different : pk ≠ Keyed.pk (write.result table)) :
    (write.apply table).find? pk = table.find? pk := by
  apply Option.ext
  intro row
  rw [Table.find_eq_some_iff, Table.find_eq_some_iff, mem_apply place]
  constructor
  · intro holds
    rcases holds with ⟨⟨before, _⟩ | rfl, key⟩
    · exact ⟨before, key⟩
    · exact absurd key.symm different
  · intro holds
    rcases holds with ⟨before, key⟩
    exact ⟨.inl ⟨before, key ▸ different⟩, key⟩

theorem contains_apply (place : write.HasPlace table) (pk : Int) :
    (write.apply table).contains pk = true ↔
      table.contains pk = true ∨ pk = Keyed.pk (write.result table) := by
  by_cases same : pk = Keyed.pk (write.result table)
  · have present := Table.contains_of_find (find_result place)
    rw [same]
    exact iff_of_true present (.inr rfl)
  · unfold Table.contains
    rw [find_other place same]
    simp [same]

theorem contains_mono (place : write.HasPlace table) {pk : Int}
    (present : table.contains pk = true) : (write.apply table).contains pk = true :=
  (contains_apply place pk).2 (.inl present)

end Write

/-! ## Rows told apart by a key of their own -/

namespace Table

variable {α κ : Type} [Keyed α]

def DistinctBy (table : Table α) (key : α → κ) : Prop :=
  ∀ a ∈ table.rows, ∀ b ∈ table.rows, key a = key b → a = b

/-- No other row has the key of this one. -/
def IsFreeFor (table : Table α) (key : α → κ) (row : α) : Prop :=
  ∀ other ∈ table.rows, Keyed.pk other ≠ Keyed.pk row → key other ≠ key row

variable {table : Table α} {key : α → κ}

theorem distinct_by_empty (key : α → κ) : (empty : Table α).DistinctBy key := by
  intro a member
  exact absurd member ((mem_empty a).1)

theorem distinct_by_apply {write : Write α} (distinct : table.DistinctBy key)
    (place : write.HasPlace table) (free : table.IsFreeFor key (write.result table)) :
    (write.apply table).DistinctBy key := by
  intro a left b right same
  rcases (Write.mem_apply place a).1 left with ⟨oldLeft, otherLeft⟩ | newLeft
  · rcases (Write.mem_apply place b).1 right with ⟨oldRight, _⟩ | newRight
    · exact distinct a oldLeft b oldRight same
    · rw [newRight] at same
      exact absurd same (free a oldLeft otherLeft)
  · rcases (Write.mem_apply place b).1 right with ⟨oldRight, otherRight⟩ | newRight
    · rw [newLeft] at same
      exact absurd same.symm (free b oldRight otherRight)
    · rw [newLeft, newRight]

theorem distinct_by_keep (distinct : table.DistinctBy key) (test : α → Bool) :
    (table.keep test).DistinctBy key := by
  intro a left b right same
  have leftBefore := ((table.mem_keep test a).1 left).1
  have rightBefore := ((table.mem_keep test b).1 right).1
  exact distinct a leftBefore b rightBefore same

theorem distinct_by_map_rows (distinct : table.DistinctBy key) (change : α → α)
    (samePk : ∀ row, Keyed.pk (change row) = Keyed.pk row)
    (sameKey : ∀ row, key (change row) = key row) :
    (table.mapRows change samePk).DistinctBy key := by
  intro a left b right same
  obtain ⟨oldLeft, leftBefore, rfl⟩ := (table.mem_map_rows change samePk a).1 left
  obtain ⟨oldRight, rightBefore, rfl⟩ := (table.mem_map_rows change samePk b).1 right
  rw [sameKey, sameKey] at same
  rw [distinct oldLeft leftBefore oldRight rightBefore same]

/-- Where a key is free, no other row passes a test that asks for it. -/
theorem any_other_of_free_for {test : α → Bool} {row : α}
    (implies : ∀ other ∈ table.rows, test other = true → key other = key row)
    (free : table.IsFreeFor key row) : table.anyOther (Keyed.pk row) test = false := by
  rw [any_other_eq_false_iff]
  intro other member different
  cases passes : test other with
  | false => rfl
  | true => exact absurd (implies other member passes) (free other member different)

/-- The test that looks for a key among the other rows says whether it is free. -/
theorem is_free_for_iff {test : α → Bool} {row : α}
    (means : ∀ other, test other = true ↔ key other = key row) :
    table.anyOther (Keyed.pk row) test = false ↔ table.IsFreeFor key row := by
  constructor
  · intro none other member different same
    have fails := (table.any_other_eq_false_iff _ _).1 none other member different
    rw [(means other).2 same] at fails
    exact Bool.noConfusion fails
  · exact any_other_of_free_for fun other _ => (means other).1

/-- A row that comes in under its own primary key takes no key from itself. -/
theorem is_free_for_insert {row : α} (free : table.IsFreeFor key row)
    (newest : Keyed.pk row = table.nextPk) (new : α) : (table.insert new).IsFreeFor key row := by
  intro other member different
  rcases (table.mem_insert new other).1 member with old | rfl
  · exact free other old different
  · rw [pk_keyed, newest] at different
    exact absurd rfl different

/-- A key that is free for a row without a place is free for it once it has one. -/
theorem is_free_for_keyed {row new : α} (free : table.IsFreeFor key row)
    (unplaced : Keyed.pk row = 0) (same : key (table.keyed new) = key row) :
    table.IsFreeFor key (table.keyed new) := by
  intro other member _
  have positive := table.pk_pos member
  rw [same]
  exact free other member (by omega)

end Table

end SupplyCatalog

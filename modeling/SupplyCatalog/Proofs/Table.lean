import SupplyCatalog.Store.Table

/-!
# Rows of a table

What putting in, replacing, keeping and changing rows does to the rows of a table and to the keys
that lead to them. A key leads to one row at most, so a row is found under its key exactly when it
is a row of the table.
-/

namespace SupplyCatalog.Table

variable {α : Type} [Keyed α]

/-! ## Keys and rows -/

theorem row_eq_of_pk_eq (table : Table α) {a b : α} (left : a ∈ table.rows)
    (right : b ∈ table.rows) (same : Keyed.pk a = Keyed.pk b) : a = b := by
  have onward : table.rows.Pairwise fun x y => Keyed.pk x = Keyed.pk y → x = y :=
    table.ascending.imp fun less equal => absurd equal (by omega)
  have backward : table.rows.Pairwise (flip fun x y => Keyed.pk x = Keyed.pk y → x = y) :=
    table.ascending.imp fun less equal => absurd equal (by omega)
  have alike := List.Pairwise.forall_of_forall_of_flip (fun _ _ _ => rfl) onward backward
  exact alike left right same

theorem pk_pos (table : Table α) {row : α} (member : row ∈ table.rows) : 0 < Keyed.pk row :=
  (table.within row member).1

theorem pk_lt_next_pk (table : Table α) {row : α} (member : row ∈ table.rows) :
    Keyed.pk row < table.nextPk := by
  have bound := (table.within row member).2
  unfold nextPk
  omega

@[simp]
theorem pk_keyed (table : Table α) (row : α) : Keyed.pk (table.keyed row) = table.nextPk :=
  Keyed.pk_with_pk _ _

theorem find_eq_some_iff (table : Table α) (pk : Int) (row : α) :
    table.find? pk = some row ↔ row ∈ table.rows ∧ Keyed.pk row = pk := by
  constructor
  · intro found
    have member := List.mem_of_find?_eq_some found
    have key := List.find?_some found
    exact ⟨member, by simpa using key⟩
  · intro holds
    rcases holds with ⟨member, key⟩
    cases found : table.find? pk with
    | none =>
        have absent := List.find?_eq_none.1 found row member
        simp [key] at absent
    | some other =>
        have otherMember := List.mem_of_find?_eq_some found
        have otherKey := List.find?_some found
        have same : Keyed.pk other = Keyed.pk row := by
          rw [key]
          simpa using otherKey
        rw [table.row_eq_of_pk_eq otherMember member same]

theorem mem_of_find {table : Table α} {pk : Int} {row : α} (found : table.find? pk = some row) :
    row ∈ table.rows :=
  ((table.find_eq_some_iff pk row).1 found).1

theorem pk_of_find {table : Table α} {pk : Int} {row : α} (found : table.find? pk = some row) :
    Keyed.pk row = pk :=
  ((table.find_eq_some_iff pk row).1 found).2

theorem contains_iff_find (table : Table α) (pk : Int) :
    table.contains pk = true ↔ ∃ row, table.find? pk = some row := by
  unfold contains
  exact Option.isSome_iff_exists

theorem contains_iff (table : Table α) (pk : Int) :
    table.contains pk = true ↔ ∃ row ∈ table.rows, Keyed.pk row = pk := by
  simp only [contains_iff_find, find_eq_some_iff]

theorem contains_of_mem (table : Table α) {row : α} (member : row ∈ table.rows) :
    table.contains (Keyed.pk row) = true :=
  (table.contains_iff _).2 ⟨row, member, rfl⟩

theorem contains_of_find {table : Table α} {pk : Int} {row : α}
    (found : table.find? pk = some row) : table.contains pk = true := by
  unfold contains
  rw [found]
  rfl

theorem lt_next_pk_of_contains {table : Table α} {pk : Int}
    (present : table.contains pk = true) : pk < table.nextPk := by
  obtain ⟨row, member, rfl⟩ := (table.contains_iff pk).1 present
  exact table.pk_lt_next_pk member

theorem any_other_eq_false_iff (table : Table α) (pk : Int) (test : α → Bool) :
    table.anyOther pk test = false ↔
      ∀ other ∈ table.rows, Keyed.pk other ≠ pk → test other = false := by
  unfold anyOther
  rw [List.any_eq_false]
  constructor
  · intro none other member different
    have fails := none other member
    simpa [different] using fails
  · intro none other member
    by_cases same : Keyed.pk other = pk
    · simp [same]
    · simp [none other member same]

/-! ## Rows after a change -/

@[simp]
theorem mem_empty (row : α) : row ∈ (empty : Table α).rows ↔ False := by
  simp [empty]

theorem mem_insert (table : Table α) (new row : α) :
    row ∈ (table.insert new).rows ↔ row ∈ table.rows ∨ row = table.keyed new := by
  simp [insert]

theorem mem_keep (table : Table α) (test : α → Bool) (row : α) :
    row ∈ (table.keep test).rows ↔ row ∈ table.rows ∧ test row = true := by
  simp [keep]

theorem mem_erase (table : Table α) (pk : Int) (row : α) :
    row ∈ (table.erase pk).rows ↔ row ∈ table.rows ∧ Keyed.pk row ≠ pk := by
  unfold erase
  rw [mem_keep]
  simp

theorem mem_map_rows (table : Table α) (change : α → α)
    (same : ∀ row, Keyed.pk (change row) = Keyed.pk row) (row : α) :
    row ∈ (table.mapRows change same).rows ↔ ∃ old ∈ table.rows, change old = row := by
  simp [mapRows]

theorem mem_replace (table : Table α) (new row : α) :
    row ∈ (table.replace new).rows ↔
      (row ∈ table.rows ∧ Keyed.pk row ≠ Keyed.pk new) ∨
        (row = new ∧ table.contains (Keyed.pk new) = true) := by
  unfold replace
  rw [mem_map_rows]
  constructor
  · intro holds
    rcases holds with ⟨old, member, rfl⟩
    by_cases same : Keyed.pk old = Keyed.pk new
    · right
      rw [if_pos same]
      exact ⟨rfl, same ▸ table.contains_of_mem member⟩
    · left
      rw [if_neg same]
      exact ⟨member, same⟩
  · intro holds
    rcases holds with ⟨member, different⟩ | ⟨rfl, present⟩
    · exact ⟨row, member, if_neg different⟩
    · obtain ⟨old, member, same⟩ := (table.contains_iff _).1 present
      exact ⟨old, member, if_pos same⟩

/-! ## Keys after a change -/

theorem contains_insert (table : Table α) (new : α) (pk : Int) :
    (table.insert new).contains pk = true ↔ table.contains pk = true ∨ pk = table.nextPk := by
  simp only [contains_iff, mem_insert]
  constructor
  · intro holds
    rcases holds with ⟨row, old | rfl, rfl⟩
    · exact .inl ⟨row, old, rfl⟩
    · exact .inr (table.pk_keyed new)
  · intro holds
    rcases holds with ⟨row, old, rfl⟩ | rfl
    · exact ⟨row, .inl old, rfl⟩
    · exact ⟨table.keyed new, .inr rfl, table.pk_keyed new⟩

theorem contains_map_rows (table : Table α) (change : α → α)
    (same : ∀ row, Keyed.pk (change row) = Keyed.pk row) (pk : Int) :
    (table.mapRows change same).contains pk = true ↔ table.contains pk = true := by
  simp only [contains_iff, mem_map_rows]
  constructor
  · intro holds
    rcases holds with ⟨row, ⟨old, member, rfl⟩, rfl⟩
    exact ⟨old, member, (same old).symm⟩
  · intro holds
    rcases holds with ⟨old, member, rfl⟩
    exact ⟨change old, ⟨old, member, rfl⟩, same old⟩

theorem contains_replace (table : Table α) (new : α) (pk : Int) :
    (table.replace new).contains pk = true ↔ table.contains pk = true :=
  table.contains_map_rows _ _ pk

theorem find_insert_of_find {table : Table α} {pk : Int} {row : α} (new : α)
    (found : table.find? pk = some row) : (table.insert new).find? pk = some row := by
  rw [find_eq_some_iff] at found ⊢
  exact ⟨(table.mem_insert new row).2 (.inl found.1), found.2⟩

theorem find_insert_new (table : Table α) (new : α) :
    (table.insert new).find? table.nextPk = some (table.keyed new) := by
  rw [find_eq_some_iff]
  exact ⟨(table.mem_insert new _).2 (.inr rfl), table.pk_keyed new⟩

theorem find_replace_of_find {table : Table α} {pk : Int} {old new : α}
    (found : table.find? pk = some old) (same : Keyed.pk new = Keyed.pk old) :
    (table.replace new).find? pk = some new := by
  have key : Keyed.pk new = pk := same.trans (pk_of_find found)
  rw [find_eq_some_iff, mem_replace]
  exact ⟨.inr ⟨rfl, key ▸ contains_of_find found⟩, key⟩

/-! ## Replacing a row that has just been written -/

theorem ext {a b : Table α} (rows : a.rows = b.rows) (lastPk : a.lastPk = b.lastPk) : a = b := by
  cases a
  cases b
  cases rows
  cases lastPk
  rfl

/-- A new row that is replaced at once might as well have been the other one from the start. -/
theorem replace_insert (table : Table α) (old new : α) :
    (table.insert old).replace (table.keyed new) = table.insert new := by
  refine ext ?_ rfl
  have before : ∀ row ∈ table.rows,
      (if Keyed.pk row = table.nextPk then table.keyed new else row) = row := by
    intro row member
    have less := table.pk_lt_next_pk member
    rw [if_neg (by omega)]
  simp only [replace, mapRows, insert, List.map_append, List.map_cons, List.map_nil, pk_keyed,
    if_true]
  rw [List.map_congr_left before, List.map_id']

theorem replace_replace (table : Table α) (old new : α) (same : Keyed.pk old = Keyed.pk new) :
    (table.replace old).replace new = table.replace new := by
  refine ext ?_ rfl
  simp only [replace, mapRows, List.map_map]
  apply List.map_congr_left
  intro row _
  by_cases hit : Keyed.pk row = Keyed.pk new
  · simp [same, hit]
  · simp [same, hit]

/-! ## Rows that are kept or changed -/

variable (table : Table α)

theorem keep_congr {test other : α → Bool} (same : ∀ row ∈ table.rows, test row = other row) :
    table.keep test = table.keep other :=
  ext (List.filter_congr same) rfl

theorem keep_all {test : α → Bool} (all : ∀ row ∈ table.rows, test row = true) :
    table.keep test = table :=
  ext (List.filter_eq_self.2 all) rfl

theorem keep_keep (test other : α → Bool) :
    (table.keep test).keep other = table.keep fun row => test row && other row := by
  refine ext ?_ rfl
  simp only [keep, List.filter_filter]
  exact List.filter_congr fun row _ => Bool.and_comm _ _

section Changed

variable (change : α → α) (same : ∀ row, Keyed.pk (change row) = Keyed.pk row)

theorem map_rows_congr {other : α → α} (otherSame : ∀ row, Keyed.pk (other row) = Keyed.pk row)
    (agree : ∀ row ∈ table.rows, change row = other row) :
    table.mapRows change same = table.mapRows other otherSame :=
  ext (List.map_congr_left agree) rfl

theorem map_rows_id (id : ∀ row ∈ table.rows, change row = row) :
    table.mapRows change same = table := by
  refine ext ?_ rfl
  have agree := List.map_congr_left id
  rw [List.map_id'] at agree
  exact agree

theorem keep_map_rows (test : α → Bool) :
    (table.mapRows change same).keep test =
      (table.keep fun row => test (change row)).mapRows change same :=
  ext List.filter_map rfl

theorem map_rows_map_rows (further : α → α)
    (furtherSame : ∀ row, Keyed.pk (further row) = Keyed.pk row) :
    (table.mapRows change same).mapRows further furtherSame =
      table.mapRows (fun row => further (change row)) fun row =>
        (furtherSame _).trans (same row) :=
  ext List.map_map rfl

theorem find_map_rows (pk : Int) :
    (table.mapRows change same).find? pk = (table.find? pk).map change := by
  unfold find? mapRows
  rw [List.find?_map]
  have alike : (fun row => Keyed.pk row == pk) ∘ change = fun row => Keyed.pk row == pk := by
    funext row
    simp [same]
  rw [alike]

end Changed

end SupplyCatalog.Table

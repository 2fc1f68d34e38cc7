import Mathlib.Data.List.Nodup

/-!
A table whose rows have a unique key: the key is a function of the row, and the
table carries the proof that no two rows share one. The operations are the ones of
a relational store: look up by key, insert if absent, change the rows of a key.
-/
namespace FifthD.Library

/-- Rows with pairwise different keys. -/
structure Table (Row Key : Type*) (key : Row → Key) where
  rows : List Row
  unique : (rows.map key).Nodup

namespace Table

variable {Row Key : Type*} {key : Row → Key}

def empty : Table Row Key key := ⟨[], List.nodup_nil⟩

variable [DecidableEq Key]

/-- The row of a key. -/
def lookup (t : Table Row Key key) (k : Key) : Option Row := t.rows.find? fun row => key row = k

/-- All rows of a key, as a query returns them. -/
def select (t : Table Row Key key) (k : Key) : List Row := t.rows.filter fun row => key row = k

theorem lookup_key {t : Table Row Key key} {k : Key} {row : Row} (found : t.lookup k = some row) :
    key row = k := by
  simpa using List.find?_some found

theorem lookup_eq_none_iff (t : Table Row Key key) (k : Key) :
    t.lookup k = none ↔ k ∉ t.rows.map key := by
  simp [lookup]

/-- A key has at most one row. -/
theorem select_eq (t : Table Row Key key) (k : Key) : t.select k = (t.lookup k).toList := by
  obtain ⟨rows, unique⟩ := t
  unfold select lookup
  induction rows with
  | nil => rfl
  | cons row rest ih =>
    obtain ⟨fresh, uniqueRest⟩ := List.nodup_cons.mp unique
    by_cases same : key row = k
    · have absent : rest.filter (fun row => key row = k) = [] := by
        rw [List.filter_eq_nil_iff]
        intro other member
        have different : key other ≠ key row := by
          intro equal
          exact fresh (equal ▸ List.mem_map_of_mem member)
        simpa [← same] using different
      simp [same, absent]
    · simpa [same] using ih uniqueRest

/-- Insert a row; `none` when its key is taken. -/
def insert (t : Table Row Key key) (row : Row) : Option (Table Row Key key) :=
  if absent : t.lookup (key row) = none then
    some
      { rows := t.rows ++ [row]
        unique := by
          rw [List.map_append, List.map_singleton]
          exact List.Nodup.append t.unique (List.nodup_singleton _)
            (by simpa using (t.lookup_eq_none_iff _).mp absent) }
  else none

theorem insert_eq_none_iff (t : Table Row Key key) (row : Row) :
    t.insert row = none ↔ (t.lookup (key row)).isSome = true := by
  unfold insert
  split
  · next absent => simp [absent]
  · next present => simpa using Option.isSome_iff_ne_none.mpr present

theorem lookup_of_insert {t after : Table Row Key key} {row : Row}
    (inserted : t.insert row = some after) :
    t.lookup (key row) = none ∧ after.lookup (key row) = some row ∧
      ∀ k, k ≠ key row → after.lookup k = t.lookup k := by
  unfold insert at inserted
  split at inserted
  · next absent =>
    cases inserted
    refine ⟨absent, ?_, ?_⟩
    · unfold lookup at absent ⊢
      simp [List.find?_append, absent]
    · intro k other
      unfold lookup
      simp [List.find?_append, Ne.symm other]
  · cases inserted

/-- Change the rows of a key, keeping their key. -/
def modify (t : Table Row Key key) (k : Key) (f : Row → Row)
    (keeps : ∀ row, key (f row) = key row) : Table Row Key key where
  rows := t.rows.map fun row => if key row = k then f row else row
  unique := by
    have same : key ∘ (fun row => if key row = k then f row else row) = key := by
      funext row
      simp only [Function.comp]
      split
      · exact keeps row
      · rfl
    rw [List.map_map, same]
    exact t.unique

/-- What a key finds after a change of the rows of `k`. -/
theorem lookup_modify (t : Table Row Key key) (k other : Key) (f : Row → Row)
    (keeps : ∀ row, key (f row) = key row) :
    (t.modify k f keeps).lookup other =
      (t.lookup other).map fun row => if key row = k then f row else row := by
  have same : (fun row => decide (key row = other)) ∘
      (fun row => if key row = k then f row else row) = fun row => decide (key row = other) := by
    funext row
    simp only [Function.comp]
    split
    · rw [keeps]
    · rfl
  unfold modify lookup
  rw [List.find?_map, same]

@[simp] theorem lookup_modify_self (t : Table Row Key key) (k : Key) (f : Row → Row)
    (keeps : ∀ row, key (f row) = key row) :
    (t.modify k f keeps).lookup k = (t.lookup k).map f := by
  rw [lookup_modify]
  cases found : t.lookup k with
  | none => rfl
  | some row => simp [lookup_key found]

theorem lookup_modify_of_ne (t : Table Row Key key) {k other : Key} (f : Row → Row)
    (keeps : ∀ row, key (f row) = key row) (different : other ≠ k) :
    (t.modify k f keeps).lookup other = t.lookup other := by
  rw [lookup_modify]
  cases found : t.lookup other with
  | none => rfl
  | some row => simp [lookup_key found, different]

end Table

end FifthD.Library

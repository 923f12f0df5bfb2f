import ParamSql.Value

/-!
# Records

A record maps columns to values and keeps its columns in the order in which
they were first set.  Setting a column that is present replaces its value in
place, so no column occurs twice.
-/

namespace ParamSql

/-- Columns with their values, each column once, in order of insertion. -/
structure Record where
  entries : List (String × Value)
  distinct : (entries.map Prod.fst).Nodup

namespace Record

/-! ## Replacing an entry of a list -/

/-- Replace the first entry of a column, or add one at the end. -/
def setEntry (column : String) (value : Value) :
    List (String × Value) → List (String × Value)
  | [] => [(column, value)]
  | (other, old) :: rest =>
      if other = column then (other, value) :: rest
      else (other, old) :: setEntry column value rest

/-- Replacing keeps the columns; adding puts the new one at the end. -/
theorem columns_setEntry (column : String) (value : Value) (entries : List (String × Value)) :
    (setEntry column value entries).map Prod.fst =
      if column ∈ entries.map Prod.fst then entries.map Prod.fst
      else entries.map Prod.fst ++ [column] := by
  induction entries with
  | nil => simp [setEntry]
  | cons entry rest ih =>
      obtain ⟨other, old⟩ := entry
      by_cases equal : other = column
      · simp [setEntry, equal]
      · by_cases member : column ∈ rest.map Prod.fst
        · rw [if_pos member] at ih
          simp [setEntry, equal, ih, List.mem_cons_of_mem _ member]
        · rw [if_neg member] at ih
          have absent : column ∉ other :: rest.map Prod.fst := by
            simp only [List.mem_cons, not_or]
            exact ⟨fun h => equal h.symm, member⟩
          simp only [setEntry, equal, if_false, List.map_cons, ih, if_neg absent,
            List.cons_append]

/-- Setting an entry keeps the columns distinct. -/
theorem nodup_setEntry (column : String) (value : Value) {entries : List (String × Value)}
    (distinct : (entries.map Prod.fst).Nodup) :
    ((setEntry column value entries).map Prod.fst).Nodup := by
  rw [columns_setEntry]
  split
  · exact distinct
  · next absent =>
      rw [List.nodup_append]
      refine ⟨distinct, by simp, ?_⟩
      intro a member b memberB equal
      rw [List.mem_singleton] at memberB
      exact absent (memberB ▸ equal ▸ member)

/-! ## Records -/

/-- The record without columns. -/
def empty : Record := ⟨[], List.nodup_nil⟩

instance : Inhabited Record := ⟨empty⟩

/-- Set a column: in place if it is present, else at the end. -/
def set (record : Record) (column : String) (value : Value) : Record :=
  ⟨setEntry column value record.entries, nodup_setEntry column value record.distinct⟩

/-- The record that results from setting columns one after the other. -/
def ofList (pairs : List (String × Value)) : Record :=
  pairs.foldl (fun record pair => record.set pair.1 pair.2) empty

/-- The value of a column. -/
def get? (record : Record) (column : String) : Option Value :=
  (record.entries.find? fun entry => entry.1 = column).map Prod.snd

/-- The columns in order. -/
def columns (record : Record) : List String :=
  record.entries.map Prod.fst

/-- The number of columns. -/
def size (record : Record) : Nat :=
  record.entries.length

/-- Whether there is no column. -/
def isEmpty (record : Record) : Bool :=
  record.entries.isEmpty

@[simp]
theorem entries_set (record : Record) (column : String) (value : Value) :
    (record.set column value).entries = setEntry column value record.entries :=
  rfl

/-- Equality of records: the same columns in the same order with equal
values. -/
def agrees (a b : Record) : Bool :=
  a.columns = b.columns &&
    (List.zipWith (fun x y => x.2.agrees y.2) a.entries b.entries).all id

/-! ## Text -/

/-- The record as a JSON object whose members keep the order of the columns. -/
def toJson (record : Record) : Json :=
  .object (record.entries.map fun entry => (entry.1, entry.2.toJson))

/-- The entries of a record as pairs. -/
def outline (record : Record) : Outline :=
  .fields "Record" [("entries", .items (record.entries.map fun entry =>
    .call "" [.atom (Text.showText entry.1), .atom entry.2.shown]))]

end Record

end ParamSql

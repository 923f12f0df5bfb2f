import ParamSql.Command

/-!
# Statements that have clauses

A statement has clauses unless it says too little.  This file turns the checks
around: for each kind of statement it says under exactly which conditions there
are clauses, and what the clauses then are.
-/

namespace ParamSql

/-- The fragment of the columns that are given back. -/
def Returning.fragment : Returning → Fragment
  | all => [.text "*"]
  | columns names => Fragment.identifiers names

/-- Only an empty list of columns to be given back is refused. -/
theorem returningClause_eq (returning : Option Returning) :
    returningClause returning =
      if returning = some (.columns []) then .error .emptyReturning
      else .ok (returning.map Returning.fragment) := by
  rcases returning with _ | (_ | (_ | ⟨name, rest⟩)) <;> rfl

/-- A bound is written if it is there and not negative. -/
theorem boundFragment?_eq_map (keyword column : String) (bound : Option Int64) :
    boundFragment? keyword column bound =
      (bound.filter fun count => 0 ≤ count).map fun count =>
        [.text keyword, .parameter column (.int count)] := by
  cases bound with
  | none => rfl
  | some count =>
      by_cases held : 0 ≤ count
      · rw [Option.filter_some_pos (by simpa using held), boundFragment?, if_pos held]
        rfl
      · rw [Option.filter_some_neg (by simpa using held), boundFragment?, if_neg held]
        rfl

theorem Restriction.check_eq_ok_iff {restriction : Restriction} :
    restriction.check = .ok () ↔
      restriction.isEffective = true ∧ restriction.emptyMembership? = none := by
  rw [Restriction.check]
  cases restriction.isEffective with
  | false => simp
  | true => cases restriction.emptyMembership? <;> simp

theorem Insert.clauses_eq_ok_iff {s : Insert} {clauses : Clauses Fragment} :
    s.clauses = .ok clauses ↔
      s.columns ≠ [] ∧ s.rows ≠ [] ∧ s.returning ≠ some (.columns []) ∧
        clauses = .insert (.text "(" :: (Fragment.identifiers s.columns ++ [.text ")"]))
          (Fragment.joined ", " (s.rows.map (rowFragment s.columns)))
          (s.returning.map Returning.fragment) := by
  rw [Insert.clauses, returningClause_eq]
  by_cases columns : s.columns = []
  · simp [columns]
  by_cases rows : s.rows = []
  · simp [columns, rows]
  by_cases unlisted : s.returning = some (.columns [])
  · simp [columns, rows, unlisted, Except.map]
  · simpa [columns, rows, unlisted, Except.map] using eq_comm

theorem Select.clauses_eq_ok_iff {s : Select} {clauses : Clauses Fragment} :
    s.clauses = .ok clauses ↔
      s.columns ≠ [] ∧ s.restriction.emptyMembership? = none ∧
        clauses = .select (Fragment.joined ", " (s.columns.map selectedColumn))
          s.restriction.groups (s.order.map SortKey.fragment)
          (s.window.bind Window.fragment?) := by
  rw [Select.clauses]
  by_cases columns : s.columns = []
  · simp [columns]
  rw [if_neg (by simpa using columns)]
  cases s.restriction.emptyMembership? with
  | some column => simp
  | none => simpa [columns] using eq_comm

/-- A checked restriction and columns to be given back make up the clauses. -/
private theorem checked_eq_ok_iff {restriction : Restriction} {returning : Option Returning}
    {build : Option Fragment → Clauses Fragment} {clauses : Clauses Fragment} :
    (do
      restriction.check
      let clause ← returningClause returning
      return build clause) = Except.ok clauses ↔
      restriction.isEffective = true ∧ restriction.emptyMembership? = none ∧
        returning ≠ some (.columns []) ∧
          clauses = build (returning.map Returning.fragment) := by
  rw [returningClause_eq, ← and_assoc, ← Restriction.check_eq_ok_iff]
  cases restriction.check with
  | error violation => simp [bind, Except.bind]
  | ok checked =>
      by_cases unlisted : returning = some (.columns [])
      · simp [unlisted, bind, Except.bind]
      · simpa [unlisted, bind, Except.bind, pure, Except.pure] using eq_comm

theorem Update.clauses_eq_ok_iff {s : Update} {clauses : Clauses Fragment} :
    s.clauses = .ok clauses ↔
      s.assignments.entries ≠ [] ∧ s.restriction.isEffective = true ∧
        s.restriction.emptyMembership? = none ∧ s.returning ≠ some (.columns []) ∧
          clauses = .update
            (Fragment.joined ", " (s.assignments.entries.map fun entry =>
              assignmentFragment entry.1 entry.2))
            s.restriction.groups (s.returning.map Returning.fragment) := by
  rw [Update.clauses, Record.isEmpty]
  by_cases assignments : s.assignments.entries = []
  · simp [assignments]
  · rw [if_neg (by simpa using assignments), checked_eq_ok_iff]
    simp [assignments]

theorem Delete.clauses_eq_ok_iff {s : Delete} {clauses : Clauses Fragment} :
    s.clauses = .ok clauses ↔
      s.restriction.isEffective = true ∧ s.restriction.emptyMembership? = none ∧
        s.returning ≠ some (.columns []) ∧
          clauses = .delete s.restriction.groups (s.returning.map Returning.fragment) := by
  rw [Delete.clauses, checked_eq_ok_iff]

end ParamSql

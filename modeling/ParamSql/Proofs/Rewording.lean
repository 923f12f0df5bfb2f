import ParamSql.Proofs.Condition
import ParamSql.Proofs.Refusal

/-!
# Two ways to say the same

Compiling a statement goes by its normal form alone: descriptions with one
normal form break the same rules, and when they break none they are compiled to
one command, in every dialect.

The first use of this are filters.  A record of values to be compared with its
columns is written by other means than a chain of comparisons, and there are
other checks for it, but wherever it stands in a statement, the chain with one
comparison for each entry may stand in its place.
-/

namespace ParamSql

variable {α : Type}

/-! ## What a normal form keeps -/

namespace Restriction

variable {r s : Restriction}

theorem tests_eq_of_condition_eq (same : r.condition = s.condition) : r.tests = s.tests := by
  rw [← r.predicates_condition, ← s.predicates_condition, same]

theorem listRules_congr (same : r.tests = s.tests) : r.listRules = s.listRules := by
  rw [listRules, listRules, same]

theorem rules_congr (same : r.tests = s.tests) : r.rules = s.rules := by
  rw [rules, rules, predicateRule, predicateRule, listRules_congr same, same]

theorem bindings_congr (same : r.tests = s.tests) : r.bindings = s.bindings := by
  rw [← r.flatMap_bindings_tests, ← s.flatMap_bindings_tests, same]

end Restriction

/-- The parameters of new rows can be read off their values. -/
theorem Record.flatMap_zip_project (columns : List String) (rows : List Record) :
    (rows.map (Record.project columns)).flatMap (columns.zip ·) =
      rows.flatMap fun row =>
        columns.map fun column => (column, (row.get? column).getD .null) := by
  rw [List.flatMap_map]
  exact List.flatMap_congr fun _ _ => List.map_prod_left_eq_zip.symm

namespace Statement

/-- Descriptions with one normal form are of one kind, break the same rules and
have the same parameters. -/
theorem keeps_of_normalForm_eq {table : QualifiedName} {s t : Statement}
    (same : s.normalForm table = t.normalForm table) :
    s.verb = t.verb ∧ s.rules = t.rules ∧ s.bindings = t.bindings := by
  cases s with
  | insert s =>
      cases t with
      | insert t =>
          simp only [normalForm, NormalForm.insert.injEq, true_and] at same
          obtain ⟨columns, rows, returning⟩ := same
          rw [columns] at rows
          have size : s.rows.isEmpty = t.rows.isEmpty := by
            rw [← List.isEmpty_map, rows, List.isEmpty_map]
          refine ⟨rfl, ?_, ?_⟩
          · simp only [Statement.rules, Insert.rules, columns, size, returning]
          · simp only [Statement.bindings, ← Record.flatMap_zip_project, columns, rows]
      | select t | update t | delete t => cases same
  | select s =>
      cases t with
      | select t =>
          simp only [normalForm, NormalForm.select.injEq, true_and] at same
          obtain ⟨columns, condition, order, limit, offset⟩ := same
          have tests := Restriction.tests_eq_of_condition_eq condition
          refine ⟨rfl, ?_, ?_⟩
          · rw [Statement.rules, Statement.rules, Select.rules, Select.rules, columns,
              Restriction.listRules_congr tests]
          · rw [Statement.bindings, Statement.bindings, Restriction.bindings_congr tests, limit,
              offset]
      | insert t | update t | delete t => cases same
  | update s =>
      cases t with
      | update t =>
          simp only [normalForm, NormalForm.update.injEq, true_and] at same
          obtain ⟨assignments, condition, returning⟩ := same
          have tests := Restriction.tests_eq_of_condition_eq condition
          refine ⟨rfl, ?_, ?_⟩
          · rw [Statement.rules, Statement.rules, Update.rules, Update.rules, assignments,
              Restriction.rules_congr tests, returning]
          · rw [Statement.bindings, Statement.bindings, Restriction.bindings_congr tests,
              assignments]
      | insert t | select t | delete t => cases same
  | delete s =>
      cases t with
      | delete t =>
          simp only [normalForm, NormalForm.delete.injEq, true_and] at same
          obtain ⟨condition, returning⟩ := same
          have tests := Restriction.tests_eq_of_condition_eq condition
          refine ⟨rfl, ?_, Restriction.bindings_congr tests⟩
          rw [Statement.rules, Statement.rules, Delete.rules, Delete.rules,
            Restriction.rules_congr tests, returning]
      | insert t | select t | update t => cases same

/-- Compiling goes by the normal form alone, whether a statement is refused or
not. -/
theorem compile_eq_of_normalForm_eq {table : QualifiedName} {s t : Statement}
    (same : s.normalForm table = t.normalForm table) (dialect : Dialect) :
    s.compile dialect table = t.compile dialect table := by
  obtain ⟨verb, rules, bindings⟩ := keeps_of_normalForm_eq same
  have decided := s.decide_compile dialect table
  have others := t.decide_compile dialect table
  rw [← rules] at others
  cases first : Rule.firstBroken? s.rules with
  | some violation =>
      rw [decided.eq_error_iff.mpr first, others.eq_error_iff.mpr first]
  | none =>
      have unbroken := Rule.firstBroken?_eq_none_iff.mp first
      obtain ⟨command, compiled⟩ := decided.exists_ok_iff.mpr unbroken
      obtain ⟨other, recompiled⟩ := others.exists_ok_iff.mpr unbroken
      rw [compiled, recompiled]
      rcases compile_eq_ok_iff.mp compiled with ⟨clauses, valid, rfl⟩
      rcases compile_eq_ok_iff.mp recompiled with ⟨rewritten, revalid, rfl⟩
      have signs : (clauses.statement table).signs = (rewritten.statement table).signs := by
        rw [signs_statement valid, signs_statement revalid, same]
      have values : (clauses.statement table).bindings = (rewritten.statement table).bindings := by
        rw [bindings_statement valid, bindings_statement revalid, bindings]
      rw [verb, bindings, Fragment.textAt_congr signs values]

end Statement

/-- Statements that are compiled alike are compiled alike on every table. -/
theorem Table.compile_congr {s t : Statement}
    (same : ∀ dialect name, s.compile dialect name = t.compile dialect name) (table : Table)
    (elapsed : Duration) (query : Query) :
    table.compile elapsed { query with statement := s } =
      table.compile elapsed { query with statement := t } := by
  rw [Table.compile, Table.compile, same]
  rfl

/-! ## Restrictions within statements -/

/-- Restrictions whose groups give the same chains, with the same junction,
have one condition. -/
theorem Restriction.condition_congr {r s : Restriction}
    (filter : r.filter.elim [] Filter.tests = s.filter.elim [] Filter.tests)
    (memberships : r.memberships.elim [] (Chain.tests .membership) =
      s.memberships.elim [] (Chain.tests .membership))
    (patterns : r.patterns.elim [] (Chain.tests .pattern) =
      s.patterns.elim [] (Chain.tests .pattern))
    (junction : r.junction = s.junction) : r.condition = s.condition := by
  rw [condition, condition, chains, chains, filter, memberships, patterns, junction]

/-- Changes that give one condition give one normal form. -/
theorem Statement.normalForm_mapRestriction {change other : Restriction → Restriction}
    (same : ∀ r, (change r).condition = (other r).condition) (table : QualifiedName)
    (statement : Statement) :
    (statement.mapRestriction change).normalForm table =
      (statement.mapRestriction other).normalForm table := by
  cases statement with
  | insert s => rfl
  | select s => simp only [mapRestriction, normalForm, same]
  | update s => simp only [mapRestriction, normalForm, same]
  | delete s => simp only [mapRestriction, normalForm, same]

/-! ## Records as chains -/

/-- The comparisons that a record stands for, one for each entry, with a
connective between any two. -/
def Record.comparisons (record : Record) (comparator : Comparator) (junction : Junction) :
    Chain Comparison :=
  (record.entries.map fun entry => .predicate ⟨entry.1, comparator, entry.2⟩).intersperse
    (.connective junction.toConnective)

namespace Chain

theorem connected_singletons (junction : Junction) (links : Chain α) :
    connected junction (links.map fun link => [link]) =
      links.intersperse (.connective junction.toConnective) := by
  induction links with
  | nil => rfl
  | cons link rest ih =>
      cases rest with
      | nil => rfl
      | cons next rest =>
          rw [List.intersperse_cons_cons, ← ih]
          exact connected_cons_cons junction [link] [next] _

/-- Nothing is cut off a chain that ends in a predicate. -/
theorem closed_of_endsInPredicate {chain : Chain α} (ends : chain.EndsInPredicate) :
    Chain.closed chain = chain := by
  apply List.rdropWhile_eq_self_iff.mpr
  intro nonempty
  obtain ⟨p, last⟩ := ends
  rw [List.getLast?_eq_some_getLast nonempty, Option.some.injEq] at last
  rw [last]
  exact Bool.false_ne_true

end Chain

/-- A record and the comparisons that it stands for are closed to one chain. -/
theorem Filter.closed_matching (record : Record) (comparator : Comparator)
    (junction : Junction) :
    (Filter.matching record comparator junction).closed =
      (Filter.chain (record.comparisons comparator junction)).closed := by
  have connected : (Filter.matching record comparator junction).closed =
      record.comparisons comparator junction := by
    rw [Record.comparisons, ← Chain.connected_singletons, List.map_map]
    rfl
  rw [connected]
  cases entries : record.entries with
  | nil => rw [Record.comparisons, entries]; rfl
  | cons entry rest =>
      apply (Chain.closed_of_endsInPredicate _).symm
      rw [← connected]
      apply Chain.endsInPredicate_connected
      · simp [entries]
      · intro chain member
        rcases List.mem_map.mp member with ⟨entry, -, rfl⟩
        exact ⟨_, rfl⟩

/-- A filter that compares the columns of a record may be given as the chain of
its comparisons: the statement is refused for the same reason, or compiled to
the same command, and so is a query that gets the one filter or the other on
every table.  The chain has one comparison for each entry, in order, and it is
empty exactly if the record is. -/
theorem Statement.compile_matching (record : Record) (comparator : Comparator)
    (junction : Junction) :
    (∀ (statement : Statement) dialect table,
      (statement.mapRestriction fun r =>
          { r with filter := some (.matching record comparator junction) }).compile dialect table =
        (statement.mapRestriction fun r =>
          { r with filter := some (.chain (record.comparisons comparator junction)) }).compile
            dialect table) ∧
    (∀ (table : Table) elapsed (query : Query),
      table.compile elapsed (query.edit (.filter (.matching record comparator junction))) =
        table.compile elapsed
          (query.edit (.filter (.chain (record.comparisons comparator junction))))) ∧
    (record.comparisons comparator junction).predicates =
      record.entries.map (fun entry => ⟨entry.1, comparator, entry.2⟩) ∧
    (record.comparisons comparator junction = [] ↔ record.isEmpty = true) := by
  have compiled : ∀ (statement : Statement) dialect table,
      (statement.mapRestriction fun r =>
          { r with filter := some (.matching record comparator junction) }).compile dialect table =
        (statement.mapRestriction fun r =>
          { r with filter := some (.chain (record.comparisons comparator junction)) }).compile
            dialect table := by
    intro statement dialect table
    apply compile_eq_of_normalForm_eq
    apply normalForm_mapRestriction
    intro r
    have tests := congrArg (List.map (Link.map Test.comparison))
      (Filter.closed_matching record comparator junction)
    exact Restriction.condition_congr tests rfl rfl rfl
  refine ⟨compiled, ?_, ?_, ?_⟩
  · intro table elapsed query
    exact table.compile_congr (compiled query.statement) elapsed query
  · rw [Record.comparisons, ← Chain.connected_singletons, Chain.predicates_connected,
      List.map_map, List.flatMap_map, List.map_eq_flatMap]
    rfl
  · rw [Record.comparisons, Record.isEmpty, List.isEmpty_iff]
    cases record.entries with
    | nil => simp
    | cons entry rest => cases rest <;> simp

end ParamSql

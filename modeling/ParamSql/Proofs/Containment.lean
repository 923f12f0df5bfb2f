import ParamSql.Proofs.Alignment
import ParamSql.Proofs.Scanner

/-!
# Names stay names

Whatever the names in a statement are, reading its text back finds exactly
these names, in order, between the fixed words and the placeholders.  The
template of every normal form is spaced: wherever a name or a parameter may
stand, a fixed word comes next.
-/

namespace ParamSql

open Sign (chars commas names isWords isWordChar Spaced Trailing trailing_nil trailing_words
  trailing_words_append spaced_name spaced_place)

variable {α : Type}

/-! ## Templates are spaced -/

/-- Commas keep spaced rows apart. -/
theorem Sign.spaced_commas_map {β : Type} {write : β → List (Sign α)}
    (spaced : ∀ b, Spaced isWordChar (write b)) (list : List β) :
    Spaced isWordChar (commas (list.map write)) := by
  apply Sign.spaced_intercalate rfl
  intro row member
  rcases List.mem_map.mp member with ⟨b, -, rfl⟩
  exact spaced b

open Sign (spaced_commas_map)

theorem Test.spaced_template (test : Test) : Spaced isWordChar test.template := by
  cases test with
  | comparison p =>
      have words : isWords p.operator.word = true := by
        cases p.operator <;> rfl
      exact (trailing_words_append _ words (spaced_place p.value)).name_cons p.column
  | membership p =>
      have words : isWords (" " ++ p.operator.word ++ " (") = true := by
        cases p.operator <;> rfl
      have values := (spaced_commas_map spaced_place p.values).append_trailing
        (trailing_words ")" rfl)
      rw [Test.template, List.append_assoc]
      exact (trailing_words_append _ words values).name_cons p.column
  | pattern p =>
      have words : isWords (" " ++ p.operator.word ++ " ") = true := by
        cases p.operator <;> rfl
      exact (trailing_words_append _ words (spaced_place p.pattern)).name_cons p.column

theorem Link.spaced_template (link : Link Test) : Spaced isWordChar link.template := by
  cases link with
  | predicate p => exact p.spaced_template
  | connective c =>
      have words : isWords c.word = true := by
        cases c <;> rfl
      exact (trailing_words _ words).spaced

theorem Chain.trailing_whereTemplate (chain : Chain Test) : Trailing chain.whereTemplate := by
  cases chain with
  | nil => exact trailing_nil
  | cons link rest =>
      apply trailing_words_append _ rfl
      apply Sign.spaced_intercalate rfl
      intro row member
      rcases List.mem_map.mp member with ⟨link, -, rfl⟩
      exact link.spaced_template

theorem spaced_columnTemplate (column : String) :
    Spaced isWordChar (columnTemplate column) := by
  rw [columnTemplate]
  split
  · exact (trailing_words _ rfl).spaced
  · exact spaced_name column

theorem spaced_rowTemplate (row : List Value) : Spaced isWordChar (rowTemplate row) := by
  rw [rowTemplate, List.append_assoc]
  have values := (spaced_commas_map spaced_place row).append_trailing (trailing_words ")" rfl)
  exact (trailing_words_append _ rfl values).spaced

theorem spaced_assignmentTemplate (entry : String × Value) :
    Spaced isWordChar (assignmentTemplate entry) :=
  ⟨trivial, rfl, trivial, trivial⟩

theorem trailing_returningTemplate (returning : Option Returning) :
    Trailing (returningTemplate returning) := by
  rcases returning with _ | (_ | names)
  · exact trailing_nil
  · exact trailing_words _ rfl
  · exact trailing_words_append _ rfl (spaced_commas_map spaced_name names)

theorem trailing_orderTemplate (order : Option SortKey) : Trailing (orderTemplate order) := by
  cases order with
  | none => exact trailing_nil
  | some key =>
      have words : isWords (" " ++ key.direction.word) = true := by
        cases key.direction <;> rfl
      exact trailing_words_append _ rfl ((trailing_words _ words).name_cons key.column)

theorem trailing_boundTemplate (opening : String) (words : isWords opening = true)
    (bound : Option Int64) : Trailing (boundTemplate opening bound) := by
  cases bound with
  | none => exact trailing_nil
  | some count => exact trailing_words_append _ words (spaced_place (.int count))

theorem QualifiedName.spaced_template (table : QualifiedName) :
    Spaced isWordChar table.template :=
  ⟨trivial, rfl, trivial, trivial⟩

namespace NormalForm

/-- Two names or parameters never stand side by side in a statement. -/
theorem spaced_body (normal : NormalForm) : Spaced isWordChar normal.body := by
  cases normal with
  | insert table columns rows returning =>
      have values := (spaced_commas_map spaced_rowTemplate rows).append_trailing
        (trailing_returningTemplate returning)
      have listed := (spaced_commas_map spaced_name columns).append_trailing
        (trailing_words_append ") VALUES " rfl values)
      have behind := table.spaced_template.append_trailing
        (trailing_words_append " (" rfl listed)
      simp only [body, List.append_assoc]
      exact (trailing_words_append _ rfl behind).spaced
  | select table columns condition order limit offset =>
      have bounds := (trailing_boundTemplate " LIMIT " rfl limit).append
        (trailing_boundTemplate " OFFSET " rfl offset)
      have clauses := condition.trailing_whereTemplate.append
        ((trailing_orderTemplate order).append bounds)
      have source := table.spaced_template.append_trailing clauses
      have behind := (spaced_commas_map spaced_columnTemplate columns).append_trailing
        (trailing_words_append " FROM " rfl source)
      simp only [body, List.append_assoc]
      exact (trailing_words_append _ rfl behind).spaced
  | update table assignments condition returning =>
      have clauses := condition.trailing_whereTemplate.append
        (trailing_returningTemplate returning)
      have set := (spaced_commas_map spaced_assignmentTemplate assignments).append_trailing
        clauses
      have behind := table.spaced_template.append_trailing
        (trailing_words_append " SET " rfl set)
      simp only [body, List.append_assoc]
      exact (trailing_words_append _ rfl behind).spaced
  | delete table condition returning =>
      have behind := table.spaced_template.append_trailing
        (condition.trailing_whereTemplate.append (trailing_returningTemplate returning))
      simp only [body, List.append_assoc]
      exact (trailing_words_append _ rfl behind).spaced

/-- The template of a normal form can be read back. -/
theorem spaced_template (normal : NormalForm) : Spaced Sign.isPlainChar normal.template := by
  have body : Spaced Sign.isPlainChar normal.body :=
    normal.spaced_body.mono fun c word => Bool.or_eq_true_iff.mpr (Or.inl word)
  exact body.append ⟨rfl, trivial⟩ trivial

end NormalForm

/-! ## Names of a description -/

/-- The columns that are given back by name. -/
def Returning.names : Option Returning → List String
  | some (.columns names) => names
  | _ => []

/-- The names in a statement about a table, in the order of the text. -/
def Statement.identifiers (table : QualifiedName) : Statement → List String
  | insert s => [table.schema, table.table] ++ s.columns ++ Returning.names s.returning
  | select s =>
      s.columns.filter (· ≠ "*") ++ [table.schema, table.table] ++
        s.restriction.tests.map Test.column ++ s.order.toList.map SortKey.column
  | update s =>
      [table.schema, table.table] ++ s.assignments.entries.map Prod.fst ++
        s.restriction.tests.map Test.column ++ Returning.names s.returning
  | delete s =>
      [table.schema, table.table] ++ s.restriction.tests.map Test.column ++
        Returning.names s.returning

/-! ## Names of a template -/

theorem names_commas (rows : List (List (Sign α))) :
    names (commas rows) = rows.flatMap names :=
  Sign.names_intercalate_chars ", " rows

theorem Test.names_template (test : Test) : names test.template = [test.column] := by
  cases test with
  | comparison p => simp [Test.template, Test.column]
  | membership p => simp [Test.template, Test.column, names_commas, List.flatMap_map]
  | pattern p => simp [Test.template, Test.column]

namespace Chain

theorem predicates_append (first second : Chain α) :
    Chain.predicates (first ++ second) = first.predicates ++ second.predicates :=
  List.filterMap_append

/-- The connectives between chains are no predicates. -/
theorem predicates_connected (junction : Junction) (chains : List (Chain α)) :
    (connected junction chains).predicates = chains.flatMap Chain.predicates := by
  induction chains with
  | nil => rfl
  | cons chain rest ih =>
      cases rest with
      | nil => simp [connected]
      | cons next rest =>
          rw [connected_cons_cons, predicates_append, predicates_append, ih]
          rfl

theorem predicates_map {β : Type} (f : α → β) (chain : Chain α) :
    Chain.predicates (chain.map (Link.map f)) = chain.predicates.map f := by
  induction chain with
  | nil => rfl
  | cons link rest ih =>
      cases link with
      | predicate p => simp [Link.map, ih]
      | connective c => simp [Link.map, ih]

theorem predicates_tests (kind : α → Test) (chain : Chain α) :
    (Chain.tests kind chain).predicates = chain.predicates.map kind := by
  rw [Chain.tests, predicates_map, ← trimmed_eq_closed, predicates_trimmed]

/-- The names of a chain are the columns of its predicates. -/
theorem names_whereTemplate (chain : Chain Test) :
    names chain.whereTemplate = chain.predicates.map Test.column := by
  have links : ∀ links : Chain Test,
      (links.map Link.template).flatMap names = links.predicates.map Test.column := by
    intro links
    induction links with
    | nil => rfl
    | cons link rest ih =>
        rw [List.map_cons, List.flatMap_cons, ih]
        cases link with
        | predicate p => simp [Link.template, Test.names_template]
        | connective c => simp [Link.template]
  cases chain with
  | nil => rfl
  | cons link rest =>
      rw [whereTemplate, Sign.names_append, Sign.names_chars, List.nil_append, Chain.template,
        Sign.names_intercalate_chars, links]

end Chain

theorem Filter.predicates_tests (filter : Filter) :
    filter.tests.predicates = filter.comparisons.map .comparison := by
  cases filter with
  | chain links => exact Chain.predicates_tests .comparison links
  | matching record comparator junction =>
      rw [Filter.tests, Chain.predicates_map, Filter.closed, Chain.predicates_connected,
        Filter.comparisons, List.flatMap_map, List.map_eq_flatMap (l := record.entries)]
      rfl

/-- The condition tests what the groups test. -/
theorem Restriction.predicates_condition (restriction : Restriction) :
    restriction.condition.predicates = restriction.tests := by
  have nonempty : ∀ chains : List (Chain Test),
      (chains.filter fun chain => !chain.isEmpty).flatMap Chain.predicates =
        chains.flatMap Chain.predicates := by
    intro chains
    induction chains with
    | nil => rfl
    | cons chain rest ih =>
        cases chain with
        | nil => exact ih
        | cons link links => simp [ih]
  have group : ∀ {β γ : Type} (part : Option β) (tests : β → Chain Test) (kind : γ → Test)
      (predicates : β → List γ), (∀ b, (tests b).predicates = (predicates b).map kind) →
        Chain.predicates (part.elim [] tests) = (part.elim [] predicates).map kind := by
    intro β γ part tests kind predicates agree
    cases part with
    | none => rfl
    | some b => exact agree b
  rw [condition, Chain.predicates_connected, chains, nonempty, tests]
  simp only [List.flatMap_cons, List.flatMap_nil, List.append_nil, List.append_assoc,
    group _ _ _ _ Filter.predicates_tests, group _ _ _ _ (Chain.predicates_tests .membership),
    group _ _ _ _ (Chain.predicates_tests .pattern)]

theorem names_returningTemplate (returning : Option Returning) :
    names (returningTemplate returning) = Returning.names returning := by
  rcases returning with _ | (_ | listed)
  · rfl
  · exact Sign.names_chars _
  · simp [returningTemplate, Returning.names, namesTemplate, names_commas, List.flatMap_map]

theorem names_rowTemplate (row : List Value) : names (rowTemplate row) = [] := by
  simp [rowTemplate, names_commas, List.flatMap_map]

theorem names_columns (columns : List String) :
    names (commas (columns.map columnTemplate)) = columns.filter (· ≠ "*") := by
  rw [names_commas, List.flatMap_map]
  induction columns with
  | nil => rfl
  | cons column rest ih =>
      rw [List.flatMap_cons, ih, columnTemplate]
      by_cases star : column = "*" <;> simp [star]

theorem names_bound (opening : String) (bound : Option Int64) :
    names (boundTemplate opening bound) = [] := by
  cases bound <;> simp [boundTemplate]

/-- The names in a template are those of the description. -/
theorem Statement.names_template (table : QualifiedName) (statement : Statement) :
    names (statement.normalForm table).template = statement.identifiers table := by
  have title : names table.template = [table.schema, table.table] := rfl
  cases statement with
  | insert s =>
      simp [Statement.normalForm, NormalForm.template, NormalForm.body, Statement.identifiers,
        title, names_rowTemplate, names_returningTemplate, namesTemplate, names_commas,
        List.flatMap_map]
  | select s =>
      have order : names (orderTemplate s.order) = s.order.toList.map SortKey.column := by
        cases s.order <;> simp [orderTemplate]
      simp [Statement.normalForm, NormalForm.template, NormalForm.body, Statement.identifiers,
        title, order, names_columns, names_bound, Chain.names_whereTemplate,
        Restriction.predicates_condition]
  | update s =>
      have set : names (commas (s.assignments.entries.map assignmentTemplate)) =
          s.assignments.entries.map Prod.fst := by
        rw [names_commas, List.flatMap_map, List.map_eq_flatMap]
        rfl
      simp [Statement.normalForm, NormalForm.template, NormalForm.body, Statement.identifiers,
        title, set, names_returningTemplate, Chain.names_whereTemplate,
        Restriction.predicates_condition]
  | delete s =>
      simp [Statement.normalForm, NormalForm.template, NormalForm.body, Statement.identifiers,
        title, names_returningTemplate, Chain.names_whereTemplate,
        Restriction.predicates_condition]

/-! ## Reading a compiled statement -/

/-- The characters of a text that stand outside of its names. -/
def Sign.outside (dialect : Dialect) (signs : List (Sign Nat)) : List Char :=
  signs.flatMap fun sign =>
    match sign with
    | .name _ => []
    | other => other.encode dialect

/-- The text of a compiled statement is its numbered template. -/
theorem Statement.encode_of_compile {dialect : Dialect}
    (numbered : dialect.numbering ≠ .byColumn) {table : QualifiedName} {statement : Statement}
    {command : Command} (compiled : statement.compile dialect table = .ok command) :
    command.sql.toList =
      (Sign.numberFrom dialect.startIndex (statement.normalForm table).template).flatMap
        (Sign.encode dialect) := by
  rcases Statement.compile_eq_ok_iff.mp compiled with ⟨clauses, valid, rfl⟩
  rw [← Statement.signs_statement valid table, Fragment.encode_numberFrom numbered]

/-- Reading a compiled statement finds its numbered template. -/
theorem Statement.scan?_of_compile {dialect : Dialect} (legible : dialect.Legible)
    {table : QualifiedName} {statement : Statement} {command : Command}
    (compiled : statement.compile dialect table = .ok command) :
    dialect.scan? command.sql.toList =
      some (Sign.numberFrom dialect.startIndex (statement.normalForm table).template) := by
  rw [Statement.encode_of_compile legible.numbered compiled]
  exact Dialect.scan?_encode legible
    ((statement.normalForm table).spaced_template.numberFrom dialect.startIndex)

/-- Outside of the names, the placeholders and the last semicolon there is none. -/
theorem Sign.semicolon_not_mem_outside {dialect : Dialect} (legible : dialect.Legible)
    {signs : List (Sign Nat)} (spaced : Spaced isWordChar signs) :
    ';' ∉ Sign.outside dialect signs := by
  intro member
  rcases List.mem_flatMap.mp member with ⟨sign, listed, inside⟩
  cases sign with
  | char c =>
      obtain rfl := List.mem_singleton.mp inside
      exact absurd (spaced.allowed_of_mem listed) (by decide)
  | name n => contradiction
  | place index =>
      rcases List.mem_append.mp inside with sigil | digit
      · exact legible.semicolon_not_mem sigil
      · exact absurd (Nat.isDigit_of_mem_toDigits (by decide) (by decide) digit) (by decide)

/-- Reading a compiled statement finds exactly the names of the description, in
order, the placeholders of the parameters, without a gap, and between them
characters of the fixed words only.  Outside of the names there is one
semicolon, which ends the text. -/
theorem Statement.compile_contained {dialect : Dialect} (legible : dialect.Legible)
    {table : QualifiedName} {statement : Statement} {command : Command}
    (compiled : statement.compile dialect table = .ok command) :
    ∃ before, dialect.scan? command.sql.toList = some (before ++ [.char ';']) ∧
      command.sql.toList = before.flatMap (Sign.encode dialect) ++ [';'] ∧
      names before = statement.identifiers table ∧
      Sign.places before = List.range' dialect.startIndex command.params.length ∧
      (∀ c, Sign.char c ∈ before → isWordChar c = true) ∧
      ';' ∉ Sign.outside dialect before := by
  have spaced := (statement.normalForm table).spaced_body.numberFrom dialect.startIndex
  have template : Sign.numberFrom dialect.startIndex (statement.normalForm table).template =
      Sign.numberFrom dialect.startIndex (statement.normalForm table).body ++ [.char ';'] :=
    Sign.numberFrom_append_char _ _ ';'
  refine ⟨Sign.numberFrom dialect.startIndex (statement.normalForm table).body,
    ?_, ?_, ?_, ?_, ?_, ?_⟩
  · rw [Statement.scan?_of_compile legible compiled, template]
  · rw [Statement.encode_of_compile legible.numbered compiled, template, List.flatMap_append]
    rfl
  · rw [← Statement.names_template, NormalForm.template]
    simp
  · rw [← Statement.places_of_compile compiled, NormalForm.template, Sign.places_numberFrom]
    simp
  · intro c member
    exact spaced.allowed_of_mem member
  · exact Sign.semicolon_not_mem_outside legible spaced

/-- The names of the sample are found whatever stands in them. -/
theorem Statement.compile_contained_sample :
    Dialect.postgres.Legible ∧
      ∃ command before,
        (Statement.update .sample).compile .postgres ⟨"s", "t"⟩ = .ok command ∧
        Dialect.postgres.scan? command.sql.toList = some (before ++ [.char ';']) ∧
        command.sql.toList = before.flatMap (Sign.encode .postgres) ++ [';'] ∧
        names before = ["s", "t", "na\"me", "id", "$1; --", "na\"me", ""] ∧
        Sign.places before = [1, 2, 3, 4, 5] ∧
        (∀ c, Sign.char c ∈ before → isWordChar c = true) ∧
        ';' ∉ Sign.outside .postgres before := by
  have compiled : (Statement.update .sample).compile .postgres ⟨"s", "t"⟩ = .ok {
      verb := .update
      sql := _
      params := [.text "b", .int 1, .null, .int 2, .text "a%"] } := rfl
  obtain ⟨before, contained⟩ :=
    Statement.compile_contained Dialect.legible_postgres compiled
  exact ⟨Dialect.legible_postgres, _, before, compiled, contained⟩

end ParamSql

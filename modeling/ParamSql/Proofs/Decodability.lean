import ParamSql.Proofs.Decoder

/-!
# Compiled statements are uniquely decodable

The text and the parameters of a compiled statement determine its normal form.
The decoder finds it: it scans the text, puts the parameters at their places
and reads the clauses one after the other.

Hence two statements compile to the same text and parameters exactly if they
have the same normal form.
-/

namespace ParamSql

namespace Decoder

open Sign (chars)

variable {α : Type}

/-! ## Clauses -/

/-- Read a table with its schema. -/
def table : Reader QualifiedName := fun signs => do
  let (schema, behind) ← name signs
  let (table, behind) ← name (← strip? "." behind)
  return (⟨schema, table⟩, behind)

/-- Read a column; a star is no name. -/
def column : Reader String := fun signs =>
  match strip? "*" signs with
  | some behind => some ("*", behind)
  | none => name signs

/-- Read a row of values. -/
def row : Reader (List Value) := fun signs => do
  let (values, behind) ← list value (← strip? "(" signs)
  return (values, ← strip? ")" behind)

/-- Read a column with the value it is set to. -/
def assignment : Reader (String × Value) := fun signs => do
  let (column, behind) ← name signs
  let (v, behind) ← value (← strip? "=" behind)
  return ((column, v), behind)

/-- Read the columns that are given back. -/
def returned : Reader Returning := fun signs =>
  match strip? "*" signs with
  | some behind => some (.all, behind)
  | none => (list name signs).map fun (names, behind) => (.columns names, behind)

/-- Read the column and direction of a sort. -/
def sortKey : Reader SortKey := fun signs => do
  let (column, behind) ← name signs
  let (direction, behind) ← keyword " " "" behind
  return (⟨column, direction⟩, behind)

/-- Read a bound. -/
def count : Reader Int64
  | .place (.int n) :: rest => some (n, rest)
  | _ => none

/-- Read a clause, if its opening comes next. -/
def clause (opening : String) (reader : Reader α) : Reader (Option α) := fun signs =>
  match strip? opening signs with
  | some behind => (reader behind).map fun (a, behind) => (some a, behind)
  | none => some (none, signs)

theorem clause_of_opening (opening : String) (reader : Reader α) (signs : List (Sign Value)) :
    clause opening reader (chars opening ++ signs) =
      (reader signs).map fun (a, behind) => (some a, behind) := by
  rw [clause, strip?_chars_append]

theorem clause_of_none {opening : String} {signs : List (Sign Value)}
    (unopened : strip? opening signs = none) (reader : Reader α) :
    clause opening reader signs = some (none, signs) := by
  rw [clause, unopened]

theorem row_template_append {values : List Value} (nonempty : values ≠ [])
    (rest : List (Sign Value)) : row (rowTemplate values ++ rest) = some (values, rest) := by
  have read : list value (Sign.commas (values.map fun v => [.place v]) ++ (chars ")" ++ rest)) =
      some (values, chars ")" ++ rest) := list_value nonempty rfl
  rw [rowTemplate, List.append_assoc, List.append_assoc, row, strip?_chars_append]
  simp only [Option.bind_eq_bind, Option.bind_some, read, strip?_chars_append]
  rfl

theorem column_template_append (name : String) (rest : List (Sign Value)) :
    column (columnTemplate name ++ rest) = some (name, rest) := by
  rw [columnTemplate]
  by_cases star : name = "*"
  · rw [if_pos star, column, strip?_chars_append, star]
  · rw [if_neg star]
    rfl

theorem assignment_template_append (entry : String × Value) (rest : List (Sign Value)) :
    assignment (assignmentTemplate entry ++ rest) = some (entry, rest) :=
  rfl

theorem returning_template_append {returning : Option Returning}
    (listed : returning ≠ some (.columns [])) :
    clause " RETURNING " returned (returningTemplate returning ++ chars ";") =
      some (returning, chars ";") := by
  rcases returning with _ | (_ | names)
  · rfl
  · rfl
  · have nonempty : names ≠ [] := by
      rintro rfl
      exact listed rfl
    have read : list name (namesTemplate names ++ chars ";") = some (names, chars ";") :=
      list_name nonempty rfl
    have named : strip? "*" (namesTemplate names ++ chars ";") = none := by
      match names, nonempty with
      | [_], _ => rfl
      | _ :: _ :: _, _ => rfl
    rw [returningTemplate, List.append_assoc, clause_of_opening, returned, named, read]
    rfl

theorem sortKey_append (column : String) (direction : Direction) (rest : List (Sign Value)) :
    sortKey (.name column :: (chars (" " ++ direction.word) ++ rest)) =
      some (⟨column, direction⟩, rest) := by
  cases direction <;> rfl

theorem order_template_append (order : Option SortKey) {rest : List (Sign Value)}
    (unopened : strip? " ORDER BY " rest = none) :
    clause " ORDER BY " sortKey (orderTemplate order ++ rest) = some (order, rest) := by
  cases order with
  | none => exact clause_of_none unopened sortKey
  | some key =>
      rw [orderTemplate, List.append_assoc, clause_of_opening, List.cons_append,
        sortKey_append, Option.map_some]

theorem bound_template_append {opening : String} (bound : Option Int64)
    {rest : List (Sign Value)} (unopened : strip? opening rest = none) :
    clause opening count (boundTemplate opening bound ++ rest) = some (bound, rest) := by
  cases bound with
  | none => exact clause_of_none unopened count
  | some n =>
      rw [boundTemplate, List.append_assoc, clause_of_opening]
      rfl

/-! ## Statements -/

/-- The last reader: a semicolon must end the signs. -/
def ended (normal : NormalForm) (signs : List (Sign Value)) : Option NormalForm :=
  match strip? ";" signs with
  | some [] => some normal
  | _ => none

/-- Decode new rows. -/
def insert (signs : List (Sign Value)) : Option NormalForm := do
  let (table, behind) ← table (← strip? "INSERT INTO " signs)
  let (columns, behind) ← list name (← strip? " (" behind)
  let (rows, behind) ← list row (← strip? ") VALUES " behind)
  let (returning, behind) ← clause " RETURNING " returned behind
  ended (.insert table columns rows returning) behind

/-- Decode rows to be read. -/
def select (signs : List (Sign Value)) : Option NormalForm := do
  let (columns, behind) ← list column (← strip? "SELECT " signs)
  let (table, behind) ← table (← strip? " FROM " behind)
  let (condition, behind) ← condition behind
  let (order, behind) ← clause " ORDER BY " sortKey behind
  let (limit, behind) ← clause " LIMIT " count behind
  let (offset, behind) ← clause " OFFSET " count behind
  ended (.select table columns condition order limit offset) behind

/-- Decode rows to be changed. -/
def update (signs : List (Sign Value)) : Option NormalForm := do
  let (table, behind) ← table (← strip? "UPDATE " signs)
  let (assignments, behind) ← list assignment (← strip? " SET " behind)
  let (condition, behind) ← condition behind
  let (returning, behind) ← clause " RETURNING " returned behind
  ended (.update table assignments condition returning) behind

/-- Decode rows to be removed. -/
def delete (signs : List (Sign Value)) : Option NormalForm := do
  let (table, behind) ← table (← strip? "DELETE FROM " signs)
  let (condition, behind) ← condition behind
  let (returning, behind) ← clause " RETURNING " returned behind
  ended (.delete table condition returning) behind

/-- Decode the signs of a statement. -/
def statement (signs : List (Sign Value)) : Option NormalForm :=
  insert signs <|> select signs <|> update signs <|> delete signs

end Decoder

/-- A normal form that can be read back. -/
def NormalForm.Readable : NormalForm → Prop
  | insert _ columns rows returning =>
      columns ≠ [] ∧ rows ≠ [] ∧ (∀ row ∈ rows, row ≠ []) ∧ returning ≠ some (.columns [])
  | select _ columns condition _ _ _ =>
      columns ≠ [] ∧ (condition ≠ [] → Decoder.Complete condition)
  | update _ assignments condition returning =>
      assignments ≠ [] ∧ (condition ≠ [] → Decoder.Complete condition) ∧
        returning ≠ some (.columns [])
  | delete _ condition returning =>
      (condition ≠ [] → Decoder.Complete condition) ∧ returning ≠ some (.columns [])

namespace Decoder

open Sign (chars)

theorem table_template_append (name : QualifiedName) (rest : List (Sign Value)) :
    table (name.template ++ rest) = some (name, rest) :=
  rfl

/-- Nothing behind a condition goes on with it. -/
theorem returning_ends_condition (returning : Option Returning) :
    strip? " WHERE " (returningTemplate returning ++ chars ";") = none ∧
      (strip? " " (returningTemplate returning ++ chars ";")).filter startsLink = none := by
  rcases returning with _ | (_ | names)
  · exact ⟨rfl, rfl⟩
  · exact ⟨rfl, rfl⟩
  · exact ⟨rfl, rfl⟩

theorem insert_template {title : QualifiedName} {columns : List String}
    {rows : List (List Value)} {returning : Option Returning}
    (readable : (NormalForm.insert title columns rows returning).Readable) :
    insert (NormalForm.insert title columns rows returning).template =
      some (.insert title columns rows returning) := by
  rcases readable with ⟨some_column, some_row, some_value, listed⟩
  have behind_rows : strip? ", " (returningTemplate returning ++ chars ";") = none := by
    rcases returning with _ | (_ | names) <;> rfl
  have read_columns : ∀ rest, list name (namesTemplate columns ++ (chars ") VALUES " ++ rest)) =
      some (columns, chars ") VALUES " ++ rest) := fun rest => list_name some_column rfl
  have read_rows := list_commas_append some_row
    (fun values member => row_template_append (some_value values member)) behind_rows
  simp only [NormalForm.template, NormalForm.body, List.append_assoc, insert,
    strip?_chars_append, Option.bind_eq_bind, Option.bind_some, table_template_append,
    read_columns, read_rows, returning_template_append listed]
  rfl

/-- The clauses behind the condition of a selection do not go on with it. -/
theorem order_ends_condition (order : Option SortKey) (limit offset : Option Int64) :
    strip? " WHERE " (orderTemplate order ++ (boundTemplate " LIMIT " limit ++
        (boundTemplate " OFFSET " offset ++ chars ";"))) = none ∧
      (strip? " " (orderTemplate order ++ (boundTemplate " LIMIT " limit ++
        (boundTemplate " OFFSET " offset ++ chars ";")))).filter startsLink = none := by
  cases order with
  | some key => exact ⟨rfl, rfl⟩
  | none =>
      cases limit with
      | some n => exact ⟨rfl, rfl⟩
      | none => cases offset <;> exact ⟨rfl, rfl⟩

theorem select_template {title : QualifiedName} {columns : List String} {test : Chain Test}
    {order : Option SortKey} {limit offset : Option Int64}
    (readable : (NormalForm.select title columns test order limit offset).Readable) :
    select (NormalForm.select title columns test order limit offset).template =
      some (.select title columns test order limit offset) := by
  rcases readable with ⟨some_column, complete⟩
  have no_order : strip? " ORDER BY " (boundTemplate " LIMIT " limit ++
      (boundTemplate " OFFSET " offset ++ chars ";")) = none := by
    cases limit with
    | some n => rfl
    | none => cases offset <;> rfl
  have no_limit : strip? " LIMIT " (boundTemplate " OFFSET " offset ++ chars ";") = none := by
    cases offset <;> rfl
  have read_columns : ∀ rest,
      list column (Sign.commas (columns.map columnTemplate) ++ (chars " FROM " ++ rest)) =
        some (columns, chars " FROM " ++ rest) :=
    fun rest => list_commas_append some_column (fun name _ => column_template_append name) rfl
  have read_offset : clause " OFFSET " count (boundTemplate " OFFSET " offset ++ chars ";") =
      some (offset, chars ";") := bound_template_append offset rfl
  rcases order_ends_condition order limit offset with ⟨unopened, closed⟩
  simp only [NormalForm.template, NormalForm.body, List.append_assoc, select,
    strip?_chars_append, Option.bind_eq_bind, Option.bind_some, read_columns,
    table_template_append, condition_whereTemplate_append complete unopened closed,
    order_template_append order no_order, bound_template_append limit no_limit, read_offset]
  rfl

theorem update_template {title : QualifiedName} {assignments : List (String × Value)}
    {test : Chain Test} {returning : Option Returning}
    (readable : (NormalForm.update title assignments test returning).Readable) :
    update (NormalForm.update title assignments test returning).template =
      some (.update title assignments test returning) := by
  rcases readable with ⟨some_assignment, complete, listed⟩
  rcases returning_ends_condition returning with ⟨unopened, closed⟩
  have no_comma : strip? ", " (test.whereTemplate ++ (returningTemplate returning ++ chars ";")) =
      none := by
    cases test with
    | cons link rest => rfl
    | nil => rcases returning with _ | (_ | names) <;> rfl
  have read_assignments := list_commas_append some_assignment
    (fun entry _ => assignment_template_append entry) no_comma
  simp only [NormalForm.template, NormalForm.body, List.append_assoc, update,
    strip?_chars_append, Option.bind_eq_bind, Option.bind_some, table_template_append,
    read_assignments, condition_whereTemplate_append complete unopened closed,
    returning_template_append listed]
  rfl

theorem delete_template {title : QualifiedName} {test : Chain Test}
    {returning : Option Returning}
    (readable : (NormalForm.delete title test returning).Readable) :
    delete (NormalForm.delete title test returning).template =
      some (.delete title test returning) := by
  rcases readable with ⟨complete, listed⟩
  rcases returning_ends_condition returning with ⟨unopened, closed⟩
  simp only [NormalForm.template, NormalForm.body, List.append_assoc, delete,
    strip?_chars_append, Option.bind_eq_bind, Option.bind_some, table_template_append,
    condition_whereTemplate_append complete unopened closed, returning_template_append listed]
  rfl

/-- The template of a readable normal form is decoded. -/
theorem statement_template {normal : NormalForm} (readable : normal.Readable) :
    statement normal.template = some normal := by
  cases normal with
  | insert title columns rows returning =>
      rw [statement, insert_template readable]
      rfl
  | select title columns test order limit offset =>
      have no_insert :
          insert (NormalForm.select title columns test order limit offset).template = none := by
        simp only [NormalForm.template, NormalForm.body, List.append_assoc]
        rfl
      rw [statement, no_insert, select_template readable]
      rfl
  | update title assignments test returning =>
      have no_insert :
          insert (NormalForm.update title assignments test returning).template = none := by
        simp only [NormalForm.template, NormalForm.body, List.append_assoc]
        rfl
      have no_select :
          select (NormalForm.update title assignments test returning).template = none := by
        simp only [NormalForm.template, NormalForm.body, List.append_assoc]
        rfl
      rw [statement, no_insert, no_select, update_template readable]
      rfl
  | delete title test returning =>
      have no_insert : insert (NormalForm.delete title test returning).template = none := by
        simp only [NormalForm.template, NormalForm.body, List.append_assoc]
        rfl
      have no_select : select (NormalForm.delete title test returning).template = none := by
        simp only [NormalForm.template, NormalForm.body, List.append_assoc]
        rfl
      have no_update : update (NormalForm.delete title test returning).template = none := by
        simp only [NormalForm.template, NormalForm.body, List.append_assoc]
        rfl
      rw [statement, no_insert, no_select, no_update, delete_template readable]
      rfl

/-! ## Parameters at their places -/

/-- Put the parameters, the first of which has a given index, at the places
that are numbered with their indices. -/
def resolve? (first : Nat) (params : List Value) : List (Sign Nat) → Option (List (Sign Value))
  | [] => some []
  | .char c :: rest => (resolve? first params rest).map (.char c :: ·)
  | .name n :: rest => (resolve? first params rest).map (.name n :: ·)
  | .place index :: rest =>
      if index < first then none
      else do
        let v ← params[index - first]?
        let signs ← resolve? first params rest
        return .place v :: signs

/-- Parameters find the places they were taken from. -/
theorem resolve?_numberFrom (first : Nat) (earlier : List Value) (signs : List (Sign Value)) :
    resolve? first (earlier ++ Sign.places signs)
        (Sign.numberFrom (first + earlier.length) signs) = some signs := by
  induction signs generalizing earlier with
  | nil => rfl
  | cons sign rest ih =>
      cases sign with
      | char c => simp [Sign.numberFrom, resolve?, ih]
      | name n => simp [Sign.numberFrom, resolve?, ih]
      | place v =>
          have later := ih (earlier ++ [v])
          rw [List.append_assoc, List.singleton_append, List.length_append,
            List.length_singleton, ← Nat.add_assoc] at later
          simp [Sign.numberFrom, resolve?, later]

end Decoder

/-- Decode a text with parameters in a dialect. -/
def Dialect.decode? (dialect : Dialect) (sql : String) (params : List Value) :
    Option NormalForm := do
  let signs ← dialect.scan? sql.toList
  Decoder.statement (← Decoder.resolve? dialect.startIndex params signs)

/-! ## Conditions of compiled statements -/

open Decoder (Complete Listed)

namespace Chain

variable {α : Type}

/-- What is left of a chain when the end is cut off ends in a predicate. -/
theorem endsInPredicate_closed {chain : Chain α} (nonempty : Chain.closed chain ≠ []) :
    EndsInPredicate (Chain.closed chain) := by
  have predicate := List.rdropWhile_last_not (fun link : Link α => !link.isPredicate) chain nonempty
  have last := List.getLast?_eq_some_getLast nonempty
  cases link : (Chain.closed chain).getLast nonempty with
  | predicate p => exact ⟨p, last.trans (congrArg some link)⟩
  | connective c =>
      have connective : (List.rdropWhile (fun link : Link α => !link.isPredicate) chain).getLast
          nonempty = .connective c := link
      rw [connective] at predicate
      exact absurd rfl predicate

theorem EndsInPredicate.map {β : Type} {chain : Chain α} (ends : EndsInPredicate chain)
    (f : α → β) : EndsInPredicate (chain.map (Link.map f)) := by
  rcases ends with ⟨p, last⟩
  refine ⟨f p, ?_⟩
  rw [List.getLast?_map, last]
  rfl

/-- Connected chains end as the last of them does. -/
theorem endsInPredicate_connected (junction : Junction) {chains : List (Chain α)}
    (some_chain : chains ≠ []) (ends : ∀ chain ∈ chains, EndsInPredicate chain) :
    EndsInPredicate (connected junction chains) := by
  induction chains with
  | nil => contradiction
  | cons chain rest ih =>
      cases rest with
      | nil =>
          rw [connected, List.intercalate_singleton]
          exact ends chain List.mem_cons_self
      | cons next rest =>
          obtain ⟨p, last⟩ := ih (List.cons_ne_nil _ _) fun chain member =>
            ends chain (List.mem_cons_of_mem _ member)
          refine ⟨p, ?_⟩
          rw [connected_cons_cons, List.getLast?_append, List.getLast?_append, last]
          rfl

theorem endsInPredicate_tests (kind : α → Test) {chain : Chain α}
    (nonempty : Chain.tests kind chain ≠ []) : EndsInPredicate (Chain.tests kind chain) := by
  have kept : Chain.closed chain ≠ [] := by
    intro none_left
    exact nonempty (by rw [Chain.tests, none_left, List.map_nil])
  exact (endsInPredicate_closed kept).map kind

end Chain

theorem Filter.endsInPredicate_tests {filter : Filter} (nonempty : filter.tests ≠ []) :
    Chain.EndsInPredicate filter.tests := by
  cases filter with
  | chain links => exact Chain.endsInPredicate_tests .comparison nonempty
  | matching record comparator junction =>
      have some_entry : record.entries ≠ [] := by
        intro none_left
        exact nonempty (by rw [Filter.tests, Filter.closed, none_left]; rfl)
      apply Chain.EndsInPredicate.map
      apply Chain.endsInPredicate_connected
      · simpa using some_entry
      · intro chain member
        rcases List.mem_map.mp member with ⟨entry, -, rfl⟩
        exact ⟨_, rfl⟩

namespace Restriction

theorem endsInPredicate_of_mem_chains {restriction : Restriction} {chain : Chain Test}
    (member : chain ∈ restriction.chains) : chain.EndsInPredicate := by
  have group : ∀ {β : Type} (part : Option β) (tests : β → Chain Test),
      (∀ b, tests b ≠ [] → (tests b).EndsInPredicate) →
        part.elim [] tests ≠ [] → Chain.EndsInPredicate (part.elim [] tests) := by
    intro β part tests ends nonempty
    cases part with
    | none => contradiction
    | some b => exact ends b nonempty
  rcases List.mem_filter.mp member with ⟨listed, nonempty⟩
  have nonempty : chain ≠ [] := by simpa using nonempty
  simp only [List.mem_cons, List.not_mem_nil, or_false] at listed
  rcases listed with rfl | rfl | rfl
  · exact group _ _ (fun _ => Filter.endsInPredicate_tests) nonempty
  · exact group _ _ (fun _ => Chain.endsInPredicate_tests .membership) nonempty
  · exact group _ _ (fun _ => Chain.endsInPredicate_tests .pattern) nonempty

/-- A restriction whose memberships all list a value has tests that can be read
back. -/
theorem listed_of_mem_tests {restriction : Restriction}
    (valid : restriction.emptyMembership? = none) :
    ∀ p ∈ restriction.tests, Listed p := by
  intro p member
  cases p with
  | comparison p => trivial
  | pattern p => trivial
  | membership p =>
      have listed : p ∈ (restriction.memberships.getD []).predicates := by
        rw [tests] at member
        cases given : restriction.memberships with
        | none => simp [given] at member
        | some chain => simpa [given] using member
      have absent := List.find?_eq_none.mp (Option.map_eq_none_iff.mp valid) p listed
      simpa [Listed] using absent

/-- The condition of a restriction that is not refused can be read back. -/
theorem complete_condition {restriction : Restriction}
    (valid : restriction.emptyMembership? = none) (nonempty : restriction.condition ≠ []) :
    Complete restriction.condition where
  ends := by
    apply Chain.endsInPredicate_connected
    · intro none_left
      exact nonempty (by rw [condition, none_left]; rfl)
    · intro chain member
      exact endsInPredicate_of_mem_chains member
  listed := by
    rw [predicates_condition]
    exact listed_of_mem_tests valid

end Restriction

/-- Statements with clauses have normal forms that can be read back. -/
theorem Statement.readable_normalForm {statement : Statement} {clauses : Clauses Fragment}
    (valid : statement.clauses = .ok clauses) (table : QualifiedName) :
    (statement.normalForm table).Readable := by
  cases statement with
  | insert s =>
      rcases Insert.clauses_eq_ok_iff.mp valid with ⟨columns, rows, returning, -⟩
      refine ⟨columns, by simpa using rows, ?_, returning⟩
      intro row member
      rcases List.mem_map.mp member with ⟨record, -, rfl⟩
      simpa [Record.project] using columns
  | select s =>
      rcases Select.clauses_eq_ok_iff.mp valid with ⟨columns, memberships, -⟩
      exact ⟨columns, Restriction.complete_condition memberships⟩
  | update s =>
      rcases Update.clauses_eq_ok_iff.mp valid with ⟨assignments, -, memberships, returning, -⟩
      exact ⟨assignments, Restriction.complete_condition memberships, returning⟩
  | delete s =>
      rcases Delete.clauses_eq_ok_iff.mp valid with ⟨-, memberships, returning, -⟩
      exact ⟨Restriction.complete_condition memberships, returning⟩

/-! ## Compiled statements -/

/-- Decoding a compiled statement gives its normal form. -/
theorem Statement.decode?_of_compile {dialect : Dialect} (legible : dialect.Legible)
    {table : QualifiedName} {statement : Statement} {command : Command}
    (compiled : statement.compile dialect table = .ok command) :
    dialect.decode? command.sql command.params = some (statement.normalForm table) := by
  rcases Statement.compile_eq_ok_iff.mp compiled with ⟨clauses, valid, -⟩
  have scanned := Statement.scan?_of_compile legible compiled
  have resolved := Decoder.resolve?_numberFrom dialect.startIndex []
    (statement.normalForm table).template
  rw [Statement.places_of_compile compiled, List.nil_append, List.length_nil,
    Nat.add_zero] at resolved
  rw [Dialect.decode?, scanned, Option.bind_eq_bind, Option.bind_some, resolved,
    Option.bind_eq_bind, Option.bind_some]
  exact Decoder.statement_template (Statement.readable_normalForm valid table)

/-- Text and parameters are written from the normal form. -/
theorem Statement.eq_of_normalForm_eq {dialect : Dialect} (legible : dialect.Legible)
    {table₁ table₂ : QualifiedName} {statement₁ statement₂ : Statement}
    {command₁ command₂ : Command} (compiled₁ : statement₁.compile dialect table₁ = .ok command₁)
    (compiled₂ : statement₂.compile dialect table₂ = .ok command₂)
    (equal : statement₁.normalForm table₁ = statement₂.normalForm table₂) :
    command₁.sql = command₂.sql ∧ command₁.params = command₂.params := by
  constructor
  · apply String.toList_injective
    rw [Statement.encode_of_compile legible.numbered compiled₁,
      Statement.encode_of_compile legible.numbered compiled₂, equal]
  · rw [← Statement.places_of_compile compiled₁, ← Statement.places_of_compile compiled₂, equal]

/-- Compiled statements are uniquely decodable in both dialects with numbered
placeholders: decoding gives the normal form, so two statements compile to the
same text and parameters exactly if they have the same normal form. -/
theorem Statement.compile_decodable {dialect : Dialect}
    (standard : dialect = .postgres ∨ dialect = .positional) :
    (∀ (table : QualifiedName) (statement : Statement) (command : Command),
      statement.compile dialect table = .ok command →
        dialect.decode? command.sql command.params = some (statement.normalForm table)) ∧
    ∀ (table₁ table₂ : QualifiedName) (statement₁ statement₂ : Statement)
      (command₁ command₂ : Command),
      statement₁.compile dialect table₁ = .ok command₁ →
      statement₂.compile dialect table₂ = .ok command₂ →
        ((command₁.sql = command₂.sql ∧ command₁.params = command₂.params) ↔
          statement₁.normalForm table₁ = statement₂.normalForm table₂) := by
  have legible : dialect.Legible := by
    rcases standard with rfl | rfl
    · exact Dialect.legible_postgres
    · exact Dialect.legible_positional
  constructor
  · intro table statement command compiled
    exact Statement.decode?_of_compile legible compiled
  · intro table₁ table₂ statement₁ statement₂ command₁ command₂ compiled₁ compiled₂
    constructor
    · rintro ⟨sql, params⟩
      have decoded := Statement.decode?_of_compile legible compiled₁
      rw [sql, params, Statement.decode?_of_compile legible compiled₂] at decoded
      exact (Option.some.inj decoded).symm
    · exact Statement.eq_of_normalForm_eq legible compiled₁ compiled₂

/-- The condition of the sample is decoded without the connectives behind its
groups. -/
theorem Statement.compile_decodable_sample :
    ∃ command, (Statement.update .sample).compile .postgres ⟨"s", "t"⟩ = .ok command ∧
      Dialect.postgres.decode? command.sql command.params =
        some (.update ⟨"s", "t"⟩ [("na\"me", .text "b")]
          [.predicate (.comparison ⟨"id", .atLeast, .int 1⟩), .connective .and,
            .predicate (.membership ⟨"$1; --", .notIn, [.null, .int 2]⟩), .connective .and,
            .connective .not, .predicate (.pattern ⟨"na\"me", .like, .text "a%"⟩)]
          (some (.columns [""]))) := by
  obtain ⟨command, compiled⟩ :
      ∃ command, (Statement.update .sample).compile .postgres ⟨"s", "t"⟩ = .ok command :=
    ⟨_, rfl⟩
  exact ⟨command, compiled, (Statement.compile_decodable (Or.inl rfl)).1 _ _ _ compiled⟩

end ParamSql

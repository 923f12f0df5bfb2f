import ParamSql.Proofs.Template

/-!
# Placeholders and parameters

The parameters of a statement can be read off its description without writing
it: rows and columns in order, then the predicates of the three groups, then
the bounds.  The main result is that compiling keeps exactly these values in
this order, and that its text is the template of the statement with the
placeholder of the `n`-th parameter at the `n`-th place.
-/

namespace ParamSql

variable {α : Type}

/-! ## Parameters of a description -/

/-- The parameter of a comparison. -/
def Comparison.binding (p : Comparison) : String × Value :=
  (p.column, p.value)

/-- The parameters of a membership, one for each listed value. -/
def Membership.bindings (p : Membership) : List (String × Value) :=
  p.values.map fun value => (p.column, value)

/-- The parameter of a pattern. -/
def Pattern.binding (p : Pattern) : String × Value :=
  (p.column, p.pattern)

/-- The parameters of a filter. -/
def Filter.bindings : Filter → List (String × Value)
  | matching record _ _ => record.entries
  | chain links => (Chain.predicates links).map Comparison.binding

/-- The parameters of the three groups, one group after the other. -/
def Restriction.bindings (restriction : Restriction) : List (String × Value) :=
  restriction.filter.elim [] Filter.bindings ++
    restriction.memberships.elim []
      (fun chain => (Chain.predicates chain).flatMap Membership.bindings) ++
    restriction.patterns.elim [] (fun chain => (Chain.predicates chain).map Pattern.binding)

/-- The parameter of a bound that holds. -/
def boundBinding (column : String) (bound : Option Int64) : List (String × Value) :=
  bound.toList.map fun count => (column, .int count)

/-- The parameters of a statement, whatever the dialect. -/
def Statement.bindings : Statement → List (String × Value)
  | insert s =>
      s.rows.flatMap fun row =>
        s.columns.map fun column => (column, (row.get? column).getD .null)
  | select s =>
      s.restriction.bindings ++ boundBinding "limit" (Window.bound Window.limit s.window) ++
        boundBinding "offset" (Window.bound Window.offset s.window)
  | update s => s.assignments.entries ++ s.restriction.bindings
  | delete s => s.restriction.bindings

/-! ## Parameters of the groups -/

open Fragment (bindings?)

namespace Chain

@[simp]
theorem predicates_cons_predicate (p : α) (rest : Chain α) :
    Chain.predicates (.predicate p :: rest) = p :: rest.predicates :=
  rfl

@[simp]
theorem predicates_cons_connective (c : Connective) (rest : Chain α) :
    Chain.predicates (.connective c :: rest) = rest.predicates :=
  rfl

/-- What is cut off a chain holds no predicate. -/
theorem predicates_trimmed (chain : Chain α) :
    Chain.predicates chain.trimmed = chain.predicates := by
  induction chain with
  | nil => rfl
  | cons link rest ih =>
      rw [Chain.trimmed]
      cases kept : Chain.trimmed rest with
      | cons next later =>
          rw [kept] at ih
          cases link with
          | predicate p => rw [predicates_cons_predicate, predicates_cons_predicate, ih]
          | connective c => rw [predicates_cons_connective, predicates_cons_connective, ih]
      | nil =>
          rw [kept] at ih
          cases link with
          | predicate p =>
              rw [predicates_cons_predicate, ← ih]
              rfl
          | connective c =>
              rw [predicates_cons_connective, ← ih]
              rfl

/-- Connectives have no parameters. -/
theorem flatMap_bindings_links (write : α → Fragment) (links : Chain α) :
    links.flatMap (fun link => (link.fragment write).bindings) =
      links.predicates.flatMap fun p => (write p).bindings := by
  induction links with
  | nil => rfl
  | cons link rest ih =>
      rw [List.flatMap_cons, ih]
      cases link with
      | predicate p => rfl
      | connective c => rfl

/-- The parameters of a chain are those of its predicates. -/
theorem bindings_fragment? (write : α → Fragment) (chain : Chain α) :
    bindings? (chain.fragment? write) =
      chain.predicates.flatMap fun p => (write p).bindings := by
  rw [← predicates_trimmed, ← flatMap_bindings_links, Chain.fragment?]
  cases chain.trimmed with
  | nil => rfl
  | cons link rest =>
      rw [bindings?, Option.elim, Fragment.bindings_joined, List.flatMap_map]

end Chain

theorem Comparison.bindings_fragment (p : Comparison) : p.fragment.bindings = [p.binding] :=
  rfl

theorem Membership.bindings_fragment (p : Membership) : p.fragment.bindings = p.bindings := by
  rw [Membership.bindings, List.map_eq_flatMap]
  simp [Membership.fragment, Fragment.bindings, Fragment.bindings_joined, List.flatMap_map]

theorem Pattern.bindings_fragment (p : Pattern) : p.fragment.bindings = [p.binding] :=
  rfl

theorem Filter.bindings_fragment? (filter : Filter) :
    bindings? filter.fragment? = filter.bindings := by
  cases filter with
  | chain links =>
      rw [Filter.fragment?, Chain.bindings_fragment?]
      exact List.map_eq_flatMap.symm
  | matching record comparator junction =>
      rw [Filter.fragment?, Record.isEmpty]
      cases entries : record.entries with
      | nil => simp [bindings?, Filter.bindings, entries]
      | cons entry rest =>
          simp [bindings?, Filter.bindings, entries, Fragment.bindings_joined,
            Comparison.bindings_fragment, Comparison.binding, List.flatMap_map]

theorem Chain.bindings_memberships (chain : Chain Membership) :
    bindings? (chain.fragment? Membership.fragment) =
      (Chain.predicates chain).flatMap Membership.bindings := by
  simp only [Chain.bindings_fragment?, Membership.bindings_fragment]

theorem Chain.bindings_patterns (chain : Chain Pattern) :
    bindings? (chain.fragment? Pattern.fragment) =
      (Chain.predicates chain).map Pattern.binding := by
  rw [Chain.bindings_fragment?]
  exact List.map_eq_flatMap.symm

/-- The groups are written in the order in which the parameters are listed. -/
theorem Restriction.bindings_groups (restriction : Restriction) :
    restriction.groups.bindings = restriction.bindings := by
  have group : ∀ {β : Type} (part : Option β) (fragment? : β → Option Fragment)
      (bindings : β → List (String × Value)),
      (∀ b, bindings? (fragment? b) = bindings b) →
        bindings? (part.bind fragment?) = part.elim [] bindings := by
    intro β part fragment? bindings agree
    cases part with
    | none => rfl
    | some b => exact agree b
  rw [Groups.bindings, Restriction.bindings]
  simp only [Restriction.groups, group _ _ _ Filter.bindings_fragment?,
    group _ _ _ Chain.bindings_memberships, group _ _ _ Chain.bindings_patterns]

/-! ## Parameters of the other clauses -/

/-- Quoted names have no parameters. -/
theorem Fragment.bindings_identifiers (names : List String) :
    (Fragment.identifiers names).bindings = [] := by
  simp [Fragment.identifiers, Fragment.bindings_joined, Fragment.bindings]

theorem bindings_returning (returning : Option Returning) :
    bindings? (returning.map Returning.fragment) = [] := by
  rcases returning with _ | (_ | names)
  · rfl
  · rfl
  · exact Fragment.bindings_identifiers names

theorem bindings_selectedColumn (column : String) : (selectedColumn column).bindings = [] := by
  rw [selectedColumn]
  split <;> rfl

theorem bindings_order (order : Option SortKey) :
    bindings? (order.map SortKey.fragment) = [] := by
  cases order <;> rfl

theorem bindings_bound (keyword column : String) (bound : Option Int64) :
    bindings? (boundFragment? keyword column bound) =
      boundBinding column (bound.filter fun count => 0 ≤ count) := by
  rw [boundFragment?_eq_map]
  cases bound.filter fun count => 0 ≤ count <;> rfl

theorem bindings_window (window : Option Window) :
    bindings? (window.bind Window.fragment?) =
      boundBinding "limit" (Window.bound Window.limit window) ++
        boundBinding "offset" (Window.bound Window.offset window) := by
  cases window with
  | none => rfl
  | some window =>
      simp only [Window.bound, Option.bind_some]
      rw [← bindings_bound "LIMIT ", ← bindings_bound "OFFSET ", Window.fragment?]
      cases boundFragment? "LIMIT " "limit" window.limit <;>
        cases boundFragment? "OFFSET " "offset" window.offset <;>
        simp [bindings?, Fragment.joined, Fragment.bindings]

theorem bindings_rowFragment (columns : List String) (row : Record) :
    (rowFragment columns row).bindings =
      columns.map fun column => (column, (row.get? column).getD .null) := by
  rw [List.map_eq_flatMap]
  simp [rowFragment, Fragment.bindings, Fragment.bindings_joined, List.flatMap_map]

theorem bindings_assignmentFragment (entry : String × Value) :
    (assignmentFragment entry.1 entry.2).bindings = [entry] :=
  rfl

/-! ## Compiled statements -/

/-- A statement with clauses has the parameters that its description lists. -/
theorem Statement.bindings_statement {statement : Statement} {clauses : Clauses Fragment}
    (valid : statement.clauses = .ok clauses) (table : QualifiedName) :
    (clauses.statement table).bindings = statement.bindings := by
  rw [Clauses.bindings_statement]
  cases statement with
  | insert s =>
      rcases Insert.clauses_eq_ok_iff.mp valid with ⟨-, -, -, rfl⟩
      simp [Clauses.bindings, Statement.bindings, Fragment.bindings, Fragment.bindings_joined,
        Fragment.bindings_identifiers, bindings_rowFragment, bindings_returning,
        List.flatMap_map]
  | select s =>
      rcases Select.clauses_eq_ok_iff.mp valid with ⟨-, -, rfl⟩
      simp [Clauses.bindings, Statement.bindings, Fragment.bindings_joined,
        bindings_selectedColumn, Restriction.bindings_groups, bindings_order, bindings_window,
        List.flatMap_map]
  | update s =>
      rcases Update.clauses_eq_ok_iff.mp valid with ⟨-, -, -, -, rfl⟩
      simp [Clauses.bindings, Statement.bindings, Fragment.bindings_joined,
        bindings_assignmentFragment, Restriction.bindings_groups, bindings_returning,
        List.flatMap_map]
  | delete s =>
      rcases Delete.clauses_eq_ok_iff.mp valid with ⟨-, -, -, rfl⟩
      simp [Clauses.bindings, Statement.bindings, Restriction.bindings_groups,
        bindings_returning]

/-- The text of a compiled statement and its parameters are those of a
statement with clauses. -/
theorem Statement.compile_eq_ok_iff {dialect : Dialect} {table : QualifiedName}
    {statement : Statement} {command : Command} :
    statement.compile dialect table = .ok command ↔
      ∃ clauses, statement.clauses = .ok clauses ∧
        command = {
          verb := statement.verb
          sql := (clauses.statement table).textAt dialect dialect.startIndex
          params := statement.bindings.map Prod.snd } := by
  rw [Statement.compile_eq]
  cases checked : statement.clauses with
  | error violation => simp [Except.map]
  | ok clauses =>
      simpa [Except.map, Statement.bindings_statement checked table] using eq_comm

/-- The places of the template take the parameters in order. -/
theorem Statement.places_of_compile {dialect : Dialect} {table : QualifiedName}
    {statement : Statement} {command : Command}
    (compiled : statement.compile dialect table = .ok command) :
    Sign.places (statement.normalForm table).template = command.params := by
  rcases Statement.compile_eq_ok_iff.mp compiled with ⟨clauses, valid, rfl⟩
  rw [← Statement.signs_statement valid table, Fragment.places_signs,
    Statement.bindings_statement valid]

/-- The text of a compiled statement is the template of its normal form with
the placeholder of the `k`-th parameter, for its column, at the `k`-th place.
The parameters are those of the description, in order, and each place of the
template stands for the value that is given for it. -/
theorem Statement.compile_aligned {dialect : Dialect} {table : QualifiedName}
    {statement : Statement} {command : Command}
    (compiled : statement.compile dialect table = .ok command) :
    Sign.fill? dialect (statement.normalForm table).template
        (statement.bindings.mapIdx fun k binding =>
          dialect.placeholder (dialect.startIndex + k) binding.1) = some command.sql ∧
      command.params = statement.bindings.map Prod.snd ∧
      Sign.places (statement.normalForm table).template = command.params := by
  have places := Statement.places_of_compile compiled
  rcases Statement.compile_eq_ok_iff.mp compiled with ⟨clauses, valid, rfl⟩
  refine ⟨?_, rfl, places⟩
  rw [← Statement.signs_statement valid table, ← Statement.bindings_statement valid table]
  exact Fragment.fill?_signs dialect dialect.startIndex _

/-- The sample takes the placeholders from the first index on without a gap,
though connectives are left out between its groups. -/
theorem Statement.compile_aligned_sample :
    (Statement.update .sample).compile ⟨"?", .fromZero, '"'⟩ ⟨"s", "t"⟩ = .ok {
        verb := .update
        sql := "UPDATE \"s\".\"t\" SET \"na\"\"me\"=?0 WHERE \"id\">=?1 AND " ++
          "\"$1; --\" NOT IN (?2, ?3) AND NOT \"na\"\"me\" LIKE ?4 RETURNING \"\";"
        params := [.text "b", .int 1, .null, .int 2, .text "a%"] } ∧
      Sign.fill? ⟨"?", .fromZero, '"'⟩ ((Statement.update .sample).normalForm ⟨"s", "t"⟩).template
          ["?0", "?1", "?2", "?3", "?4"] =
        some ("UPDATE \"s\".\"t\" SET \"na\"\"me\"=?0 WHERE \"id\">=?1 AND " ++
          "\"$1; --\" NOT IN (?2, ?3) AND NOT \"na\"\"me\" LIKE ?4 RETURNING \"\";") ∧
      [.text "b", .int 1, .null, .int 2, .text "a%"] =
        (Statement.update .sample).bindings.map Prod.snd ∧
      Sign.places ((Statement.update .sample).normalForm ⟨"s", "t"⟩).template =
        [.text "b", .int 1, .null, .int 2, .text "a%"] := by
  have compiled : (Statement.update .sample).compile ⟨"?", .fromZero, '"'⟩ ⟨"s", "t"⟩ = .ok {
      verb := .update
      sql := _
      params := [.text "b", .int 1, .null, .int 2, .text "a%"] } := rfl
  exact ⟨compiled, Statement.compile_aligned compiled⟩

end ParamSql

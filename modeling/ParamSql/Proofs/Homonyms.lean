import ParamSql.Proofs.Alignment

/-!
# Placeholders that are spelled the same

Where placeholders are named after columns, a column that is bound more than
once is spelled the same each time.  The parameters are still told apart by
their order, but by their names only as far as the values agree.

The main statement says exactly when they do: a statement can be bound by name
if and only if it binds no column to two different values.  An update that
changes the column it tests is the smallest one that cannot.
-/

namespace ParamSql

variable {dialect : Dialect}

/-! ## Placeholders with their values -/

/-- The placeholders of a statement in order, each with the value that it
stands for. -/
def Statement.spelled (dialect : Dialect) (statement : Statement) : List (String × Value) :=
  statement.bindings.mapIdx fun k binding =>
    (dialect.placeholder (dialect.startIndex + k) binding.1, binding.2)

/-- Equal names have equal values. -/
def Unambiguous (named : List (String × Value)) : Prop :=
  ∀ first ∈ named, ∀ second ∈ named, first.1 = second.1 → first.2 = second.2

/-- The value that a list gives a name first. -/
def valueNamed (named : List (String × Value)) (name : String) : Value :=
  ((named.find? fun pair => pair.1 = name).map Prod.snd).getD .null

theorem Statement.map_fst_spelled (dialect : Dialect) (statement : Statement) :
    (statement.spelled dialect).map Prod.fst =
      dialect.placeholdersFrom dialect.startIndex statement.bindings := by
  apply List.ext_getElem
  · simp [Statement.spelled, Dialect.placeholdersFrom]
  · intro k _ _
    simp [Statement.spelled, Dialect.placeholdersFrom]

theorem Statement.map_snd_spelled (dialect : Dialect) (statement : Statement) :
    (statement.spelled dialect).map Prod.snd = statement.bindings.map Prod.snd := by
  apply List.ext_getElem
  · simp [Statement.spelled]
  · intro k _ _
    simp [Statement.spelled]

/-! ## Names that are columns -/

theorem Dialect.placeholder_of_byColumn (byColumn : dialect.numbering = .byColumn)
    (index : Nat) (column : String) :
    dialect.placeholder index column = dialect.sigil ++ column := by
  rw [Dialect.placeholder, byColumn]

theorem Dialect.placeholder_eq_iff (byColumn : dialect.numbering = .byColumn)
    (i j : Nat) (first second : String) :
    dialect.placeholder i first = dialect.placeholder j second ↔ first = second := by
  rw [Dialect.placeholder_of_byColumn byColumn, Dialect.placeholder_of_byColumn byColumn]
  constructor
  · intro equal
    exact (String.append_right_inj dialect.sigil).mp equal
  · rintro rfl
    rfl

/-- Each placeholder is the column of its binding behind the sigil. -/
theorem Statement.spelled_of_byColumn (byColumn : dialect.numbering = .byColumn)
    (statement : Statement) :
    statement.spelled dialect =
      statement.bindings.map fun binding => (dialect.sigil ++ binding.1, binding.2) := by
  rw [Statement.spelled]
  simp only [Dialect.placeholder_of_byColumn byColumn]
  exact List.mapIdx_eq_iff.mpr fun k => by simp

/-! ## Binding by name -/

theorem valueNamed_of_mem {named : List (String × Value)} (unambiguous : Unambiguous named)
    {pair : String × Value} (member : pair ∈ named) : valueNamed named pair.1 = pair.2 := by
  have listed : (named.find? fun other => other.1 = pair.1).isSome = true := by
    rw [List.find?_isSome]
    exact ⟨pair, member, by simp⟩
  obtain ⟨other, found⟩ := Option.isSome_iff_exists.mp listed
  have same : other.1 = pair.1 := by simpa using List.find?_some found
  rw [valueNamed, found]
  exact unambiguous other (List.mem_of_find?_eq_some found) pair member same

/-- Names with equal values are those that can be given one value each. -/
theorem unambiguous_iff_exists {named : List (String × Value)} :
    Unambiguous named ↔
      ∃ value : String → Value, named.map Prod.snd = (named.map Prod.fst).map value := by
  constructor
  · intro unambiguous
    refine ⟨valueNamed named, ?_⟩
    rw [List.map_map]
    apply List.map_congr_left
    intro pair member
    exact (valueNamed_of_mem unambiguous member).symm
  · rintro ⟨value, given⟩ first firstMember second secondMember same
    rw [List.map_map] at given
    have valued := List.map_inj_left.mp given
    rw [valued first firstMember, valued second secondMember]
    exact congrArg value same

theorem unambiguous_map_append_iff (sigil : String) {named : List (String × Value)} :
    Unambiguous (named.map fun pair => (sigil ++ pair.1, pair.2)) ↔ Unambiguous named := by
  constructor
  · intro unambiguous first firstMember second secondMember same
    exact unambiguous (sigil ++ first.1, first.2) (List.mem_map.mpr ⟨first, firstMember, rfl⟩)
      (sigil ++ second.1, second.2) (List.mem_map.mpr ⟨second, secondMember, rfl⟩)
      (congrArg (sigil ++ ·) same)
  · rintro unambiguous _ firstNamed _ secondNamed same
    obtain ⟨first, firstMember, rfl⟩ := List.mem_map.mp firstNamed
    obtain ⟨second, secondMember, rfl⟩ := List.mem_map.mp secondNamed
    exact unambiguous first firstMember second secondMember
      ((String.append_right_inj sigil).mp same)

/-- Rows bind their columns to one value each if they all have the same. -/
theorem Insert.unambiguous_iff {s : Insert} :
    Unambiguous (Statement.insert s).bindings ↔
      ∀ first ∈ s.rows, ∀ second ∈ s.rows,
        first.project s.columns = second.project s.columns := by
  have bound : ∀ {pair : String × Value}, pair ∈ (Statement.insert s).bindings ↔
      ∃ row ∈ s.rows, ∃ column ∈ s.columns, (column, (row.get? column).getD .null) = pair := by
    intro pair
    simp only [Statement.bindings, List.mem_flatMap, List.mem_map]
  constructor
  · intro unambiguous first firstMember second secondMember
    apply List.map_congr_left
    intro column listed
    exact unambiguous _ (bound.mpr ⟨first, firstMember, column, listed, rfl⟩)
      _ (bound.mpr ⟨second, secondMember, column, listed, rfl⟩) rfl
  · intro agree first firstMember second secondMember same
    obtain ⟨row, rowMember, column, listed, rfl⟩ := bound.mp firstMember
    obtain ⟨other, otherMember, another, -, rfl⟩ := bound.mp secondMember
    obtain rfl : column = another := same
    exact List.map_inj_left.mp (agree row rowMember other otherMember) column listed

/-! ## Compiled statements -/

/-- In a dialect that names placeholders after columns, those of a compiled
statement are its columns behind the sigil, in the order of the parameters; two
of them are spelled the same exactly if they are for the same column.  Those
that are spelled the same stand for equal values exactly if no column is bound
to two different values, for new rows exactly if all rows have the same values.
And exactly then the parameters can be given by name, one value for each. -/
theorem Statement.compile_homonyms (byColumn : dialect.numbering = .byColumn)
    {table : QualifiedName} {statement : Statement} {command : Command}
    (compiled : statement.compile dialect table = .ok command) :
    Sign.fill? dialect (statement.normalForm table).template
        ((statement.spelled dialect).map Prod.fst) = some command.sql ∧
      command.params = (statement.spelled dialect).map Prod.snd ∧
      statement.spelled dialect =
        statement.bindings.map (fun binding => (dialect.sigil ++ binding.1, binding.2)) ∧
      (∀ first ∈ statement.bindings, ∀ second ∈ statement.bindings, ∀ i j,
        dialect.placeholder i first.1 = dialect.placeholder j second.1 ↔
          first.1 = second.1) ∧
      (Unambiguous (statement.spelled dialect) ↔ Unambiguous statement.bindings) ∧
      (∀ s, statement = .insert s →
        (Unambiguous (statement.spelled dialect) ↔
          ∀ first ∈ s.rows, ∀ second ∈ s.rows,
            first.project s.columns = second.project s.columns)) ∧
      (Unambiguous (statement.spelled dialect) ↔
        ∃ value : String → Value,
          command.params = ((statement.spelled dialect).map Prod.fst).map value) := by
  have spelled := Statement.spelled_of_byColumn byColumn statement
  have columns : Unambiguous (statement.spelled dialect) ↔ Unambiguous statement.bindings := by
    rw [spelled]
    exact unambiguous_map_append_iff dialect.sigil
  obtain ⟨clauses, valid, rfl⟩ := Statement.compile_eq_ok_iff.mp compiled
  refine ⟨?_, (statement.map_snd_spelled dialect).symm, spelled, ?_, columns, ?_, ?_⟩
  · rw [Statement.map_fst_spelled, ← Statement.signs_statement valid table,
      ← Statement.bindings_statement valid table]
    exact Fragment.fill?_signs dialect dialect.startIndex _
  · intro first _ second _ i j
    exact Dialect.placeholder_eq_iff byColumn i j first.1 second.1
  · rintro s rfl
    rw [columns]
    exact Insert.unambiguous_iff
  · rw [← Statement.map_snd_spelled dialect]
    exact unambiguous_iff_exists

/-- A select that binds a column twice, with the same value both times. -/
def Select.repeating : Select where
  columns := ["*"]
  restriction := {
    filter := some (.chain
      [.predicate ⟨"a", .atLeast, .int 1⟩, .connective .or, .predicate ⟨"a", .equal, .int 1⟩]) }
  window := some { limit := some 5 }

/-- Its parameters can be given by name. -/
theorem Statement.compile_homonyms_sample :
    Dialect.named.numbering = .byColumn ∧
      (Statement.select .repeating).compile .named ⟨"s", "t"⟩ = .ok {
        verb := .select
        sql := "SELECT * FROM \"s\".\"t\" WHERE \"a\">=$a OR \"a\"=$a LIMIT $limit;"
        params := [.int 1, .int 1, .int 5] } ∧
      (Statement.select .repeating).spelled .named =
        [("$a", .int 1), ("$a", .int 1), ("$limit", .int 5)] ∧
      (Unambiguous [("$a", .int 1), ("$a", .int 1), ("$limit", .int 5)] ↔
        Unambiguous [("a", .int 1), ("a", .int 1), ("limit", .int 5)]) ∧
      (Unambiguous [("$a", .int 1), ("$a", .int 1), ("$limit", .int 5)] ↔
        ∃ value : String → Value, [.int 1, .int 1, .int 5] = ["$a", "$a", "$limit"].map value) := by
  have compiled : (Statement.select .repeating).compile .named ⟨"s", "t"⟩ = .ok {
      verb := .select
      sql := _
      params := [.int 1, .int 1, .int 5] } := rfl
  obtain ⟨-, -, behind, -, columns, -, given⟩ := Statement.compile_homonyms rfl compiled
  have spelled : (Statement.select .repeating).spelled .named =
      [("$a", .int 1), ("$a", .int 1), ("$limit", .int 5)] := behind
  rw [spelled] at columns given
  exact ⟨rfl, compiled, spelled, columns, given⟩

/-- An update that tests the column it changes. -/
def Update.clashing : Update where
  assignments := Record.ofList [("a", .int 1)]
  restriction := { filter := some (.ofRecord (Record.ofList [("a", .int 2)])) }

/-- Both of its placeholders are spelled the same, and they stand for different
values. -/
theorem Statement.compile_homonyms_clash :
    (Statement.update .clashing).compile .named ⟨"s", "t"⟩ = .ok {
        verb := .update
        sql := "UPDATE \"s\".\"t\" SET \"a\"=$a WHERE \"a\"=$a;"
        params := [.int 1, .int 2] } ∧
      (Statement.update .clashing).spelled .named = [("$a", .int 1), ("$a", .int 2)] ∧
      ¬Unambiguous ((Statement.update .clashing).spelled .named) := by
  have compiled : (Statement.update .clashing).compile .named ⟨"s", "t"⟩ = .ok {
      verb := .update
      sql := _
      params := [.int 1, .int 2] } := rfl
  have spelled : (Statement.update .clashing).spelled .named =
      [("$a", .int 1), ("$a", .int 2)] := rfl
  refine ⟨compiled, spelled, ?_⟩
  rw [spelled]
  intro unambiguous
  have equal : Value.int 1 = Value.int 2 :=
    unambiguous ("$a", .int 1) (by simp) ("$a", .int 2) (by simp) rfl
  simp at equal

end ParamSql

import Mathlib.Data.List.Nodup
import ParamSql.Proofs.Condition

/-!
# Records keep the order of insertion

A record is built by setting columns, some of them more than once.  This file
says what becomes of any such sequence: the columns stand in the order in which
they were first set, each with the value that it was set to last.

So no column stands twice in a record, and none is written twice where a
statement writes a record: not among the assignments of an update, and not in
the group of a condition that compares a record.
-/

namespace ParamSql

namespace Record

/-! ## Setting a column -/

/-- Setting a column that is present changes its value and nothing else. -/
theorem setEntry_of_mem {column : String} (value : Value) {entries : List (String × Value)}
    (distinct : (entries.map Prod.fst).Nodup) (present : column ∈ entries.map Prod.fst) :
    setEntry column value entries =
      entries.map fun entry => if entry.1 = column then (column, value) else entry := by
  induction entries with
  | nil => exact (List.not_mem_nil present).elim
  | cons entry rest ih =>
      obtain ⟨other, old⟩ := entry
      rw [List.map_cons, List.nodup_cons] at distinct
      obtain ⟨once, distinct⟩ := distinct
      by_cases equal : other = column
      · subst equal
        have kept : ∀ entry ∈ rest,
            (if entry.1 = other then (other, value) else entry) = entry := by
          intro entry member
          exact if_neg fun same => once (List.mem_map.mpr ⟨entry, member, same⟩)
        rw [setEntry, if_pos rfl, List.map_cons, if_pos rfl, List.map_congr_left kept, List.map_id']
      · have later : column ∈ rest.map Prod.fst :=
          (List.mem_cons.mp present).resolve_left fun same => equal same.symm
        rw [setEntry, if_neg equal, List.map_cons, if_neg equal, ih distinct later]

/-- Setting a column that is absent puts it at the end. -/
theorem setEntry_of_not_mem {column : String} (value : Value) {entries : List (String × Value)}
    (absent : column ∉ entries.map Prod.fst) :
    setEntry column value entries = entries ++ [(column, value)] := by
  induction entries with
  | nil => rfl
  | cons entry rest ih =>
      obtain ⟨other, old⟩ := entry
      rw [List.map_cons, List.mem_cons, not_or] at absent
      rw [setEntry, if_neg fun same => absent.1 same.symm, ih absent.2, List.cons_append]

theorem columns_set (record : Record) (column : String) (value : Value) :
    (record.set column value).columns =
      if column ∈ record.columns then record.columns else record.columns ++ [column] :=
  columns_setEntry column value record.entries

/-- A column has the value that it was set to, and the others have theirs. -/
theorem get?_set (record : Record) (column other : String) (value : Value) :
    (record.set column value).get? other =
      if column = other then some value else record.get? other := by
  rw [get?, get?, entries_set]
  induction record.entries with
  | nil => by_cases same : column = other <;> simp [setEntry, same]
  | cons entry rest ih =>
      obtain ⟨first, old⟩ := entry
      by_cases here : first = column
      · subst here
        by_cases same : first = other <;> simp [setEntry, same]
      · by_cases same : first = other
        · subst same
          have apart : column ≠ first := fun equal => here equal.symm
          simp [setEntry, here, apart]
        · simpa [setEntry, here, same] using ih

theorem get?_eq_none_iff {record : Record} {column : String} :
    record.get? column = none ↔ column ∉ record.columns := by
  rw [get?, columns, Option.map_eq_none_iff, List.find?_eq_none, List.mem_map]
  simp only [decide_eq_true_eq, not_exists, not_and]

theorem mem_entries_iff {record : Record} {column : String} {value : Value} :
    (column, value) ∈ record.entries ↔ record.get? column = some value := by
  obtain ⟨entries, distinct⟩ := record
  rw [get?]
  induction entries with
  | nil => simp
  | cons entry rest ih =>
      obtain ⟨other, old⟩ := entry
      obtain ⟨once, distinct⟩ := List.nodup_cons.mp distinct
      by_cases same : other = column
      · subst same
        have elsewhere : (other, value) ∉ rest :=
          fun member => once (List.mem_map.mpr ⟨_, member, rfl⟩)
        simp [elsewhere, eq_comm]
      · have apart : column ≠ other := fun equal => same equal.symm
        simpa [same, apart] using ih distinct

/-! ## Setting one column after the other -/

theorem eraseDups_concat (columns : List String) (column : String) :
    (columns ++ [column]).eraseDups =
      if column ∈ columns then columns.eraseDups else columns.eraseDups ++ [column] := by
  rw [List.eraseDups_append]
  by_cases present : column ∈ columns
  · rw [if_pos present]
    simp [List.removeAll, present]
  · rw [if_neg present]
    simp [List.removeAll, present, List.eraseDups_cons]

theorem ofList_concat (pairs : List (String × Value)) (pair : String × Value) :
    ofList (pairs ++ [pair]) = (ofList pairs).set pair.1 pair.2 :=
  List.foldl_concat _ _ _ _

/-- The columns stand in the order in which they were first set. -/
theorem columns_ofList (pairs : List (String × Value)) :
    (ofList pairs).columns = (pairs.map Prod.fst).eraseDups := by
  induction pairs using List.reverseRecOn with
  | nil => rfl
  | append_singleton pairs pair ih =>
      rw [ofList_concat, columns_set, ih, List.map_append, List.map_singleton, eraseDups_concat]
      simp only [List.mem_eraseDups]

/-- A column has the value that it was set to last. -/
theorem get?_ofList (pairs : List (String × Value)) (column : String) :
    (ofList pairs).get? column =
      (pairs.filter fun pair => pair.1 = column).getLast?.map Prod.snd := by
  induction pairs using List.reverseRecOn with
  | nil => rfl
  | append_singleton pairs pair ih =>
      rw [ofList_concat, get?_set, ih, List.filter_append]
      by_cases same : pair.1 = column
      · simp [same]
      · simp [same]

/-- Columns that are set once each stand as they were set. -/
theorem entries_ofList {pairs : List (String × Value)} (distinct : (pairs.map Prod.fst).Nodup) :
    (ofList pairs).entries = pairs := by
  induction pairs using List.reverseRecOn with
  | nil => rfl
  | append_singleton pairs pair ih =>
      rw [List.map_append, List.map_singleton, List.nodup_append] at distinct
      obtain ⟨distinct, -, apart⟩ := distinct
      have absent : pair.1 ∉ (ofList pairs).entries.map Prod.fst := by
        rw [ih distinct]
        exact fun member => apart _ member _ (List.mem_singleton.mpr rfl) rfl
      rw [ofList_concat, entries_set, setEntry_of_not_mem _ absent, ih distinct]

theorem ofList_entries (record : Record) : ofList record.entries = record := by
  obtain ⟨entries, distinct⟩ := record
  rw [Record.mk.injEq]
  exact entries_ofList distinct

/-- What a record holds after these columns were set, one after the other. -/
structure Collects (pairs : List (String × Value)) (record : Record) : Prop where
  /-- The columns stand in the order in which they were first set. -/
  columns : record.columns = (pairs.map Prod.fst).eraseDups
  distinct : record.columns.Nodup
  /-- A column has the value that it was set to last. -/
  value : ∀ column, record.get? column =
    (pairs.filter fun pair => pair.1 = column).getLast?.map Prod.snd
  absent : ∀ column, record.get? column = none ↔ column ∉ pairs.map Prod.fst
  /-- The entries are the columns with their values. -/
  entries : ∀ column value, (column, value) ∈ record.entries ↔ record.get? column = some value
  order : record.entries.map Prod.fst = record.columns
  size : record.size = record.columns.length
  isEmpty : record.isEmpty = true ↔ record.columns = []

theorem collects_ofList (pairs : List (String × Value)) : Collects pairs (ofList pairs) where
  columns := columns_ofList pairs
  distinct := (ofList pairs).distinct
  value := get?_ofList pairs
  absent := by
    intro column
    rw [get?_eq_none_iff, columns_ofList, List.mem_eraseDups]
  entries := fun _ _ => mem_entries_iff
  order := rfl
  size := (List.length_map _).symm
  isEmpty := by rw [Record.isEmpty, List.isEmpty_iff, Record.columns, List.map_eq_nil_iff]

end Record

/-! ## Records in texts -/

/-- Columns with a text between any two of them, each in front of an operator
and a placeholder; the placeholders are numbered from an index. -/
def columnsText (dialect : Dialect) (separator operator : String) (first : Nat)
    (columns : List String) : String :=
  separator.intercalate <| columns.mapIdx fun k column =>
    dialect.quote column ++ operator ++ dialect.placeholder (first + k) column

theorem mapIdx_columns {α : Type} (record : Record) (write : Nat → String → α) :
    record.columns.mapIdx write = record.entries.mapIdx fun k entry => write k entry.1 := by
  apply List.ext_getElem
  · simp [Record.columns]
  · intro k _ _
    simp [Record.columns]

theorem assignmentsText_eq (dialect : Dialect) (record : Record) :
    assignmentsText dialect record.entries =
      columnsText dialect ", " "=" dialect.startIndex record.columns := by
  rw [assignmentsText, columnsText, mapIdx_columns]

/-- A record that is compared is written column by column. -/
theorem Filter.textAt_matching (dialect : Dialect) (index : Nat) {record : Record}
    (filled : record.isEmpty = false) (comparator : Comparator) (junction : Junction) :
    (Filter.matching record comparator junction).fragment?.map (Fragment.textAt dialect index) =
      some (columnsText dialect (" " ++ junction.word ++ " ") comparator.word index
        record.columns) := by
  have compared := Fragment.textAt_joined dialect (" " ++ junction.word ++ " ")
    (fun entry : String × Value => Comparison.fragment ⟨entry.1, comparator, entry.2⟩)
    (fun _ => rfl) index record.entries
  rw [Filter.fragment?, filled, if_neg Bool.false_ne_true, Option.map_some, compared, columnsText,
    mapIdx_columns]
  simp [Comparison.fragment, String.append_assoc]

/-- A command whose condition opens with the columns of a record, between what
the statement is written with in front of its condition and behind it. -/
def Command.ComparesFirst (dialect : Dialect) (table : QualifiedName) (statement : Statement)
    (junction : Junction) (columns : List String) (comparator : Comparator) (between : Junction)
    (command : Command) : Prop :=
  ∃ clauses, statement.clauses = .ok clauses ∧
    ∃ groups last, command.sql =
      (clauses.opening table).textAt dialect dialect.startIndex ++
        conditionText junction (columnsText dialect (" " ++ between.word ++ " ") comparator.word
          (dialect.startIndex + (clauses.opening table).bindings.length) columns :: groups) ++
        clauses.ending.textAt dialect last

/-- A record with columns is the first group of the condition. -/
theorem Statement.comparesFirst_of_compile {dialect : Dialect} {table : QualifiedName}
    {statement : Statement} {command : Command} {restriction : Restriction} {record : Record}
    {comparator : Comparator} {between : Junction}
    (compiled : statement.compile dialect table = .ok command)
    (restricted : statement.restriction? = some restriction)
    (matched : restriction.filter = some (.matching record comparator between))
    (filled : record.isEmpty = false) :
    command.ComparesFirst dialect table statement restriction.junction record.columns comparator
      between := by
  rcases Statement.compile_eq_ok_iff.mp compiled with ⟨clauses, valid, rfl⟩
  have given : clauses.groups? = some restriction.groups := by
    rw [Statement.groups?_clauses valid, restricted, Option.map_some]
  have effective : restriction.isEffective = true := by
    rw [Restriction.isEffective, matched, Option.any_some, Filter.isEffective, filled]
    rfl
  have some_group := restriction.isEffective_iff_present.mp effective
  have present : ∀ index, ∃ groups, (restriction.groups.textsAt dialect index).present =
      columnsText dialect (" " ++ between.word ++ " ") comparator.word index record.columns ::
        groups := by
    intro index
    have first : (restriction.groups.textsAt dialect index).filter =
        some (columnsText dialect (" " ++ between.word ++ " ") comparator.word index
          record.columns) := by
      rw [← Filter.textAt_matching dialect index filled comparator between, Groups.textsAt,
        Restriction.groups, matched, Option.bind_some]
    exact ⟨_, by rw [Groups.present, first]; rfl⟩
  obtain ⟨groups, texts⟩ :=
    present (dialect.startIndex + (clauses.opening table).bindings.length)
  refine ⟨clauses, valid, groups,
    dialect.startIndex + (clauses.opening table ++ restriction.groups.condition).bindings.length,
    ?_⟩
  rw [clauses.statement_eq table given, Fragment.textAt_append, Fragment.textAt_append,
    Groups.textAt_condition _ _ some_group, texts]
  rfl

/-- After columns were set one after the other, a record has each of them once,
in the order in which they were first set, with the value that it was set to
last; setting a column that is there changes its value only, and another goes
to the end.  So an update whose assignments were set in this way assigns to
each of these columns once, and a condition that compares a record that was
built in this way opens with each of them once; their quoted names differ in
every dialect.  No record is built in another way. -/
theorem Record.ofList_ordered (pairs : List (String × Value)) :
    (ofList pairs).Collects pairs ∧
      (∀ (record : Record) column value,
        (column ∈ record.columns → (record.set column value).entries =
          record.entries.map fun entry => if entry.1 = column then (column, value) else entry) ∧
        (column ∉ record.columns →
          (record.set column value).entries = record.entries ++ [(column, value)])) ∧
      (∀ dialect table (s : Update) command, s.assignments = ofList pairs →
        (Statement.update s).compile dialect table = .ok command →
          ∃ ending, command.sql = "UPDATE " ++ table.text dialect ++ " SET " ++
            columnsText dialect ", " "=" dialect.startIndex (pairs.map Prod.fst).eraseDups ++
              " WHERE " ++ ending) ∧
      (∀ dialect table (statement : Statement) restriction comparator between command,
        statement.restriction? = some restriction →
          restriction.filter = some (.matching (ofList pairs) comparator between) → pairs ≠ [] →
            statement.compile dialect table = .ok command →
              command.ComparesFirst dialect table statement restriction.junction
                (pairs.map Prod.fst).eraseDups comparator between) ∧
      (∀ dialect : Dialect, ((pairs.map Prod.fst).eraseDups.map dialect.quote).Nodup) ∧
      ∀ record : Record, ofList record.entries = record := by
  have collected := collects_ofList pairs
  refine ⟨collected, ?_, ?_, ?_, ?_, ofList_entries⟩
  · intro record column value
    exact ⟨setEntry_of_mem value record.distinct, setEntry_of_not_mem value⟩
  · intro dialect table s command assigned compiled
    obtain ⟨groups, -, sql, -⟩ := Update.restrictedBy_of_compile compiled
    rw [assigned, assignmentsText_eq, collected.columns] at sql
    refine ⟨(" " ++ s.restriction.junction.word ++ " ").intercalate groups ++
      (returningText dialect s.returning ++ ";"), ?_⟩
    rw [sql, conditionText]
    simp only [String.append_assoc]
  · intro dialect table statement restriction comparator between command restricted matched
      some_pair compiled
    have filled : (ofList pairs).isEmpty = false := by
      rw [Bool.eq_false_iff, ne_eq, collected.isEmpty, collected.columns]
      cases pairs with
      | nil => exact absurd rfl some_pair
      | cons pair rest => simp [List.eraseDups_cons]
    rw [← collected.columns]
    exact Statement.comparesFirst_of_compile compiled restricted matched filled
  · intro dialect
    rw [← collected.columns]
    exact List.Nodup.map dialect.quote_injective collected.distinct

/-- An update of a column that is set twice, with a condition on another that
is set twice. -/
def Update.repeated (pairs : List (String × Value)) : Update where
  assignments := .ofList pairs
  restriction := { filter := some (.matching (.ofList pairs) .atMost .or) }

/-- The first column keeps its place and has its later value. -/
theorem Record.ofList_ordered_sample :
    let pairs := [("a", Value.int 1), ("b", .int 2), ("a", .int 3)]
    (ofList pairs).columns = ["a", "b"] ∧ (ofList pairs).get? "a" = some (.int 3) ∧
      ((ofList pairs).set "b" .null).entries = [("a", .int 3), ("b", .null)] ∧
      ∃ command, (Statement.update (.repeated pairs)).compile .postgres ⟨"s", "t"⟩ = .ok command ∧
        (∃ ending, command.sql = "UPDATE \"s\".\"t\" SET \"a\"=$1, \"b\"=$2 WHERE " ++ ending) ∧
        command.ComparesFirst .postgres ⟨"s", "t"⟩ (.update (.repeated pairs)) .and ["a", "b"]
          .atMost .or := by
  intro pairs
  obtain ⟨collected, changed, assigned, compared, -⟩ := Record.ofList_ordered pairs
  obtain ⟨command, compiled⟩ : ∃ command,
      (Statement.update (.repeated pairs)).compile .postgres ⟨"s", "t"⟩ = .ok command := ⟨_, rfl⟩
  have columns : (pairs.map Prod.fst).eraseDups = ["a", "b"] := by decide
  have present : "b" ∈ (ofList pairs).columns := by
    rw [collected.columns, columns]
    decide
  obtain ⟨ending, sql⟩ := assigned .postgres ⟨"s", "t"⟩ _ command rfl compiled
  have first := compared .postgres ⟨"s", "t"⟩ _ _ .atMost .or command rfl rfl nofun compiled
  rw [columns] at sql first
  refine ⟨collected.columns.trans columns, (collected.value "a").trans rfl,
    ((changed _ _ _).1 present).trans rfl, command, compiled, ⟨ending, ?_⟩, first⟩
  exact sql.trans rfl

end ParamSql

import Mathlib.Logic.Relation
import ParamSql.Proofs.Rewording

/-!
# Edits that change nothing

Some parts of a description say nothing: connectives behind the last predicate
of a group, a group without predicates, the connective between groups when
there are not two, a negative bound, a window without bounds, and what a row
holds beyond the listed columns.

One edit puts such a part in or takes it out.  Each keeps the normal form of
the statement about every table; so after any number of them, made or undone in
any order, the statement is compiled as before.
-/

namespace ParamSql

variable {α : Type}

/-! ## Edits -/

/-- Connectives are added at the end of a group, or a group of nothing else is
added. -/
inductive Chain.Inert : Option (Chain α) → Option (Chain α) → Prop where
  | trailing (chain : Chain α) (connectives : List Connective) :
      Inert (some chain) (some (chain ++ connectives.map .connective))
  | absent (connectives : List Connective) :
      Inert none (some (connectives.map .connective))

/-- A chain is edited, or a record without columns is added. -/
inductive Filter.Inert : Option Filter → Option Filter → Prop where
  | chain {links others : Option (Chain Comparison)} (edited : Chain.Inert links others) :
      Inert (links.map .chain) (others.map .chain)
  | absent {record : Record} (empty : record.isEmpty = true) (comparator : Comparator)
      (junction : Junction) : Inert none (some (.matching record comparator junction))

/-- One group is edited, or the junction is changed that stands between groups
when at most one is written. -/
inductive Restriction.Inert : Restriction → Restriction → Prop where
  | filter (r : Restriction) {filter : Option Filter} (edited : Filter.Inert r.filter filter) :
      Inert r { r with filter }
  | memberships (r : Restriction) {memberships : Option (Chain Membership)}
      (edited : Chain.Inert r.memberships memberships) : Inert r { r with memberships }
  | patterns (r : Restriction) {patterns : Option (Chain Pattern)}
      (edited : Chain.Inert r.patterns patterns) : Inert r { r with patterns }
  | junction (r : Restriction) (junction : Junction) (few : r.groups.present.length ≤ 1) :
      Inert r { r with junction }

/-- A negative bound is replaced by another or taken out. -/
inductive Window.InertBound : Option Int64 → Option Int64 → Prop where
  | negative {count other : Int64} (below : count < 0) (below' : other < 0) :
      InertBound (some count) (some other)
  | dropped {count : Int64} (below : count < 0) : InertBound (some count) none

/-- One bound is edited, or a window without bounds is added. -/
inductive Window.Inert : Option Window → Option Window → Prop where
  | limit (window : Window) {limit : Option Int64} (edited : InertBound window.limit limit) :
      Inert (some window) (some { window with limit })
  | offset (window : Window) {offset : Option Int64} (edited : InertBound window.offset offset) :
      Inert (some window) (some { window with offset })
  | absent : Inert none (some { limit := none, offset := none })

/-- The rows have the same values at the columns; one that lacks a column has a
null there. -/
def Record.AgreeOn (columns : List String) (row other : Record) : Prop :=
  ∀ column ∈ columns, (row.get? column).getD .null = (other.get? column).getD .null

/-- One part of a statement is edited. -/
inductive Statement.Inert : Statement → Statement → Prop where
  | restriction {statement : Statement} {r s : Restriction}
      (given : statement.restriction? = some r) (edited : r.Inert s) :
      Inert statement (statement.mapRestriction fun _ => s)
  | window (s : Select) {window : Option Window} (edited : Window.Inert s.window window) :
      Inert (.select s) (.select { s with window })
  | rows (s : Insert) {rows : List Record}
      (edited : List.Forall₂ (Record.AgreeOn s.columns) s.rows rows) :
      Inert (.insert s) (.insert { s with rows })

/-! ## Groups -/

namespace Chain

/-- Connectives at the end are cut off. -/
theorem closed_append_connectives (chain : Chain α) (connectives : List Connective) :
    Chain.closed (chain ++ connectives.map .connective) = Chain.closed chain := by
  rw [closed, closed, List.rdropWhile, List.rdropWhile, List.reverse_append,
    List.dropWhile_append_of_pos]
  intro link member
  rcases List.mem_map.mp (List.mem_reverse.mp member) with ⟨c, -, rfl⟩
  rfl

theorem closed_connectives (connectives : List Connective) :
    Chain.closed (connectives.map (Link.connective (α := α))) = [] :=
  closed_append_connectives [] connectives

theorem Inert.tests_eq {links others : Option (Chain α)} (edited : Inert links others)
    (kind : α → Test) : links.elim [] (Chain.tests kind) = others.elim [] (Chain.tests kind) := by
  cases edited with
  | trailing chain connectives =>
      simp only [Option.elim_some, Chain.tests, closed_append_connectives]
  | absent connectives =>
      simp only [Option.elim_some, Option.elim_none, Chain.tests, closed_connectives,
        List.map_nil]

end Chain

theorem Filter.Inert.tests_eq {filter other : Option Filter} (edited : Inert filter other) :
    filter.elim [] Filter.tests = other.elim [] Filter.tests := by
  have chain : ∀ links : Option (Chain Comparison),
      (links.map Filter.chain).elim [] Filter.tests =
        links.elim [] (Chain.tests .comparison) := by
    intro links
    cases links <;> rfl
  cases edited with
  | chain edited => rw [chain, chain, edited.tests_eq]
  | @absent record empty comparator junction =>
      have none_left : record.entries = [] := List.isEmpty_iff.mp empty
      rw [Option.elim_none, Option.elim_some, Filter.tests, Filter.closed, none_left]
      rfl

namespace Restriction

/-- As many groups are written as have chains. -/
theorem length_chains (r : Restriction) : r.chains.length = r.groups.present.length := by
  rw [← List.length_map (f := Chain.template), ← r.signs_present, List.length_map]

/-- Nothing stands between fewer than two chains. -/
theorem connected_of_length_le_one {chains : List (Chain α)} (few : chains.length ≤ 1)
    (junction other : Junction) :
    Chain.connected junction chains = Chain.connected other chains := by
  match chains, few with
  | [], _ => rfl
  | [chain], _ => simp only [Chain.connected, List.intercalate_singleton]

theorem Inert.condition_eq {r s : Restriction} (edited : r.Inert s) :
    r.condition = s.condition := by
  cases edited with
  | filter edited => exact condition_congr edited.tests_eq rfl rfl rfl
  | memberships edited => exact condition_congr rfl (edited.tests_eq _) rfl rfl
  | patterns edited => exact condition_congr rfl rfl (edited.tests_eq _) rfl
  | junction junction few =>
      rw [← length_chains] at few
      exact connected_of_length_le_one few r.junction junction

end Restriction

/-! ## Bounds and rows -/

namespace Window

theorem filter_eq_none_of_neg {count : Int64} (below : count < 0) :
    (some count).filter (fun count => 0 ≤ count) = none := by
  apply Option.filter_some_neg
  simpa using below

theorem InertBound.filter_eq {bound other : Option Int64} (edited : InertBound bound other) :
    bound.filter (fun count => 0 ≤ count) = other.filter fun count => 0 ≤ count := by
  cases edited with
  | negative below below' => rw [filter_eq_none_of_neg below, filter_eq_none_of_neg below']
  | dropped below => rw [filter_eq_none_of_neg below, Option.filter_none]

/-- The bounds that hold stay the same. -/
theorem Inert.bound_eq {window other : Option Window} (edited : Inert window other) :
    bound Window.limit window = bound Window.limit other ∧
      bound Window.offset window = bound Window.offset other := by
  cases edited with
  | limit window edited => exact ⟨edited.filter_eq, rfl⟩
  | offset window edited => exact ⟨rfl, edited.filter_eq⟩
  | absent => exact ⟨rfl, rfl⟩

end Window

theorem Record.AgreeOn.project_eq {columns : List String} {row other : Record}
    (agree : AgreeOn columns row other) : row.project columns = other.project columns :=
  List.map_congr_left agree

theorem Record.map_project_eq {columns : List String} {rows others : List Record}
    (agree : List.Forall₂ (AgreeOn columns) rows others) :
    rows.map (Record.project columns) = others.map (Record.project columns) := by
  induction agree with
  | nil => rfl
  | cons first _ ih => rw [List.map_cons, List.map_cons, first.project_eq, ih]

/-! ## Statements -/

namespace Statement

/-- Putting in the restriction that is there changes nothing. -/
theorem mapRestriction_of_restriction? {statement : Statement} {r : Restriction}
    (given : statement.restriction? = some r) :
    (statement.mapRestriction fun _ => r) = statement := by
  cases statement with
  | insert s => rfl
  | select s | update s | delete s =>
      cases given
      rfl

/-- One edit keeps the normal form. -/
theorem Inert.normalForm_eq {s t : Statement} (edited : s.Inert t) (table : QualifiedName) :
    s.normalForm table = t.normalForm table := by
  cases edited with
  | restriction given edited =>
      have same := normalForm_mapRestriction (fun _ => edited.condition_eq) table s
      rwa [mapRestriction_of_restriction? given] at same
  | window s edited =>
      obtain ⟨limit, offset⟩ := edited.bound_eq
      simp only [normalForm, limit, offset]
  | rows s edited =>
      simp only [normalForm, Record.map_project_eq edited]

/-- Edits keep the normal form, whichever are made and whichever undone. -/
theorem normalForm_eq_of_edited {s t : Statement} (edited : Relation.EqvGen Inert s t)
    (table : QualifiedName) : s.normalForm table = t.normalForm table := by
  induction edited with
  | rel s t edited => exact edited.normalForm_eq table
  | refl s => rfl
  | symm s t _ same => exact same.symm
  | trans s t u _ _ first second => exact first.trans second

/-- A statement is compiled as before, or refused for the same reason, after
any number of edits to parts that say nothing, and so it is on every table. -/
theorem compile_inert {s t : Statement} (edited : Relation.EqvGen Inert s t) :
    (∀ dialect table, s.compile dialect table = t.compile dialect table) ∧
    ∀ (table : Table) elapsed (query : Query),
      table.compile elapsed { query with statement := s } =
        table.compile elapsed { query with statement := t } := by
  have same : ∀ dialect table, s.compile dialect table = t.compile dialect table := by
    intro dialect table
    exact compile_eq_of_normalForm_eq (normalForm_eq_of_edited edited table) dialect
  exact ⟨same, fun table elapsed query => table.compile_congr same elapsed query⟩

end Statement

/-! ## A sample -/

/-- Rows with one of the listed values. -/
def Select.listed : Select where
  columns := ["id"]
  restriction := { memberships := some [.predicate ⟨"id", .isIn, [.int 1]⟩] }

/-- The same rows, with parts of all kinds that say nothing. -/
def Select.padded : Select where
  columns := ["id"]
  restriction := {
    filter := some (.matching .empty .less .or)
    memberships := some [.predicate ⟨"id", .isIn, [.int 1]⟩, .connective .and, .connective .not]
    patterns := some [.connective .or]
    junction := .or }
  window := some { limit := none, offset := some (-1) }

/-- The parts are put in one by one, the bound by taking back that it is taken
out. -/
theorem Select.edited_padded :
    Relation.EqvGen Statement.Inert (.select .listed) (.select .padded) := by
  have empty : Record.empty.isEmpty = true := rfl
  have below : (-1 : Int64) < 0 := by decide
  apply Relation.EqvGen.trans
  · exact .rel _ _ (.restriction rfl (.junction _ .or (Nat.le_refl 1)))
  apply Relation.EqvGen.trans
  · exact .rel _ _ (.restriction rfl (.memberships _ (.trailing _ [.and, .not])))
  apply Relation.EqvGen.trans
  · exact .rel _ _ (.restriction rfl (.patterns _ (.absent [.or])))
  apply Relation.EqvGen.trans
  · exact .rel _ _ (.restriction rfl (.filter _ (.absent empty .less .or)))
  apply Relation.EqvGen.trans
  · exact .rel _ _ (.window _ .absent)
  apply Relation.EqvGen.symm
  exact .rel _ _ (.window .padded (.offset _ (.dropped below)))

/-- New rows, the only one of which lacks a listed column. -/
def Insert.sparse : Insert where
  columns := ["id", "name"]
  rows := [.ofList [("name", .text "a")]]

/-- The same with a null there, in another order, and with more. -/
def Insert.crowded : Insert where
  columns := ["id", "name"]
  rows := [.ofList [("age", .int 3), ("name", .text "a"), ("id", .null)]]

theorem Insert.edited_crowded :
    Relation.EqvGen Statement.Inert (.insert .sparse) (.insert .crowded) := by
  refine .rel _ _ (.rows .sparse (.cons ?_ .nil))
  intro column member
  simp only [Insert.sparse, List.mem_cons, List.not_mem_nil, or_false] at member
  rcases member with rfl | rfl <;> rfl

/-- None of these parts is in the text or among the parameters. -/
theorem Statement.compile_inert_sample :
    Relation.EqvGen Inert (.select .listed) (.select .padded) ∧
      (Statement.select .padded).compile .postgres ⟨"s", "t"⟩ = .ok {
        verb := .select
        sql := "SELECT \"id\" FROM \"s\".\"t\" WHERE \"id\" IN ($1);"
        params := [.int 1] } ∧
      Relation.EqvGen Inert (.insert .sparse) (.insert .crowded) ∧
      (Statement.insert .crowded).compile .postgres ⟨"s", "t"⟩ = .ok {
        verb := .insert
        sql := "INSERT INTO \"s\".\"t\" (\"id\", \"name\") VALUES ($1, $2);"
        params := [.null, .text "a"] } := by
  refine ⟨Select.edited_padded, ?_, Insert.edited_crowded, ?_⟩
  · rw [← (compile_inert Select.edited_padded).1]
    rfl
  · rw [← (compile_inert Insert.edited_crowded).1]
    rfl

end ParamSql

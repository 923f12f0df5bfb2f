import ParamSql.Proofs.Independence
import ParamSql.Table

/-!
# Which statements are refused

A statement of each kind is held to rules, in a fixed order.  One that breaks
none of its rules is compiled, and one that does is refused for the first that
it breaks.

The rules are read off the description: which of its lists are empty.  The
compiler makes its checks in several places, some of them only when the other
clauses have been made, and finds a predicate in other ways than it writes one.
The main result is that all of this comes to the rules, whatever the dialect,
the table and the values.
-/

namespace ParamSql

variable {α β : Type}

/-! ## Rules -/

/-- A rule that a statement is held to. -/
structure Rule where
  /-- Whether the statement breaks it. -/
  broken : Bool
  /-- Why the statement is refused then. -/
  violation : Violation
  /-- What is said of the statement then. -/
  text : String
  worded : violation.message = text := by rfl

/-- What is wrong by the first rule that is broken. -/
def Rule.firstBroken? (rules : List Rule) : Option Violation :=
  (rules.find? Rule.broken).map Rule.violation

/-- Some column is named. -/
def columnsRule (columns : List String) : Rule where
  broken := columns.isEmpty
  violation := .emptyColumns
  text := "empty columns"

/-- Columns that are given back are listed. -/
def returningRule (returning : Option Returning) : Rule where
  broken := returning = some (.columns [])
  violation := .emptyReturning
  text := "empty returning columns"

/-- A membership lists a value. -/
def Membership.rule (p : Membership) : Rule where
  broken := p.values.isEmpty
  violation := .emptyMembership p.column
  text := "empty in-list for column \"" ++ p.column ++ "\""

/-- The membership that a predicate is, if it is one. -/
def Test.membership? : Test → Option Membership
  | membership p => some p
  | _ => none

namespace Restriction

/-- Some group has a predicate, be it one that breaks another rule. -/
def predicateRule (restriction : Restriction) : Rule where
  broken := restriction.tests.isEmpty
  violation := .missingPredicate
  text := "missing predicate"

/-- Every membership lists a value. -/
def listRules (restriction : Restriction) : List Rule :=
  (restriction.tests.filterMap Test.membership?).map Membership.rule

/-- The rules for a restriction that there has to be. -/
def rules (restriction : Restriction) : List Rule :=
  restriction.predicateRule :: restriction.listRules

end Restriction

/-- New rows have columns, and there are some. -/
def Insert.rules (s : Insert) : List Rule :=
  [columnsRule s.columns,
    { broken := s.rows.isEmpty, violation := .emptyRows, text := "empty rows" },
    returningRule s.returning]

/-- Some column is read; all rows may be. -/
def Select.rules (s : Select) : List Rule :=
  columnsRule s.columns :: s.restriction.listRules

/-- Some column is set, but not in all rows. -/
def Update.rules (s : Update) : List Rule :=
  { broken := s.assignments.entries.isEmpty
    violation := .emptyAssignments
    text := "empty set" } ::
    (s.restriction.rules ++ [returningRule s.returning])

/-- Not all rows are removed. -/
def Delete.rules (s : Delete) : List Rule :=
  s.restriction.rules ++ [returningRule s.returning]

/-- The rules for a statement, in the order in which they count. -/
def Statement.rules : Statement → List Rule
  | insert s => s.rules
  | select s => s.rules
  | update s => s.rules
  | delete s => s.rules

/-! ## Results that rules decide -/

namespace Rule

variable {rule : Rule} {rules others : List Rule} {result : Except Violation α}

theorem firstBroken?_eq_none_iff :
    firstBroken? rules = none ↔ ∀ rule ∈ rules, rule.broken = false := by
  simp [firstBroken?]

theorem firstBroken?_append (rules others : List Rule) :
    firstBroken? (rules ++ others) = (firstBroken? rules).or (firstBroken? others) := by
  rw [firstBroken?, List.find?_append, Option.map_or]
  rfl

/-- A result that is refused for the first rule that is broken, and is there if
none is. -/
def Decide (rules : List Rule) (result : Except Violation α) : Prop :=
  match firstBroken? rules with
  | some violation => result = .error violation
  | none => ∃ value, result = .ok value

namespace Decide

theorem eq_error_iff (decided : Decide rules result) {violation : Violation} :
    result = .error violation ↔ firstBroken? rules = some violation := by
  unfold Decide at decided
  cases first : firstBroken? rules with
  | none =>
      rw [first] at decided
      obtain ⟨value, rfl⟩ := decided
      simp
  | some broken =>
      rw [first] at decided
      simp [decided]

theorem exists_ok_iff (decided : Decide rules result) :
    (∃ value, result = .ok value) ↔ ∀ rule ∈ rules, rule.broken = false := by
  rw [← firstBroken?_eq_none_iff]
  unfold Decide at decided
  cases first : firstBroken? rules with
  | none =>
      rw [first] at decided
      simpa using decided
  | some broken =>
      rw [first] at decided
      simp [decided]

/-- What is made of the value does not matter. -/
theorem map (decided : Decide rules result) (make : α → β) :
    Decide rules (result.map make) := by
  unfold Decide at decided ⊢
  cases first : firstBroken? rules with
  | none =>
      rw [first] at decided
      obtain ⟨value, rfl⟩ := decided
      exact ⟨make value, rfl⟩
  | some violation =>
      rw [first] at decided
      rw [decided]
      rfl

/-- A value is decided by no rules. -/
theorem pure (value : α) : Decide [] (Except.ok value) :=
  ⟨value, rfl⟩

/-- A rule that is checked first is the first rule. -/
theorem cons (rule : Rule) (decided : Decide rules result) :
    Decide (rule :: rules) (if rule.broken then .error rule.violation else result) := by
  unfold Decide at decided ⊢
  cases broken : rule.broken with
  | false => simpa [firstBroken?, broken] using decided
  | true => simp [firstBroken?, broken]

/-- Rules that are checked later stand behind those that are checked before. -/
theorem bind (decided : Decide rules result) {next : α → Except Violation β}
    (later : ∀ value, Decide others (next value)) : Decide (rules ++ others) (result >>= next) := by
  unfold Decide at decided ⊢
  rw [firstBroken?_append]
  cases first : firstBroken? rules with
  | some violation =>
      rw [first] at decided
      rw [decided]
      rfl
  | none =>
      rw [first] at decided
      obtain ⟨value, rfl⟩ := decided
      exact later value

end Decide

end Rule

open Rule (Decide)

/-! ## The checks of the compiler -/

theorem decide_returningClause (returning : Option Returning) :
    Decide [returningRule returning] (returningClause returning) := by
  rw [returningClause_eq]
  have checked := Decide.cons (returningRule returning) (.pure (returning.map Returning.fragment))
  simpa [returningRule] using checked

theorem Chain.isEffective_eq_not_isEmpty (chain : Chain α) :
    chain.isEffective = !(Chain.predicates chain).isEmpty := by
  induction chain with
  | nil => rfl
  | cons link rest ih =>
      cases link with
      | predicate p => rfl
      | connective c => exact ih

theorem Filter.isEffective_eq_not_isEmpty (filter : Filter) :
    filter.isEffective = !filter.comparisons.isEmpty := by
  cases filter with
  | matching record comparator junction =>
      rw [Filter.isEffective, Filter.comparisons, List.isEmpty_map, Record.isEmpty]
  | chain links => exact Chain.isEffective_eq_not_isEmpty links

namespace Restriction

/-- The check for a predicate looks for what the rule asks for. -/
theorem isEffective_eq_not_isEmpty (restriction : Restriction) :
    restriction.isEffective = !restriction.tests.isEmpty := by
  have group : ∀ {β γ : Type} (part : Option β) (effective : β → Bool) (list : β → List γ)
      (kind : γ → Test), (∀ b, effective b = !(list b).isEmpty) →
        part.any effective = !((part.elim [] list).map kind).isEmpty := by
    intro β γ part effective list kind agree
    rw [List.isEmpty_map]
    cases part with
    | none => rfl
    | some b => exact agree b
  have joined : ∀ first second : List Test,
      (!(first ++ second).isEmpty) = (!first.isEmpty || !second.isEmpty) := by
    intro first second
    cases first <;> rfl
  rw [isEffective, group _ _ _ .comparison Filter.isEffective_eq_not_isEmpty,
    group _ _ _ .membership Chain.isEffective_eq_not_isEmpty,
    group _ _ _ .pattern Chain.isEffective_eq_not_isEmpty, tests, joined, joined]

/-- Only the memberships of a restriction are held to a rule of their own. -/
theorem listRules_eq (restriction : Restriction) :
    restriction.listRules =
      (Chain.predicates (restriction.memberships.getD [])).map Membership.rule := by
  have comparisons : ∀ list : List Comparison,
      (list.map Test.comparison).filterMap Test.membership? = [] := by
    intro list
    rw [List.filterMap_map]
    exact List.filterMap_eq_nil_iff.mpr fun _ _ => rfl
  have patterns : ∀ list : List Pattern,
      (list.map Test.pattern).filterMap Test.membership? = [] := by
    intro list
    rw [List.filterMap_map]
    exact List.filterMap_eq_nil_iff.mpr fun _ _ => rfl
  have memberships : ∀ list : List Membership,
      (list.map Test.membership).filterMap Test.membership? = list := by
    intro list
    rw [List.filterMap_map]
    exact List.filterMap_some
  rw [listRules, tests, List.filterMap_append, List.filterMap_append, comparisons, patterns,
    memberships, List.nil_append, List.append_nil]
  cases restriction.memberships <;> rfl

/-- The search for a membership without values finds the first. -/
theorem firstBroken?_listRules (restriction : Restriction) :
    Rule.firstBroken? restriction.listRules =
      restriction.emptyMembership?.map .emptyMembership := by
  rw [listRules_eq, Rule.firstBroken?, List.find?_map, emptyMembership?, Option.map_map,
    Option.map_map]
  rfl

theorem decide_emptyMembership? (restriction : Restriction) (value : α) :
    Decide restriction.listRules (match restriction.emptyMembership? with
      | some column => .error (.emptyMembership column)
      | none => .ok value) := by
  rw [Decide, firstBroken?_listRules]
  cases restriction.emptyMembership? with
  | some column => rfl
  | none => exact ⟨value, rfl⟩

theorem decide_check (restriction : Restriction) : Decide restriction.rules restriction.check := by
  rw [check, isEffective_eq_not_isEmpty, Bool.not_not]
  exact .cons _ (restriction.decide_emptyMembership? ())

end Restriction

/-- The columns that are given back are checked behind the restriction. -/
theorem decide_checked (restriction : Restriction) (returning : Option Returning)
    (build : Option Fragment → Clauses Fragment) :
    Decide (restriction.rules ++ [returningRule returning]) (do
      restriction.check
      let clause ← returningClause returning
      return build clause) := by
  refine restriction.decide_check.bind fun _ => ?_
  exact (decide_returningClause returning).bind fun clause => .pure (build clause)

/-- The rules decide which statements have clauses. -/
theorem Statement.decide_clauses (statement : Statement) :
    Decide statement.rules statement.clauses := by
  cases statement with
  | insert s => exact .cons _ (.cons _ ((decide_returningClause s.returning).map _))
  | select s => exact .cons _ (s.restriction.decide_emptyMembership? _)
  | update s => exact .cons _ (decide_checked s.restriction s.returning _)
  | delete s => exact decide_checked s.restriction s.returning _

/-! ## Statements -/

namespace Statement

/-- The statement without bounds on how many rows it reads. -/
def unbounded (statement : Statement) : Statement :=
  statement.mapSelect fun s => { s with window := none }

/-- Bounds are held to no rule. -/
theorem rules_unbounded (statement : Statement) : statement.unbounded.rules = statement.rules := by
  cases statement <;> rfl

/-- Alike statements break the same rule first. -/
theorem Alike.firstBroken?_eq {s t : Statement} (alike : s.Alike t) :
    Rule.firstBroken? s.rules = Rule.firstBroken? t.rules := by
  have result := alike.clauses
  apply Option.ext
  intro violation
  rw [← s.decide_clauses.eq_error_iff, ← t.decide_clauses.eq_error_iff]
  generalize s.clauses = clauses, t.clauses = others at result ⊢
  cases result with
  | refused violation => rfl
  | written alike => simp

/-- The rules decide which statements are compiled, in every dialect and for
every table. -/
theorem decide_compile (statement : Statement) (dialect : Dialect) (table : QualifiedName) :
    Decide statement.rules (statement.compile dialect table) :=
  statement.decide_clauses.map _

/-- A statement is refused in every dialect and for every table exactly if it
breaks a rule, and then for the first rule that it breaks, in the words of this
rule; else it is compiled.  On a table nothing but this is refused, and always
as invalid.  Two statements that differ at most in values, bounds included,
break the same rule first. -/
theorem compile_validated (statement : Statement) :
    (∀ dialect table violation, statement.compile dialect table = .error violation ↔
      Rule.firstBroken? statement.rules = some violation) ∧
    (∀ dialect table, (∃ command, statement.compile dialect table = .ok command) ↔
      ∀ rule ∈ statement.rules, rule.broken = false) ∧
    (∀ rule ∈ statement.rules, rule.violation.message = rule.text) ∧
    (∀ (table : Table) elapsed schema diagnostics error,
      table.compile elapsed { statement, schema, diagnostics } = .error error ↔
        ∃ violation, Rule.firstBroken? statement.rules = some violation ∧
          error = .validation violation) ∧
    ∀ other : Statement, statement.unbounded.Alike other.unbounded →
      Rule.firstBroken? statement.rules = Rule.firstBroken? other.rules := by
  refine ⟨?_, ?_, fun rule _ => rule.worded, ?_, ?_⟩
  · intro dialect table violation
    exact (statement.decide_compile dialect table).eq_error_iff
  · intro dialect table
    exact (statement.decide_compile dialect table).exists_ok_iff
  · intro table elapsed schema diagnostics error
    have decided := statement.decide_compile table.dialect ⟨schema.getD table.schema, table.name⟩
    simp only [← decided.eq_error_iff, Table.compile, Table.nameFor]
    cases statement.compile table.dialect ⟨schema.getD table.schema, table.name⟩ with
    | error violation => simp [eq_comm]
    | ok command => simp
  · intro other alike
    rw [← statement.rules_unbounded, ← other.rules_unbounded]
    exact alike.firstBroken?_eq

end Statement

/-- A deletion whose only predicate lists no value, between connectives, and
which gives back no column. -/
def Delete.unlisted : Delete where
  restriction := {
    filter := some (.chain [.connective .and])
    memberships := some [.connective .not, .predicate ⟨"id", .isIn, []⟩] }
  returning := some (.columns [])

/-- The membership without values is a predicate all the same, so that it is
refused itself, and before the columns are. -/
theorem Statement.compile_validated_sample :
    Rule.firstBroken? (Statement.delete .unlisted).rules = some (.emptyMembership "id") ∧
      (Statement.delete .unlisted).compile .named ⟨"s", "t"⟩ = .error (.emptyMembership "id") ∧
      (Violation.emptyMembership "id").message = "empty in-list for column \"id\"" := by
  have first : Rule.firstBroken? (Statement.delete .unlisted).rules =
      some (.emptyMembership "id") := rfl
  obtain ⟨refused, -, worded, -⟩ := (Statement.delete .unlisted).compile_validated
  refine ⟨first, (refused .named ⟨"s", "t"⟩ _).mpr first, ?_⟩
  exact worded (Membership.rule ⟨"id", .isIn, []⟩) (.tail _ (.head _))

end ParamSql

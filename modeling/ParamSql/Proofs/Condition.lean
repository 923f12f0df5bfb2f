import ParamSql.Proofs.Decodability
import ParamSql.Proofs.Presence

/-!
# The text of a condition

The groups of a restriction are written one by one, and what is written behind
WHERE is one flat row of predicates and connectives: the condition of the
normal form.  This file writes such a row down link by link, each predicate
numbered from where the one before it ends, and shows that a compiled statement
has exactly the row of its condition between what it opens with and what it
ends with.
-/

namespace ParamSql

/-! ## Texts of chains -/

namespace Link

/-- The text of a link whose first placeholder has a given index. -/
def textAt (dialect : Dialect) (index : Nat) : Link Test → String
  | predicate p => p.text dialect index
  | connective c => c.word

/-- How many placeholders a link has. -/
def width : Link Test → Nat
  | predicate p => p.values.length
  | connective _ => 0

theorem textAt_fragment (dialect : Dialect) (index : Nat) (link : Link Test) :
    (link.fragment Test.fragment).textAt dialect index = link.textAt dialect index := by
  cases link with
  | predicate p => exact p.textAt_fragment dialect index
  | connective c => exact String.append_empty

theorem length_bindings_fragment (link : Link Test) :
    (link.fragment Test.fragment).bindings.length = link.width := by
  cases link with
  | predicate p => rw [width, ← p.bindings_fragment, List.length_map]; rfl
  | connective c => rfl

theorem signs_fragment (link : Link Test) :
    (link.fragment Test.fragment).signs = link.template := by
  cases link with
  | predicate p =>
      cases p with
      | comparison p => exact p.signs_fragment
      | membership p => exact p.signs_fragment
      | pattern p => exact p.signs_fragment
  | connective c => exact List.append_nil _

end Link

namespace Chain

/-- The texts of the links, each numbered from where the one before it ends. -/
def textsAt (dialect : Dialect) : Nat → Chain Test → List String
  | _, [] => []
  | index, link :: rest => link.textAt dialect index :: textsAt dialect (index + link.width) rest

/-- The text of a chain: its links with a blank between any two. -/
def textAt (dialect : Dialect) (index : Nat) (chain : Chain Test) : String :=
  " ".intercalate (textsAt dialect index chain)

/-- How many placeholders a chain has. -/
def width : Chain Test → Nat
  | [] => 0
  | link :: rest => link.width + width rest

/-- A chain of predicates of all kinds as a fragment. -/
def fragment (chain : Chain Test) : Fragment :=
  Fragment.joined " " (chain.map (Link.fragment Test.fragment))

theorem textAt_fragment (dialect : Dialect) (index : Nat) (chain : Chain Test) :
    (Chain.fragment chain).textAt dialect index = textAt dialect index chain := by
  induction chain generalizing index with
  | nil => rfl
  | cons link rest ih =>
      cases rest with
      | nil => exact link.textAt_fragment dialect index
      | cons next rest =>
          have joined : Chain.fragment (link :: next :: rest) =
              link.fragment Test.fragment ++ .text " " :: Chain.fragment (next :: rest) := rfl
          rw [joined, Fragment.textAt_append, Fragment.textAt_text_cons, link.textAt_fragment,
            link.length_bindings_fragment, ih, ← String.append_assoc]
          exact String.intercalate_cons_cons.symm

theorem signs_fragment (chain : Chain Test) : (Chain.fragment chain).signs = chain.template := by
  rw [Chain.fragment, Fragment.signs_joined, List.map_map, Chain.template]
  exact congrArg _ (List.map_congr_left fun link _ => link.signs_fragment)

theorem length_bindings_fragment (chain : Chain Test) :
    (Chain.fragment chain).bindings.length = width chain := by
  rw [Chain.fragment, Fragment.bindings_joined]
  induction chain with
  | nil => rfl
  | cons link rest ih =>
      rw [List.map_cons, List.flatMap_cons, List.length_append, link.length_bindings_fragment, ih,
        width]

theorem bindings_fragment (chain : Chain Test) :
    (Chain.fragment chain).bindings =
      (Chain.predicates chain).flatMap fun p => p.fragment.bindings := by
  rw [Chain.fragment, Fragment.bindings_joined, List.flatMap_map, flatMap_bindings_links]

end Chain

/-! ## Conditions of restrictions -/

/-- Fragments with the same signs and the same parameters have the same
text. -/
theorem Fragment.textAt_congr {first second : Fragment} (signs : first.signs = second.signs)
    (bindings : first.bindings = second.bindings) (dialect : Dialect) (index : Nat) :
    first.textAt dialect index = second.textAt dialect index := by
  apply Option.some.inj
  rw [← Fragment.fill?_signs, ← Fragment.fill?_signs, signs, bindings]

/-- The parameters of a filter are those of its comparisons. -/
theorem Filter.flatMap_bindings_comparisons (filter : Filter) :
    (filter.comparisons.map Test.comparison).flatMap (fun p => p.fragment.bindings) =
      filter.bindings := by
  have single : ∀ list : List Comparison,
      (list.map Test.comparison).flatMap (fun p => p.fragment.bindings) =
        list.map Comparison.binding := by
    intro list
    rw [List.flatMap_map, List.map_eq_flatMap]
    rfl
  rw [single]
  cases filter with
  | matching record comparator junction =>
      rw [Filter.comparisons, List.map_map]
      exact List.map_id _
  | chain links => rfl

namespace Restriction

/-- The parameters of a restriction are those of its predicates. -/
theorem flatMap_bindings_tests (restriction : Restriction) :
    restriction.tests.flatMap (fun p => p.fragment.bindings) = restriction.bindings := by
  have memberships : ∀ list : List Membership,
      (list.map Test.membership).flatMap (fun p => p.fragment.bindings) =
        list.flatMap Membership.bindings := by
    intro list
    rw [List.flatMap_map]
    exact List.flatMap_congr fun p _ => p.bindings_fragment
  have patterns : ∀ list : List Pattern,
      (list.map Test.pattern).flatMap (fun p => p.fragment.bindings) =
        list.map Pattern.binding := by
    intro list
    rw [List.flatMap_map, List.map_eq_flatMap]
    rfl
  rw [tests, List.flatMap_append, List.flatMap_append, memberships, patterns, bindings]
  cases restriction.filter with
  | none => cases restriction.memberships <;> cases restriction.patterns <;> rfl
  | some filter =>
      rw [Option.elim_some, Filter.flatMap_bindings_comparisons]
      cases restriction.memberships <;> cases restriction.patterns <;> rfl

/-- Some group passes the check exactly if some chain is left. -/
theorem chains_ne_nil {restriction : Restriction} (effective : restriction.isEffective = true) :
    restriction.chains ≠ [] := by
  intro none_left
  have signs := restriction.signs_present
  rw [none_left, List.map_nil, List.map_eq_nil_iff] at signs
  exact restriction.isEffective_iff_present.mp effective signs

/-- The groups have the parameters of the condition. -/
theorem bindings_groups_condition (restriction : Restriction) :
    restriction.groups.condition.bindings = (Chain.fragment restriction.condition).bindings := by
  rw [bindings_condition, bindings_groups, ← flatMap_bindings_tests, ← predicates_condition,
    ← Chain.bindings_fragment]

/-- The condition that the groups make up is the text of one chain. -/
theorem textAt_condition {restriction : Restriction} (effective : restriction.isEffective = true)
    (dialect : Dialect) (index : Nat) :
    restriction.groups.condition.textAt dialect index =
      " WHERE " ++ restriction.condition.textAt dialect index := by
  have some_link : restriction.condition ≠ [] :=
    Chain.connected_ne_nil _ (chains_ne_nil effective) restriction.nil_not_mem_chains
  have signs : restriction.groups.condition.signs =
      Fragment.signs (.text " WHERE " :: Chain.fragment restriction.condition) := by
    rw [signs_condition, Chain.whereTemplate_of_ne_nil some_link, ← Chain.signs_fragment]
    rfl
  rw [Fragment.textAt_congr signs restriction.bindings_groups_condition,
    Fragment.textAt_text_cons, Chain.textAt_fragment]

end Restriction

/-! ## Conditions of statements -/

namespace Clauses

/-- What a statement is written with in front of its condition. -/
def opening (table : QualifiedName) : Clauses Fragment → Fragment
  | .insert columns values returning =>
      Clauses.statement table (.insert columns values returning)
  | .select columns _ _ _ => .text "SELECT " :: (columns ++ .text " FROM " :: table.fragment)
  | .update assignments _ _ => .text "UPDATE " :: (table.fragment ++ .text " SET " :: assignments)
  | .delete _ _ => .text "DELETE FROM " :: table.fragment

/-- What a statement is written with behind its condition. -/
def ending : Clauses Fragment → Fragment
  | .insert _ _ _ => []
  | .select _ _ order window => optionalClause " " order ++ optionalClause " " window ++ [.text ";"]
  | .update _ _ returning => optionalClause " RETURNING " returning ++ [.text ";"]
  | .delete _ returning => optionalClause " RETURNING " returning ++ [.text ";"]

/-- The groups of a statement, if it is about rows that are there. -/
def groups? : Clauses Fragment → Option (Groups Fragment)
  | .insert _ _ _ => none
  | .select _ groups _ _ => some groups
  | .update _ groups _ => some groups
  | .delete groups _ => some groups

theorem statement_eq (table : QualifiedName) {clauses : Clauses Fragment}
    {groups : Groups Fragment} (given : clauses.groups? = some groups) :
    clauses.statement table = clauses.opening table ++ groups.condition ++ clauses.ending := by
  cases clauses with
  | insert columns values returning => cases given
  | select columns groups order window =>
      cases given
      simp [Clauses.statement, opening, ending]
  | update assignments groups returning =>
      cases given
      simp [Clauses.statement, opening, ending]
  | delete groups returning =>
      cases given
      simp [Clauses.statement, opening, ending]

end Clauses

theorem Statement.groups?_clauses {statement : Statement} {clauses : Clauses Fragment}
    (valid : statement.clauses = .ok clauses) :
    clauses.groups? = statement.restriction?.map Restriction.groups := by
  cases statement with
  | insert s => rcases Insert.clauses_eq_ok_iff.mp valid with ⟨-, -, -, rfl⟩; rfl
  | select s => rcases Select.clauses_eq_ok_iff.mp valid with ⟨-, -, rfl⟩; rfl
  | update s => rcases Update.clauses_eq_ok_iff.mp valid with ⟨-, -, -, -, rfl⟩; rfl
  | delete s => rcases Delete.clauses_eq_ok_iff.mp valid with ⟨-, -, -, rfl⟩; rfl

/-- A command whose text has a chain as its condition, between what the
statement opens with and what it ends with. -/
def Command.HasCondition (dialect : Dialect) (table : QualifiedName) (statement : Statement)
    (chain : Chain Test) (command : Command) : Prop :=
  ∃ clauses, statement.clauses = .ok clauses ∧
    ∃ first, first = dialect.startIndex + (clauses.opening table).bindings.length ∧
      command.sql = (clauses.opening table).textAt dialect dialect.startIndex ++
        (" WHERE " ++ chain.textAt dialect first) ++
        clauses.ending.textAt dialect (first + chain.width)

/-- A statement that compiles with a predicate has its condition as one
chain. -/
theorem Statement.hasCondition_of_compile {dialect : Dialect} {table : QualifiedName}
    {statement : Statement} {command : Command} {restriction : Restriction}
    (compiled : statement.compile dialect table = .ok command)
    (restricted : statement.restriction? = some restriction)
    (effective : restriction.isEffective = true) :
    command.HasCondition dialect table statement restriction.condition := by
  rcases Statement.compile_eq_ok_iff.mp compiled with ⟨clauses, valid, rfl⟩
  have given : clauses.groups? = some restriction.groups := by
    rw [Statement.groups?_clauses valid, restricted, Option.map_some]
  refine ⟨clauses, valid, _, rfl, ?_⟩
  rw [clauses.statement_eq table given, Fragment.textAt_append, Fragment.textAt_append,
    Restriction.textAt_condition effective, Fragment.bindings_append, List.length_append,
    Restriction.bindings_groups_condition, Chain.length_bindings_fragment, Nat.add_assoc]

end ParamSql

import ParamSql.Proofs.NormalForm
import ParamSql.Proofs.Validity

/-!
# Statements and the templates of their normal forms

The fragments of a statement nest as the description does: a group of
predicates is cut behind its last predicate, groups that are left without one
are skipped, and a record is written by a loop of its own.  Its template does
not show any of this.  This file proves that the signs of a statement with
clauses are those of the template of its normal form.
-/

namespace ParamSql

open Sign (chars commas)

variable {α : Type}

/-! ## Chains -/

namespace Chain

/-- Dropping from the end reaches the first link only behind all the others. -/
theorem closed_cons (link : Link α) (rest : Chain α) :
    Chain.closed (link :: rest) =
      if Chain.closed rest = [] then (if link.isPredicate then [link] else [])
      else link :: Chain.closed rest := by
  rw [Chain.closed, Chain.closed, List.rdropWhile, List.rdropWhile, List.reverse_cons,
    List.dropWhile_append]
  by_cases none_left : rest.reverse.dropWhile (fun link => !link.isPredicate) = []
  · cases predicate : link.isPredicate <;> simp [none_left, predicate]
  · simp [none_left]

/-- A chain is cut exactly behind its last predicate. -/
theorem trimmed_eq_closed (chain : Chain α) : chain.trimmed = Chain.closed chain := by
  induction chain with
  | nil => rfl
  | cons link rest ih =>
      rw [closed_cons, ← ih, Chain.trimmed]
      cases Chain.trimmed rest with
      | nil => simp
      | cons next kept => simp

theorem connected_ne_nil (junction : Junction) {chains : List (Chain α)}
    (some_chain : chains ≠ []) (nonempty : [] ∉ chains) : connected junction chains ≠ [] := by
  cases chains with
  | nil => contradiction
  | cons chain rest =>
      cases chain with
      | nil => exact absurd List.mem_cons_self nonempty
      | cons link links => simp [connected]

theorem connected_cons_cons (junction : Junction) (chain next : Chain α)
    (rest : List (Chain α)) :
    connected junction (chain :: next :: rest) =
      chain ++ ([.connective junction.toConnective] ++ connected junction (next :: rest)) := by
  simp only [connected, List.intercalate_cons_cons, List.append_assoc]

theorem map_connected {β : Type} (f : α → β) (junction : Junction) (chains : List (Chain α)) :
    (connected junction chains).map (Link.map f) =
      connected junction (chains.map fun chain => chain.map (Link.map f)) := by
  induction chains with
  | nil => rfl
  | cons chain rest ih =>
      cases rest with
      | nil => simp [connected]
      | cons next rest =>
          rw [connected_cons_cons, List.map_append, List.map_append, ih]
          exact (connected_cons_cons junction _ _ _).symm

end Chain

/-- A separator also stands between two rows that are joined by themselves. -/
theorem intercalate_append (separator : List α) {first second : List (List α)}
    (first_ne_nil : first ≠ []) (second_ne_nil : second ≠ []) :
    separator.intercalate (first ++ second) =
      separator.intercalate first ++ separator ++ separator.intercalate second := by
  induction first with
  | nil => contradiction
  | cons row rest ih =>
      cases rest with
      | nil =>
          rw [List.singleton_append, List.intercalate_cons_of_ne_nil second_ne_nil,
            List.intercalate_singleton]
      | cons next rest =>
          rw [List.cons_append, List.intercalate_cons_of_ne_nil (by simp), ih (by simp),
            List.intercalate_cons_cons]
          simp only [List.append_assoc]

namespace Chain

/-- Connected chains are written like groups with the connective, between
blanks, in between. -/
theorem template_connected (junction : Junction) {chains : List (Chain Test)}
    (nonempty : [] ∉ chains) :
    (connected junction chains).template =
      (chars (" " ++ junction.word ++ " ")).intercalate (chains.map Chain.template) := by
  induction chains with
  | nil => rfl
  | cons chain rest ih =>
      cases rest with
      | nil => simp [connected]
      | cons next rest =>
          obtain ⟨chain_nonempty, rest_nonempty⟩ :=
            not_or.mp (List.mem_cons.not.mp nonempty)
          have chain_ne : chain.map Link.template ≠ [] := by
            simpa using Ne.symm chain_nonempty
          have rest_ne : (connected junction (next :: rest)).map Link.template ≠ [] := by
            simpa using connected_ne_nil junction (List.cons_ne_nil _ _) rest_nonempty
          have joined : (chars (" " ++ junction.word ++ " ")).intercalate
              ((chain :: next :: rest).map Chain.template) =
                chain.template ++ chars (" " ++ junction.word ++ " ") ++
                  (connected junction (next :: rest)).template := by
            rw [ih rest_nonempty]
            exact List.intercalate_cons_of_ne_nil (List.cons_ne_nil _ _)
          rw [joined, connected_cons_cons, Chain.template, List.map_append, List.map_append,
            intercalate_append _ chain_ne (by simp), intercalate_append _ (by simp) rest_ne]
          simp [Chain.template, Link.template]

/-- The template of a chain, if it has a predicate. -/
def template? (chain : Chain Test) : Option (List (Sign Value)) :=
  if chain.isEmpty then none else some chain.template

theorem template?_of_ne_nil {chain : Chain Test} (nonempty : chain ≠ []) :
    template? chain = some chain.template := by
  rw [template?, if_neg (by simpa using nonempty)]

theorem whereTemplate_of_ne_nil {chain : Chain Test} (nonempty : chain ≠ []) :
    chain.whereTemplate = chars " WHERE " ++ chain.template := by
  cases chain with
  | nil => contradiction
  | cons link rest => rfl

theorem map_template_filter (chains : List (Chain Test)) :
    (chains.filter fun chain => !chain.isEmpty).map Chain.template =
      chains.filterMap template? := by
  induction chains with
  | nil => rfl
  | cons chain rest ih =>
      cases chain with
      | nil => simpa [template?] using ih
      | cons link links => simpa [template?] using ih

end Chain

/-! ## Groups -/

theorem Comparison.signs_fragment (p : Comparison) :
    p.fragment.signs = (Test.comparison p).template := by
  simp [Comparison.fragment, Fragment.signs, Test.template]

theorem Membership.signs_fragment (p : Membership) :
    p.fragment.signs = (Test.membership p).template := by
  simp [Membership.fragment, Fragment.signs, Fragment.signs_joined, Test.template, commas,
    Function.comp_def]

theorem Pattern.signs_fragment (p : Pattern) :
    p.fragment.signs = (Test.pattern p).template := by
  simp [Pattern.fragment, Fragment.signs, Test.template]

/-- A chain of one kind of predicates is written like its part of the
condition, and is absent exactly if that is empty. -/
theorem Chain.signs_fragment? (write : α → Fragment) (kind : α → Test)
    (written : ∀ p, (write p).signs = (kind p).template) (chain : Chain α) :
    (chain.fragment? write).map Fragment.signs = Chain.template? (Chain.tests kind chain) := by
  have links : ∀ link, (Link.fragment write link).signs = (Link.map kind link).template := by
    intro link
    cases link with
    | predicate p => exact written p
    | connective c => simp [Link.fragment, Link.map, Link.template, Fragment.signs]
  rw [Chain.fragment?, Chain.trimmed_eq_closed, Chain.tests]
  cases Chain.closed chain with
  | nil => rfl
  | cons link rest =>
      simp [Fragment.signs_joined, Chain.template?, Chain.template, links, Function.comp_def]

/-- Both forms of a filter are written like their part of the condition. -/
theorem Filter.signs_fragment? (filter : Filter) :
    filter.fragment?.map Fragment.signs = Chain.template? filter.tests := by
  cases filter with
  | chain links => exact links.signs_fragment? _ .comparison Comparison.signs_fragment
  | matching record comparator junction =>
      rw [Filter.tests, Filter.closed, Chain.map_connected, Filter.fragment?, Record.isEmpty]
      cases record.entries with
      | nil => rfl
      | cons entry rest =>
          rw [Chain.template?_of_ne_nil
              (Chain.connected_ne_nil junction (by simp) (by simp)),
            Chain.template_connected _ (by simp), if_neg (by simp), Option.map_some,
            Fragment.signs_joined]
          simp [Comparison.signs_fragment, Chain.template, Link.template, Link.map,
            Function.comp_def]

namespace Restriction

/-- The groups that are written are the chains of the condition. -/
theorem signs_present (restriction : Restriction) :
    restriction.groups.present.map Fragment.signs = restriction.chains.map Chain.template := by
  have group : ∀ {β : Type} (part : Option β) (fragment? : β → Option Fragment)
      (tests : β → Chain Test),
      (∀ b, (fragment? b).map Fragment.signs = Chain.template? (tests b)) →
        (part.bind fragment?).map Fragment.signs = Chain.template? (part.elim [] tests) := by
    intro β part fragment? tests agree
    cases part with
    | none => rfl
    | some b => exact agree b
  rw [Restriction.chains, Chain.map_template_filter, Groups.present, List.map_filterMap]
  simp only [Restriction.groups, List.filterMap_cons, id,
    group _ _ _ Filter.signs_fragment?,
    group _ _ _ (Chain.signs_fragment? _ _ Membership.signs_fragment),
    group _ _ _ (Chain.signs_fragment? _ _ Pattern.signs_fragment)]
  rfl

theorem nil_not_mem_chains (restriction : Restriction) : [] ∉ restriction.chains := by
  intro member
  have nonempty := (List.mem_filter.mp member).2
  simp at nonempty

/-- The condition of a statement is that of its normal form. -/
theorem signs_condition (restriction : Restriction) :
    restriction.groups.condition.signs = restriction.condition.whereTemplate := by
  have signs := restriction.signs_present
  have nonempty := restriction.nil_not_mem_chains
  rw [Groups.condition, Restriction.condition]
  cases present : restriction.groups.present with
  | nil =>
      rw [present, List.map_nil] at signs
      rw [List.map_eq_nil_iff.mp signs.symm]
      rfl
  | cons fragment rest =>
      have some_chain : restriction.chains ≠ [] := by
        intro none_left
        simp [present, none_left] at signs
      rw [Chain.whereTemplate_of_ne_nil (Chain.connected_ne_nil _ some_chain nonempty),
        Chain.template_connected _ nonempty, ← signs, present]
      simp [Fragment.signs, Fragment.signs_joined, Restriction.groups]

end Restriction

/-! ## The other clauses -/

theorem Fragment.signs_identifiers (names : List String) :
    (Fragment.identifiers names).signs = namesTemplate names := by
  simp [Fragment.identifiers, Fragment.signs, Fragment.signs_joined, namesTemplate, commas,
    Function.comp_def]

theorem signs_returning (returning : Option Returning) :
    (optionalClause " RETURNING " (returning.map Returning.fragment)).signs =
      returningTemplate returning := by
  rcases returning with _ | (_ | names)
  · rfl
  · rfl
  · simp [optionalClause, Returning.fragment, returningTemplate, Fragment.signs,
      Fragment.signs_identifiers]

theorem signs_order (order : Option SortKey) :
    (optionalClause " " (order.map SortKey.fragment)).signs = orderTemplate order := by
  cases order with
  | none => rfl
  | some key => simp [optionalClause, SortKey.fragment, orderTemplate, Fragment.signs, chars]

theorem signs_bound (keyword column : String) (bound : Option Int64) :
    (optionalClause " " (boundFragment? keyword column bound)).signs =
      boundTemplate (" " ++ keyword) (bound.filter fun count => 0 ≤ count) := by
  rw [boundFragment?_eq_map]
  cases bound.filter fun count => 0 ≤ count with
  | none => rfl
  | some count => simp [optionalClause, boundTemplate, Fragment.signs]

theorem signs_window (window : Option Window) :
    (optionalClause " " (window.bind Window.fragment?)).signs =
      boundTemplate " LIMIT " (Window.bound Window.limit window) ++
        boundTemplate " OFFSET " (Window.bound Window.offset window) := by
  cases window with
  | none => rfl
  | some window =>
      have limit := signs_bound "LIMIT " "limit" window.limit
      have offset := signs_bound "OFFSET " "offset" window.offset
      simp only [Window.bound, Option.bind_some]
      change _ = boundTemplate (" " ++ "LIMIT ") _ ++ boundTemplate (" " ++ "OFFSET ") _
      rw [← limit, ← offset, Window.fragment?]
      cases boundFragment? "LIMIT " "limit" window.limit <;>
        cases boundFragment? "OFFSET " "offset" window.offset <;>
        simp [optionalClause, Fragment.joined, Fragment.signs]

theorem signs_rowFragment (columns : List String) (row : Record) :
    (rowFragment columns row).signs = rowTemplate (row.project columns) := by
  simp [rowFragment, rowTemplate, Record.project, Fragment.signs, Fragment.signs_joined, commas,
    Function.comp_def]

theorem signs_selectedColumn (column : String) :
    (selectedColumn column).signs = columnTemplate column := by
  by_cases star : column = "*" <;> simp [selectedColumn, columnTemplate, star, Fragment.signs]

theorem signs_assignmentFragment (entry : String × Value) :
    (assignmentFragment entry.1 entry.2).signs = assignmentTemplate entry :=
  rfl

/-! ## Statements -/

/-- A statement with clauses has the template of its normal form. -/
theorem Statement.signs_statement {statement : Statement} {clauses : Clauses Fragment}
    (valid : statement.clauses = .ok clauses) (table : QualifiedName) :
    (clauses.statement table).signs = (statement.normalForm table).template := by
  have name : table.fragment.signs = table.template := rfl
  cases statement with
  | insert s =>
      rcases Insert.clauses_eq_ok_iff.mp valid with ⟨-, -, -, rfl⟩
      simp [Clauses.statement, Statement.normalForm, NormalForm.template, NormalForm.body,
        Fragment.signs, Fragment.signs_joined, name, Fragment.signs_identifiers,
        signs_rowFragment, signs_returning, commas, Function.comp_def, chars]
  | select s =>
      rcases Select.clauses_eq_ok_iff.mp valid with ⟨-, -, rfl⟩
      simp [Clauses.statement, Statement.normalForm, NormalForm.template, NormalForm.body,
        Fragment.signs, Fragment.signs_joined, name, signs_selectedColumn,
        Restriction.signs_condition, signs_order, signs_window, commas, Function.comp_def]
  | update s =>
      rcases Update.clauses_eq_ok_iff.mp valid with ⟨-, -, -, -, rfl⟩
      simp [Clauses.statement, Statement.normalForm, NormalForm.template, NormalForm.body,
        Fragment.signs, Fragment.signs_joined, name, signs_assignmentFragment,
        Restriction.signs_condition, signs_returning, commas, Function.comp_def]
  | delete s =>
      rcases Delete.clauses_eq_ok_iff.mp valid with ⟨-, -, -, rfl⟩
      simp [Clauses.statement, Statement.normalForm, NormalForm.template, NormalForm.body,
        Fragment.signs, name, Restriction.signs_condition, signs_returning]

end ParamSql

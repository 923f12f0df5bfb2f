import Mathlib.Data.List.Forall2
import ParamSql.Proofs.NormalForm
import ParamSql.Proofs.Validity

/-!
# Texts do not depend on values

Two descriptions are alike if they differ at most in the values of their
parameters.  Of a list of values only its length counts, of the rows to be
inserted only their number, and of a bound only whether it holds.

Alike descriptions are refused for the same reason or compiled to the same
text.  The proof follows the writer: alike parts are written as alike
fragments, which show the same texts, names and columns in the same places, and
alike fragments have one text.
-/

namespace ParamSql

variable {α β : Type}

/-! ## Alike descriptions -/

/-- The same column is compared in the same way. -/
def Comparison.Alike (p q : Comparison) : Prop :=
  p.column = q.column ∧ p.operator = q.operator

/-- The same column is tested against equally many values. -/
def Membership.Alike (p q : Membership) : Prop :=
  p.column = q.column ∧ p.operator = q.operator ∧ p.values.length = q.values.length

/-- The same column is tested against a pattern in the same way. -/
def Pattern.Alike (p q : Pattern) : Prop :=
  p.column = q.column ∧ p.operator = q.operator

/-- Two alike predicates, or twice the same connective. -/
inductive Link.Alike (related : α → α → Prop) : Link α → Link α → Prop where
  | predicate {p q : α} (alike : related p q) : Alike related (.predicate p) (.predicate q)
  | connective (c : Connective) : Alike related (.connective c) (.connective c)

/-- Chains that are alike link by link. -/
def Chain.Alike (related : α → α → Prop) : Chain α → Chain α → Prop :=
  List.Forall₂ (Link.Alike related)

/-- Records of the same columns, or alike chains. -/
inductive Filter.Alike : Filter → Filter → Prop where
  | matching {record other : Record} (comparator : Comparator) (junction : Junction)
      (columns : record.columns = other.columns) :
      Alike (.matching record comparator junction) (.matching other comparator junction)
  | chain {links others : Chain Comparison} (alike : Chain.Alike Comparison.Alike links others) :
      Alike (.chain links) (.chain others)

/-- The same groups are there, each alike, with the same connective between
them. -/
structure Restriction.Alike (r s : Restriction) : Prop where
  filter : Option.Rel Filter.Alike r.filter s.filter
  memberships : Option.Rel (Chain.Alike Membership.Alike) r.memberships s.memberships
  patterns : Option.Rel (Chain.Alike Pattern.Alike) r.patterns s.patterns
  junction : r.junction = s.junction

/-- New rows with the same columns; the rows have only their number in
common. -/
structure Insert.Alike (s t : Insert) : Prop where
  columns : s.columns = t.columns
  rows : s.rows.length = t.rows.length
  returning : s.returning = t.returning

/-- The same columns of alike rows are read in the same order, and the same
bounds hold. -/
structure Select.Alike (s t : Select) : Prop where
  columns : s.columns = t.columns
  restriction : s.restriction.Alike t.restriction
  order : s.order = t.order
  limit : (Window.bound Window.limit s.window).isSome =
    (Window.bound Window.limit t.window).isSome
  offset : (Window.bound Window.offset s.window).isSome =
    (Window.bound Window.offset t.window).isSome

/-- The same columns are set. -/
structure Update.Alike (s t : Update) : Prop where
  assignments : s.assignments.columns = t.assignments.columns
  restriction : s.restriction.Alike t.restriction
  returning : s.returning = t.returning

/-- Alike rows are removed. -/
structure Delete.Alike (s t : Delete) : Prop where
  restriction : s.restriction.Alike t.restriction
  returning : s.returning = t.returning

/-- Statements of one kind that differ at most in the values of their
parameters. -/
inductive Statement.Alike : Statement → Statement → Prop where
  | insert {s t : Insert} (alike : s.Alike t) : Alike (.insert s) (.insert t)
  | select {s t : Select} (alike : s.Alike t) : Alike (.select s) (.select t)
  | update {s t : Update} (alike : s.Alike t) : Alike (.update s) (.update t)
  | delete {s t : Delete} (alike : s.Alike t) : Alike (.delete s) (.delete t)

/-! ## Alike fragments -/

/-- The same text, the same name or parameters for the same column. -/
inductive Piece.Alike : Piece → Piece → Prop where
  | text (text : String) : Alike (.text text) (.text text)
  | identifier (name : String) : Alike (.identifier name) (.identifier name)
  | parameter (column : String) (value other : Value) :
      Alike (.parameter column value) (.parameter column other)

namespace Fragment

/-- Fragments that are alike piece by piece. -/
def Alike : Fragment → Fragment → Prop :=
  List.Forall₂ Piece.Alike

theorem Alike.refl (fragment : Fragment) : fragment.Alike fragment := by
  refine List.forall₂_same.mpr fun piece _ => ?_
  cases piece with
  | text text => exact .text text
  | identifier name => exact .identifier name
  | parameter column value => exact .parameter column value value

theorem Alike.append {first second other last : Fragment} (front : first.Alike other)
    (back : second.Alike last) : (first ++ second).Alike (other ++ last) :=
  List.rel_append front back

/-- The text behind alike beginnings is the same. -/
theorem Alike.text_cons {fragment other : Fragment} (alike : fragment.Alike other)
    (text : String) : Alike (.text text :: fragment) (.text text :: other) :=
  .cons (.text text) alike

theorem Alike.joined (separator : String) {list others : List Fragment}
    (alike : List.Forall₂ Alike list others) :
    (Fragment.joined separator list).Alike (Fragment.joined separator others) := by
  induction alike with
  | nil => exact .nil
  | cons first later ih =>
      cases later with
      | nil => exact first
      | cons second rest => exact first.append (ih.text_cons separator)

/-- The values of a fragment do not show in its text. -/
theorem Alike.textAt_eq {fragment other : Fragment} (alike : fragment.Alike other)
    (dialect : Dialect) (index : Nat) :
    fragment.textAt dialect index = other.textAt dialect index := by
  induction alike generalizing index with
  | nil => rfl
  | cons first later ih =>
      cases first with
      | text text => rw [textAt_text_cons, textAt_text_cons, ih]
      | identifier name => rw [textAt_identifier_cons, textAt_identifier_cons, ih]
      | parameter column value other =>
          rw [textAt_parameter_cons, textAt_parameter_cons, ih]

end Fragment

/-! ## Predicates and chains -/

theorem Comparison.Alike.fragment {p q : Comparison} (alike : p.Alike q) :
    p.fragment.Alike q.fragment := by
  obtain ⟨column, operator⟩ := alike
  rw [Comparison.fragment, Comparison.fragment, column, operator]
  exact .cons (.identifier _) (.cons (.text _) (.cons (.parameter _ _ _) .nil))

theorem Membership.Alike.fragment {p q : Membership} (alike : p.Alike q) :
    p.fragment.Alike q.fragment := by
  obtain ⟨column, operator, size⟩ := alike
  have places : List.Forall₂ Fragment.Alike
      (p.values.map fun value => [Piece.parameter q.column value])
      (q.values.map fun value => [Piece.parameter q.column value]) := by
    rw [List.forall₂_map_left_iff, List.forall₂_map_right_iff]
    exact List.forall₂_iff_get.mpr ⟨size, fun _ _ _ => .cons (.parameter _ _ _) .nil⟩
  rw [Membership.fragment, Membership.fragment, column, operator]
  exact .cons (.identifier _) <|
    .cons (.text _) ((Fragment.Alike.joined ", " places).append (.refl _))

theorem Pattern.Alike.fragment {p q : Pattern} (alike : p.Alike q) :
    p.fragment.Alike q.fragment := by
  obtain ⟨column, operator⟩ := alike
  rw [Pattern.fragment, Pattern.fragment, column, operator]
  exact .cons (.identifier _) (.cons (.text _) (.cons (.parameter _ _ _) .nil))

section Chains

variable {related : α → α → Prop}

theorem Link.Alike.isPredicate_eq {link other : Link α} (alike : link.Alike related other) :
    link.isPredicate = other.isPredicate := by
  cases alike <;> rfl

theorem Link.Alike.fragment {write : α → Fragment}
    (written : ∀ p q, related p q → (write p).Alike (write q)) {link other : Link α}
    (alike : link.Alike related other) :
    (link.fragment write).Alike (other.fragment write) := by
  cases alike with
  | predicate alike => exact written _ _ alike
  | connective c => exact .refl _

namespace Chain.Alike

variable {chain other : Chain α}

theorem isEffective_eq (alike : Chain.Alike related chain other) :
    chain.isEffective = other.isEffective := by
  induction alike with
  | nil => rfl
  | cons first later ih =>
      rw [Chain.isEffective, Chain.isEffective] at ih ⊢
      rw [List.any_cons, List.any_cons, first.isPredicate_eq, ih]

theorem predicates (alike : Chain.Alike related chain other) :
    List.Forall₂ related (Chain.predicates chain) (Chain.predicates other) := by
  induction alike with
  | nil => exact .nil
  | cons first later ih =>
      cases first with
      | predicate alike => exact .cons alike ih
      | connective c => exact ih

/-- The last predicate stands at the same place. -/
theorem trimmed (alike : Chain.Alike related chain other) :
    Chain.Alike related (Chain.trimmed chain) (Chain.trimmed other) := by
  induction alike with
  | nil => exact .nil
  | @cons link link' rest rest' first later ih =>
      rw [Chain.trimmed, Chain.trimmed]
      generalize Chain.trimmed rest = kept, Chain.trimmed rest' = kept' at ih ⊢
      cases ih with
      | cons next last => exact .cons first (.cons next last)
      | nil =>
          dsimp only
          rw [first.isPredicate_eq]
          split
          · exact .cons first .nil
          · exact .nil

theorem fragment? {write : α → Fragment}
    (written : ∀ p q, related p q → (write p).Alike (write q))
    (alike : Chain.Alike related chain other) :
    Option.Rel Fragment.Alike (Chain.fragment? write chain) (Chain.fragment? write other) := by
  have alike := alike.trimmed
  rw [Chain.fragment?, Chain.fragment?]
  generalize Chain.trimmed chain = kept, Chain.trimmed other = kept' at alike ⊢
  cases alike with
  | nil => exact .none
  | cons first later =>
      refine .some (Fragment.Alike.joined " " ?_)
      exact List.rel_map (fun _ _ alike => Link.Alike.fragment written alike)
        (List.Forall₂.cons first later)

end Chain.Alike

end Chains

/-! ## Groups -/

/-- Entries of the same columns, one by one. -/
theorem Record.entries_alike {record other : Record} (columns : record.columns = other.columns) :
    List.Forall₂ (fun entry entry' => entry.1 = entry'.1) record.entries other.entries := by
  rw [← List.forall₂_map_right_iff (f := Prod.fst), ← List.forall₂_map_left_iff (f := Prod.fst),
    List.forall₂_eq_eq_eq]
  exact columns

theorem Record.isEmpty_eq_of_columns_eq {record other : Record}
    (columns : record.columns = other.columns) : record.isEmpty = other.isEmpty := by
  rw [Record.isEmpty, Record.isEmpty, ← List.isEmpty_map (f := Prod.fst),
    ← List.isEmpty_map (f := Prod.fst)]
  exact congrArg List.isEmpty columns

theorem Filter.Alike.isEffective_eq {filter other : Filter} (alike : filter.Alike other) :
    filter.isEffective = other.isEffective := by
  cases alike with
  | matching comparator junction columns =>
      rw [Filter.isEffective, Filter.isEffective, Record.isEmpty_eq_of_columns_eq columns]
  | chain alike => exact alike.isEffective_eq

theorem Filter.Alike.fragment? {filter other : Filter} (alike : filter.Alike other) :
    Option.Rel Fragment.Alike filter.fragment? other.fragment? := by
  cases alike with
  | chain alike => exact alike.fragment? fun _ _ => Comparison.Alike.fragment
  | matching comparator junction columns =>
      rw [Filter.fragment?, Filter.fragment?, Record.isEmpty_eq_of_columns_eq columns]
      split
      · exact .none
      · refine .some (Fragment.Alike.joined _ ?_)
        rw [List.forall₂_map_left_iff, List.forall₂_map_right_iff]
        exact (Record.entries_alike columns).imp fun entry entry' column =>
          Comparison.Alike.fragment (p := ⟨entry.1, comparator, entry.2⟩)
            (q := ⟨entry'.1, comparator, entry'.2⟩) ⟨column, rfl⟩

/-- What is made of related parts is related. -/
private theorem rel_bind {γ : Type} {related : α → α → Prop} {relatedTo : γ → γ → Prop}
    {part other : Option α} {make : α → Option γ} (alike : Option.Rel related part other)
    (made : ∀ a b, related a b → Option.Rel relatedTo (make a) (make b)) :
    Option.Rel relatedTo (part.bind make) (other.bind make) := by
  cases alike with
  | none => exact .none
  | some alike => exact made _ _ alike

/-- Checking related parts comes to the same. -/
private theorem any_eq {related : α → α → Prop} {part other : Option α} {check : α → Bool}
    (alike : Option.Rel related part other)
    (same : ∀ a b, related a b → check a = check b) : part.any check = other.any check := by
  cases alike with
  | none => rfl
  | some alike => exact same _ _ alike

/-- The fragments that are there are related one by one. -/
private theorem rel_present {parts others : List (Option Fragment)}
    (alike : List.Forall₂ (Option.Rel Fragment.Alike) parts others) :
    List.Forall₂ Fragment.Alike (parts.filterMap id) (others.filterMap id) :=
  List.rel_filterMap (fun _ _ alike => alike) alike

/-- The same groups are there, as alike fragments. -/
structure Groups.Alike (groups others : Groups Fragment) : Prop where
  filter : Option.Rel Fragment.Alike groups.filter others.filter
  memberships : Option.Rel Fragment.Alike groups.memberships others.memberships
  patterns : Option.Rel Fragment.Alike groups.patterns others.patterns
  junction : groups.junction = others.junction

theorem Groups.Alike.present {groups others : Groups Fragment} (alike : groups.Alike others) :
    List.Forall₂ Fragment.Alike groups.present others.present :=
  rel_present (.cons alike.filter (.cons alike.memberships (.cons alike.patterns .nil)))

theorem Groups.Alike.condition {groups others : Groups Fragment} (alike : groups.Alike others) :
    groups.condition.Alike others.condition := by
  have present := alike.present
  rw [Groups.condition, Groups.condition, alike.junction]
  generalize groups.present = list, others.present = list' at present ⊢
  cases present with
  | nil => exact .nil
  | cons first later => exact (Fragment.Alike.joined _ (.cons first later)).text_cons _

namespace Restriction.Alike

variable {r s : Restriction}

theorem isEffective_eq (alike : r.Alike s) : r.isEffective = s.isEffective := by
  rw [Restriction.isEffective, Restriction.isEffective,
    any_eq alike.filter fun _ _ => Filter.Alike.isEffective_eq,
    any_eq alike.memberships fun _ _ => Chain.Alike.isEffective_eq,
    any_eq alike.patterns fun _ _ => Chain.Alike.isEffective_eq]

/-- The first column that is tested against no value is the same. -/
theorem emptyMembership?_eq (alike : r.Alike s) :
    r.emptyMembership? = s.emptyMembership? := by
  have listed : List.Forall₂ Membership.Alike (Chain.predicates (r.memberships.getD []))
      (Chain.predicates (s.memberships.getD [])) := by
    have memberships := alike.memberships
    generalize r.memberships = part, s.memberships = part' at memberships ⊢
    cases memberships with
    | none => exact .nil
    | some alike => exact alike.predicates
  rw [Restriction.emptyMembership?, Restriction.emptyMembership?]
  generalize Chain.predicates (r.memberships.getD []) = list,
    Chain.predicates (s.memberships.getD []) = list' at listed ⊢
  induction listed with
  | nil => rfl
  | @cons p q _ _ first later ih =>
      obtain ⟨column, -, size⟩ := first
      have empty : p.values.isEmpty = q.values.isEmpty := by
        rw [Bool.eq_iff_iff, List.isEmpty_iff_length_eq_zero, List.isEmpty_iff_length_eq_zero,
          size]
      simp only [List.find?_cons, empty]
      cases q.values.isEmpty with
      | true => exact congrArg some column
      | false => exact ih

theorem check_eq (alike : r.Alike s) : r.check = s.check := by
  rw [Restriction.check, Restriction.check, alike.isEffective_eq, alike.emptyMembership?_eq]

theorem groups (alike : r.Alike s) : r.groups.Alike s.groups where
  filter := rel_bind alike.filter fun _ _ => Filter.Alike.fragment?
  memberships := rel_bind alike.memberships fun _ _ =>
    Chain.Alike.fragment? fun _ _ => Membership.Alike.fragment
  patterns := rel_bind alike.patterns fun _ _ =>
    Chain.Alike.fragment? fun _ _ => Pattern.Alike.fragment
  junction := alike.junction

end Restriction.Alike

/-! ## Statements -/

/-- A row is written alike whatever its entries. -/
theorem alike_rowFragment (columns : List String) (row other : Record) :
    (rowFragment columns row).Alike (rowFragment columns other) := by
  refine Fragment.Alike.text_cons (.append (Fragment.Alike.joined ", " ?_) (.refl _)) "("
  rw [List.forall₂_map_left_iff, List.forall₂_map_right_iff]
  exact List.forall₂_same.mpr fun column _ => .cons (.parameter column _ _) .nil

theorem Update.Alike.assignmentFragments {s t : Update} (alike : s.Alike t) :
    List.Forall₂ Fragment.Alike
      (s.assignments.entries.map fun entry => assignmentFragment entry.1 entry.2)
      (t.assignments.entries.map fun entry => assignmentFragment entry.1 entry.2) := by
  rw [List.forall₂_map_left_iff, List.forall₂_map_right_iff]
  refine (Record.entries_alike alike.assignments).imp fun entry entry' column => ?_
  rw [assignmentFragment, assignmentFragment, column]
  exact .cons (.identifier _) (.cons (.text _) (.cons (.parameter _ _ _) .nil))

/-- A bound is written alike whatever its count. -/
theorem alike_bound (keyword column : String) {bound other : Option Int64}
    (held : (bound.filter fun count => 0 ≤ count).isSome =
      (other.filter fun count => 0 ≤ count).isSome) :
    Option.Rel Fragment.Alike (boundFragment? keyword column bound)
      (boundFragment? keyword column other) := by
  rw [boundFragment?_eq_map, boundFragment?_eq_map]
  generalize bound.filter _ = count, other.filter _ = count' at held ⊢
  cases count with
  | none =>
      cases count' with
      | none => exact .none
      | some count' => cases held
  | some count =>
      cases count' with
      | none => cases held
      | some count' => exact .some (.cons (.text _) (.cons (.parameter _ _ _) .nil))

/-- A window is written alike if the same bounds hold. -/
theorem alike_window {window other : Option Window}
    (limit : (Window.bound Window.limit window).isSome =
      (Window.bound Window.limit other).isSome)
    (offset : (Window.bound Window.offset window).isSome =
      (Window.bound Window.offset other).isSome) :
    Option.Rel Fragment.Alike (window.bind Window.fragment?) (other.bind Window.fragment?) := by
  have opened : ∀ w : Option Window, w.bind Window.fragment? = (w.getD {}).fragment? ∧
      Window.bound Window.limit w = (w.getD {}).limit.filter (fun count => 0 ≤ count) ∧
      Window.bound Window.offset w = (w.getD {}).offset.filter (fun count => 0 ≤ count) := by
    intro w
    cases w <;> exact ⟨rfl, rfl, rfl⟩
  rw [(opened window).2.1, (opened other).2.1] at limit
  rw [(opened window).2.2, (opened other).2.2] at offset
  have bounds := rel_present (.cons (alike_bound "LIMIT " "limit" limit)
    (.cons (alike_bound "OFFSET " "offset" offset) .nil))
  rw [(opened window).1, (opened other).1, Window.fragment?, Window.fragment?]
  generalize [boundFragment? "LIMIT " "limit" (window.getD {}).limit,
      boundFragment? "OFFSET " "offset" (window.getD {}).offset].filterMap id = list,
    [boundFragment? "LIMIT " "limit" (other.getD {}).limit,
      boundFragment? "OFFSET " "offset" (other.getD {}).offset].filterMap id = list' at bounds ⊢
  cases bounds with
  | nil => exact .none
  | cons first later => exact .some (.joined " " (.cons first later))

theorem alike_optionalClause (opening : String) {clause other : Option Fragment}
    (alike : Option.Rel Fragment.Alike clause other) :
    (optionalClause opening clause).Alike (optionalClause opening other) := by
  cases alike with
  | none => exact .nil
  | some alike => exact alike.text_cons opening

/-- Clauses that are alike where they have parameters, and else the same. -/
inductive Clauses.Alike : Clauses Fragment → Clauses Fragment → Prop where
  | insert (columns : Fragment) {values values' : Fragment} (returning : Option Fragment)
      (alike : values.Alike values') :
      Alike (.insert columns values returning) (.insert columns values' returning)
  | select (columns : Fragment) {groups groups' : Groups Fragment} (order : Option Fragment)
      {window window' : Option Fragment} (conditions : groups.Alike groups')
      (bounds : Option.Rel Fragment.Alike window window') :
      Alike (.select columns groups order window) (.select columns groups' order window')
  | update {assignments assignments' : Fragment} {groups groups' : Groups Fragment}
      (returning : Option Fragment) (set : assignments.Alike assignments')
      (conditions : groups.Alike groups') :
      Alike (.update assignments groups returning) (.update assignments' groups' returning)
  | delete {groups groups' : Groups Fragment} (returning : Option Fragment)
      (conditions : groups.Alike groups') :
      Alike (.delete groups returning) (.delete groups' returning)

/-- Alike clauses make up alike statements. -/
theorem Clauses.Alike.statement {clauses others : Clauses Fragment} (alike : clauses.Alike others)
    (table : QualifiedName) : (clauses.statement table).Alike (others.statement table) := by
  cases alike with
  | insert columns returning values =>
      have body := (Fragment.Alike.refl (table.fragment ++ .text " " :: columns)).append
        (values.text_cons " VALUES ")
      exact ((body.append (.refl _)).append (.refl _)).text_cons "INSERT INTO "
  | select columns order conditions bounds =>
      have body := (Fragment.Alike.refl (columns ++ .text " FROM " :: table.fragment)).append
        conditions.condition
      exact (((body.append (.refl _)).append (alike_optionalClause " " bounds)).append
        (.refl _)).text_cons "SELECT "
  | update returning set conditions =>
      have body := ((Fragment.Alike.refl table.fragment).append (set.text_cons " SET ")).append
        conditions.condition
      exact ((body.append (.refl _)).append (.refl _)).text_cons "UPDATE "
  | delete returning conditions =>
      have body := (Fragment.Alike.refl table.fragment).append conditions.condition
      exact ((body.append (.refl _)).append (.refl _)).text_cons "DELETE FROM "

/-- Two descriptions are refused for the same reason, or have alike clauses. -/
inductive Clauses.AlikeResult :
    Except Violation (Clauses Fragment) → Except Violation (Clauses Fragment) → Prop where
  | refused (violation : Violation) : AlikeResult (.error violation) (.error violation)
  | written {clauses others : Clauses Fragment} (alike : clauses.Alike others) :
      AlikeResult (.ok clauses) (.ok others)

open Clauses (AlikeResult)

theorem Insert.Alike.clauses {s t : Insert} (alike : s.Alike t) :
    AlikeResult s.clauses t.clauses := by
  have empty : s.rows.isEmpty = t.rows.isEmpty := by
    rw [Bool.eq_iff_iff, List.isEmpty_iff_length_eq_zero, List.isEmpty_iff_length_eq_zero,
      alike.rows]
  have rows : List.Forall₂ Fragment.Alike (s.rows.map (rowFragment t.columns))
      (t.rows.map (rowFragment t.columns)) := by
    rw [List.forall₂_map_left_iff, List.forall₂_map_right_iff]
    exact List.forall₂_iff_get.mpr ⟨alike.rows, fun _ _ _ => alike_rowFragment _ _ _⟩
  rw [Insert.clauses, Insert.clauses, alike.columns, alike.returning, empty]
  split
  · exact .refused _
  split
  · exact .refused _
  cases returningClause t.returning with
  | error violation => exact .refused violation
  | ok returning => exact .written (.insert _ returning (.joined ", " rows))

theorem Select.Alike.clauses {s t : Select} (alike : s.Alike t) :
    AlikeResult s.clauses t.clauses := by
  rw [Select.clauses, Select.clauses, alike.columns, alike.order,
    alike.restriction.emptyMembership?_eq]
  split
  · exact .refused _
  cases t.restriction.emptyMembership? with
  | some column => exact .refused _
  | none =>
      exact .written (.select _ _ alike.restriction.groups
        (alike_window alike.limit alike.offset))

theorem Update.Alike.clauses {s t : Update} (alike : s.Alike t) :
    AlikeResult s.clauses t.clauses := by
  rw [Update.clauses, Update.clauses, Record.isEmpty_eq_of_columns_eq alike.assignments,
    alike.restriction.check_eq, alike.returning]
  split
  · exact .refused _
  cases t.restriction.check with
  | error violation => exact .refused violation
  | ok checked =>
      cases returningClause t.returning with
      | error violation => exact .refused violation
      | ok returning =>
          exact .written (.update returning (.joined ", " alike.assignmentFragments)
            alike.restriction.groups)

theorem Delete.Alike.clauses {s t : Delete} (alike : s.Alike t) :
    AlikeResult s.clauses t.clauses := by
  rw [Delete.clauses, Delete.clauses, alike.restriction.check_eq, alike.returning]
  cases t.restriction.check with
  | error violation => exact .refused violation
  | ok checked =>
      cases returningClause t.returning with
      | error violation => exact .refused violation
      | ok returning => exact .written (.delete returning alike.restriction.groups)

theorem Statement.Alike.clauses {s t : Statement} (alike : s.Alike t) :
    AlikeResult s.clauses t.clauses := by
  cases alike with
  | insert alike => exact alike.clauses
  | select alike => exact alike.clauses
  | update alike => exact alike.clauses
  | delete alike => exact alike.clauses

/-- Alike statements about one table are refused for the same reason or compiled
to the same text in every dialect. -/
theorem Statement.compile_independent {s t : Statement} (alike : s.Alike t)
    (dialect : Dialect) (table : QualifiedName) :
    (s.compile dialect table).map Command.sql = (t.compile dialect table).map Command.sql := by
  have result := alike.clauses
  rw [Statement.compile_eq, Statement.compile_eq]
  generalize s.clauses = clauses, t.clauses = others at result ⊢
  cases result with
  | refused violation => rfl
  | written alike =>
      exact congrArg Except.ok ((alike.statement table).textAt_eq dialect dialect.startIndex)

/-- A search with all kinds of parameters but a pattern. -/
def Select.sample (a b c : Value) (window : Window) : Select where
  columns := ["*"]
  restriction :=
    { filter := some (.matching (Record.ofList [("a", a), ("b", b)]) .less .or)
      memberships := some [.connective .not, .predicate ⟨"c", .isIn, [c, a]⟩, .connective .and] }
  window := some window

/-- Two searches for different values, one of them with a quotation mark and a
comment, have one text.  An offset that is negative is like none. -/
theorem Statement.compile_independent_sample :
    (Statement.select (.sample (.int 1) .null (.bool true) ⟨some 3, some (-1)⟩)).Alike
        (.select (.sample (.text "'; --") (.int 2) .null ⟨some 0, none⟩)) ∧
      ((Statement.select (.sample (.int 1) .null (.bool true) ⟨some 3, some (-1)⟩)).compile
        .postgres ⟨"s", "t"⟩).map Command.sql =
        .ok ("SELECT * FROM \"s\".\"t\" WHERE \"a\"<$1 OR \"b\"<$2 AND " ++
          "NOT \"c\" IN ($3, $4) LIMIT $5;") ∧
      ((Statement.select (.sample (.text "'; --") (.int 2) .null ⟨some 0, none⟩)).compile
        .postgres ⟨"s", "t"⟩).map Command.sql =
        .ok ("SELECT * FROM \"s\".\"t\" WHERE \"a\"<$1 OR \"b\"<$2 AND " ++
          "NOT \"c\" IN ($3, $4) LIMIT $5;") := by
  have alike : (Statement.select (.sample (.int 1) .null (.bool true) ⟨some 3, some (-1)⟩)).Alike
      (.select (.sample (.text "'; --") (.int 2) .null ⟨some 0, none⟩)) :=
    .select {
      columns := rfl
      restriction := {
        filter := .some (.matching .less .or rfl)
        memberships := .some <|
          .cons (.connective .not) (.cons (.predicate ⟨rfl, rfl, rfl⟩)
            (.cons (.connective .and) .nil))
        patterns := .none
        junction := rfl }
      order := rfl
      limit := by decide
      offset := by decide }
  exact ⟨alike, rfl, (Statement.compile_independent alike .postgres ⟨"s", "t"⟩).symm.trans rfl⟩

end ParamSql

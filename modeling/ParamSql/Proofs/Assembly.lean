import ParamSql.Command

/-!
# Writing a statement clause by clause

The clauses of a statement are written by one cursor, one after the other, and
the texts are then put together around the name of the table.  The order in
which the cursor takes the clauses is fixed in one place and the order in which
the texts stand in the statement in another.

This file shows that the two orders agree: assembling the written clauses gives
the text that one cursor would write for the whole statement, and the values
kept on the way are those of the whole statement.
-/

namespace ParamSql

/-! ## Where a cursor stands behind a fragment -/

namespace Fragment

/-- The text of a fragment whose first placeholder has a given index. -/
def textAt (dialect : Dialect) (index : Nat) : Fragment → String
  | [] => ""
  | .text text :: rest => text ++ textAt dialect index rest
  | .identifier name :: rest => dialect.quote name ++ textAt dialect index rest
  | .parameter column _ :: rest =>
      dialect.placeholder index column ++ textAt dialect (index + 1) rest

@[simp]
theorem textAt_nil (dialect : Dialect) (index : Nat) : textAt dialect index [] = "" :=
  rfl

@[simp]
theorem textAt_text_cons (dialect : Dialect) (index : Nat) (text : String)
    (rest : Fragment) :
    textAt dialect index (.text text :: rest) = text ++ textAt dialect index rest :=
  rfl

@[simp]
theorem textAt_identifier_cons (dialect : Dialect) (index : Nat) (name : String)
    (rest : Fragment) :
    textAt dialect index (.identifier name :: rest) =
      dialect.quote name ++ textAt dialect index rest :=
  rfl

@[simp]
theorem textAt_parameter_cons (dialect : Dialect) (index : Nat) (column : String)
    (value : Value) (rest : Fragment) :
    textAt dialect index (.parameter column value :: rest) =
      dialect.placeholder index column ++ textAt dialect (index + 1) rest :=
  rfl

/-- The placeholders of a second fragment go on where those of the first end. -/
theorem textAt_append (dialect : Dialect) (index : Nat) (first second : Fragment) :
    textAt dialect index (first ++ second) =
      textAt dialect index first ++
        textAt dialect (index + first.bindings.length) second := by
  induction first generalizing index with
  | nil => simp [bindings]
  | cons piece rest ih =>
      cases piece with
      | text text => simp [bindings, ih, String.append_assoc]
      | identifier name => simp [bindings, ih, String.append_assoc]
      | parameter column value =>
          simp only [List.cons_append, textAt_parameter_cons, ih, bindings,
            List.length_cons, String.append_assoc]
          rw [Nat.add_right_comm index 1, Nat.add_assoc]

/-- The parameters of a clause that may be absent. -/
def bindings? (clause : Option Fragment) : List (String × Value) :=
  clause.elim [] bindings

end Fragment

namespace Cursor

/-- A cursor that has gone past these parameters. -/
def past (cursor : Cursor) (bindings : List (String × Value)) : Cursor where
  dialect := cursor.dialect
  next := cursor.next + bindings.length
  params := cursor.params ++ (bindings.map Prod.snd).toArray

@[simp]
theorem past_nil (cursor : Cursor) : cursor.past [] = cursor := by
  simp [past]

@[simp]
theorem past_append (cursor : Cursor) (first second : List (String × Value)) :
    cursor.past (first ++ second) = (cursor.past first).past second := by
  simp [past, Nat.add_assoc]

@[simp]
theorem dialect_past (cursor : Cursor) (bindings : List (String × Value)) :
    (cursor.past bindings).dialect = cursor.dialect :=
  rfl

@[simp]
theorem next_past (cursor : Cursor) (bindings : List (String × Value)) :
    (cursor.past bindings).next = cursor.next + bindings.length :=
  rfl

/-- Writing a fragment adds its text, numbered from where the cursor stands,
and takes the cursor past the parameters of the fragment. -/
theorem write_eq (cursor : Cursor) (out : String) (fragment : Fragment) :
    cursor.write out fragment =
      (out ++ fragment.textAt cursor.dialect cursor.next, cursor.past fragment.bindings) := by
  induction fragment generalizing cursor out with
  | nil => simp [write, Fragment.bindings]
  | cons piece rest ih =>
      cases piece with
      | text text => simp [write, ih, Fragment.bindings, String.append_assoc]
      | identifier name => simp [write, ih, Fragment.bindings, String.append_assoc]
      | parameter column value =>
          simp [write, bind, ih, Fragment.bindings, past, String.append_assoc,
            Nat.add_assoc, Nat.add_comm 1]

end Cursor

/-- The text of a fragment as a statement of its own, and its values. -/
theorem Fragment.render_eq (dialect : Dialect) (fragment : Fragment) :
    fragment.render dialect =
      (fragment.textAt dialect dialect.startIndex, fragment.bindings.map Prod.snd) := by
  simp [Fragment.render, Cursor.write_eq, Cursor.past, Cursor.start]

/-! ## Clauses written one after the other -/

open Fragment (bindings?)

/-- Write one clause by itself. -/
def Cursor.writing (fragment : Fragment) : StateM Cursor String :=
  fun cursor => cursor.write "" fragment

theorem Cursor.writing_eq (fragment : Fragment) (cursor : Cursor) :
    Cursor.writing fragment cursor =
      (fragment.textAt cursor.dialect cursor.next, cursor.past fragment.bindings) := by
  rw [Cursor.writing, Cursor.write_eq, String.empty_append]

private theorem pure_apply {α : Type} (a : α) (cursor : Cursor) :
    (pure a : StateM Cursor α) cursor = (a, cursor) :=
  rfl

private theorem bind_apply {α β : Type} (first : StateM Cursor α) (next : α → StateM Cursor β)
    (cursor : Cursor) : (first >>= next) cursor = next (first cursor).1 (first cursor).2 :=
  rfl

theorem onClause_writing (clause : Option Fragment) (cursor : Cursor) :
    onClause Cursor.writing clause cursor =
      (clause.map (Fragment.textAt cursor.dialect cursor.next),
        cursor.past (bindings? clause)) := by
  cases clause with
  | none => rw [bindings?, Option.elim, Cursor.past_nil]; rfl
  | some fragment =>
      change (some (Cursor.writing fragment cursor).1, (Cursor.writing fragment cursor).2) = _
      rw [Cursor.writing_eq]
      rfl

namespace Groups

/-- The parameters of the groups that are there, from left to right. -/
def bindings (groups : Groups Fragment) : List (String × Value) :=
  bindings? groups.filter ++ bindings? groups.memberships ++ bindings? groups.patterns

/-- The groups as texts, each numbered from where the one before it ends. -/
def textsAt (dialect : Dialect) (index : Nat) (groups : Groups Fragment) : Groups String where
  filter := groups.filter.map (Fragment.textAt dialect index)
  memberships :=
    groups.memberships.map (Fragment.textAt dialect (index + (bindings? groups.filter).length))
  patterns :=
    groups.patterns.map (Fragment.textAt dialect
      (index + (bindings? groups.filter ++ bindings? groups.memberships).length))
  junction := groups.junction

theorem mapM_writing (groups : Groups Fragment) (cursor : Cursor) :
    groups.mapM Cursor.writing cursor =
      (groups.textsAt cursor.dialect cursor.next, cursor.past groups.bindings) := by
  simp only [Groups.mapM, bind_apply, pure_apply, onClause_writing, Cursor.dialect_past,
    Cursor.next_past, ← Cursor.past_append]
  rfl

end Groups

namespace Clauses

/-- The parameters of the clauses, in the order in which they are written. -/
def bindings : Clauses Fragment → List (String × Value)
  | .insert columns values returning =>
      columns.bindings ++ values.bindings ++ bindings? returning
  | .select columns groups order window =>
      columns.bindings ++ groups.bindings ++ bindings? order ++ bindings? window
  | .update assignments groups returning =>
      assignments.bindings ++ groups.bindings ++ bindings? returning
  | .delete groups returning => groups.bindings ++ bindings? returning

/-- The clauses as texts, each numbered from where the one before it ends. -/
def textsAt (dialect : Dialect) (index : Nat) : Clauses Fragment → Clauses String
  | .insert columns values returning =>
      .insert (columns.textAt dialect index)
        (values.textAt dialect (index + columns.bindings.length))
        (returning.map (Fragment.textAt dialect
          (index + (columns.bindings ++ values.bindings).length)))
  | .select columns groups order window =>
      .select (columns.textAt dialect index)
        (groups.textsAt dialect (index + columns.bindings.length))
        (order.map (Fragment.textAt dialect
          (index + (columns.bindings ++ groups.bindings).length)))
        (window.map (Fragment.textAt dialect
          (index + (columns.bindings ++ groups.bindings ++ bindings? order).length)))
  | .update assignments groups returning =>
      .update (assignments.textAt dialect index)
        (groups.textsAt dialect (index + assignments.bindings.length))
        (returning.map (Fragment.textAt dialect
          (index + (assignments.bindings ++ groups.bindings).length)))
  | .delete groups returning =>
      .delete (groups.textsAt dialect index)
        (returning.map (Fragment.textAt dialect (index + groups.bindings.length)))

theorem mapM_writing (clauses : Clauses Fragment) (cursor : Cursor) :
    clauses.mapM Cursor.writing cursor =
      (clauses.textsAt cursor.dialect cursor.next, cursor.past clauses.bindings) := by
  cases clauses <;>
    simp only [Clauses.mapM, bind_apply, pure_apply, Cursor.writing_eq, Groups.mapM_writing,
      onClause_writing, Cursor.dialect_past, Cursor.next_past, ← Cursor.past_append] <;>
    rfl

/-- Writing the clauses numbers them without gaps and keeps their values in
order. -/
theorem render_eq (dialect : Dialect) (clauses : Clauses Fragment) :
    clauses.render dialect =
      (clauses.textsAt dialect dialect.startIndex, clauses.bindings.map Prod.snd) := by
  change (let written := clauses.mapM Cursor.writing (Cursor.start dialect)
    (written.1, written.2.params.toList)) = _
  rw [mapM_writing]
  simp [Cursor.start, Cursor.past]

end Clauses

/-! ## Putting written clauses together -/

/-- A clause that was written before, as a fragment. -/
def writtenClause (clause : Option String) : Option Fragment :=
  clause.map fun text => [.text text]

/-- Groups that were written before, as fragments. -/
def Groups.written (groups : Groups String) : Groups Fragment where
  filter := writtenClause groups.filter
  memberships := writtenClause groups.memberships
  patterns := writtenClause groups.patterns
  junction := groups.junction

private theorem onClause_written (clause : Option String) :
    onClause (m := Id) (fun text => [Piece.text text]) clause = writtenClause clause := by
  cases clause <;> rfl

/-- Clauses that were written before have no parameters left. -/
theorem Clauses.ofTexts_eq (clauses : Clauses String) :
    clauses.ofTexts =
      match clauses with
      | .insert columns values returning =>
          .insert [.text columns] [.text values] (writtenClause returning)
      | .select columns groups order window =>
          .select [.text columns] groups.written (writtenClause order) (writtenClause window)
      | .update assignments groups returning =>
          .update [.text assignments] groups.written (writtenClause returning)
      | .delete groups returning => .delete groups.written (writtenClause returning) := by
  cases clauses <;>
    simp only [Clauses.ofTexts, Clauses.mapM, Groups.mapM, onClause_written] <;>
    rfl

section Statement

variable (dialect : Dialect) (start index : Nat)

theorem textAt_optionalClause_written (opening : String) (clause : Option Fragment) :
    (optionalClause opening
        (writtenClause (clause.map (Fragment.textAt dialect index)))).textAt dialect start =
      (optionalClause opening clause).textAt dialect index := by
  cases clause <;> simp [optionalClause, writtenClause]

theorem bindings_optionalClause (opening : String) (clause : Option Fragment) :
    (optionalClause opening clause).bindings = bindings? clause := by
  cases clause <;> rfl

theorem textAt_condition_written (groups : Groups Fragment) :
    (groups.textsAt dialect index).written.condition.textAt dialect start =
      groups.condition.textAt dialect index := by
  rcases groups with ⟨filter, memberships, patterns, junction⟩
  cases filter <;> cases memberships <;> cases patterns <;>
    simp [Groups.condition, Groups.textsAt, Groups.written, writtenClause, Groups.present,
      Fragment.joined, Fragment.textAt_append, bindings?, String.append_assoc, Nat.add_assoc]

theorem bindings_condition (groups : Groups Fragment) :
    groups.condition.bindings = groups.bindings := by
  rcases groups with ⟨filter, memberships, patterns, junction⟩
  cases filter <;> cases memberships <;> cases patterns <;>
    simp [Groups.condition, Groups.bindings, Groups.present, Fragment.joined, bindings?,
      Fragment.bindings]

/-- The parameters of a whole statement are those of its clauses, in the order
in which the clauses are written. -/
theorem Clauses.bindings_statement (name : QualifiedName) (clauses : Clauses Fragment) :
    (clauses.statement name).bindings = clauses.bindings := by
  cases clauses <;>
    simp [Clauses.statement, Clauses.bindings, Fragment.bindings, QualifiedName.fragment,
      bindings_condition, bindings_optionalClause]

/-- Written clauses, put together, read like the whole statement written at
once. -/
theorem Clauses.textAt_statement_written (name : QualifiedName) (clauses : Clauses Fragment) :
    ((clauses.textsAt dialect index).ofTexts.statement name).textAt dialect start =
      (clauses.statement name).textAt dialect index := by
  rw [Clauses.ofTexts_eq]
  cases clauses <;>
    simp [Clauses.textsAt, Clauses.statement, Fragment.textAt_append,
      QualifiedName.fragment, textAt_condition_written, textAt_optionalClause_written,
      bindings_condition, bindings_optionalClause, Nat.add_assoc]

end Statement

/-- Compiling writes the whole statement with placeholders from the first index
on and keeps the values of its parameters in order. -/
theorem Statement.compile_eq (dialect : Dialect) (name : QualifiedName)
    (statement : Statement) :
    statement.compile dialect name =
      statement.clauses.map fun clauses =>
        { verb := statement.verb
          sql := (clauses.statement name).textAt dialect dialect.startIndex
          params := (clauses.statement name).bindings.map Prod.snd } := by
  simp only [Statement.compile, Clauses.render_eq, Clauses.assemble, Fragment.render_eq,
    Clauses.textAt_statement_written, Clauses.bindings_statement]

end ParamSql

import Mathlib.Data.List.Basic
import Mathlib.Data.List.Induction
import ParamSql.Table

/-!
# Later edits take precedence

An edit writes some of the parts of a query.  What one edit after the other
writes adds up: in every part the last content counts, except that rows are
kept in the order in which they were added.  Making edits one after the other
is the same as putting down what they add up to.

So edits that write different parts may change places, and a window overrides
every bound that was written before it.  A limit and an offset are parts of
their own here, although a query keeps both in one window.
-/

namespace ParamSql

/-! ## What an edit writes -/

/-- The parts of a query that are written by edits. -/
inductive Part where
  | schema
  | diagnostics
  | filter
  | memberships
  | patterns
  | junction
  | returning
  | rows
  | order
  | limit
  | offset
  deriving DecidableEq

namespace Part

/-- What is written in a part; for a bound, this may be that there is none. -/
abbrev Content : Part → Type
  | .schema => String
  | .diagnostics => Diagnostics
  | .filter => Filter
  | .memberships => Chain Membership
  | .patterns => Chain Pattern
  | .junction => Junction
  | .returning => Returning
  | .rows => List Record
  | .order => SortKey
  | .limit => Option Int64
  | .offset => Option Int64

/-- What a part holds after it was written twice. -/
def combine : (part : Part) → part.Content → part.Content → part.Content
  | .rows, earlier, later => earlier ++ later
  | _, _, later => later

end Part

/-- What is put down in each part, if anything is. -/
abbrev Writing := (part : Part) → Option part.Content

/-- One writing after the other. -/
def Writing.andThen (earlier later : Writing) : Writing :=
  fun part => Option.merge part.combine (earlier part) (later part)

/-- Where nothing is added up, the later content replaces the earlier one. -/
theorem Writing.andThen_eq_or (earlier later : Writing) {part : Part} (replaced : part ≠ .rows) :
    earlier.andThen later part = (later part).or (earlier part) := by
  have right : part.combine = fun _ content => content := by
    cases part with
    | rows => exact absurd rfl replaced
    | _ => rfl
  rw [Writing.andThen]
  cases earlier part <;> cases later part <;> simp [right]

namespace Edit

/-- What an edit writes in a part, if it writes that part.  A window writes
both bounds, also those that it lacks. -/
def content? : Edit → (part : Part) → Option part.Content
  | .schema content, .schema => some content
  | .diagnostics content, .diagnostics => some content
  | .filter content, .filter => some content
  | .memberships content, .memberships => some content
  | .patterns content, .patterns => some content
  | .junction content, .junction => some content
  | .returning content, .returning => some content
  | .rows content, .rows => some content
  | .order content, .order => some content
  | .window bounds, .limit => some bounds.limit
  | .window bounds, .offset => some bounds.offset
  | .limit count, .limit => some (some count)
  | .offset count, .offset => some (some count)
  | _, _ => none

/-- Two edits that write no part in common. -/
def Apart (a b : Edit) : Prop :=
  ∀ part, a.content? part = none ∨ b.content? part = none

/-- What was written last in a part. -/
def last? (part : Part) (list : List Edit) : Option part.Content :=
  (list.filterMap fun edit => edit.content? part).getLast?

/-- All rows, in the order in which they were added. -/
def allRows (list : List Edit) : List Record :=
  (list.filterMap fun edit => edit.content? .rows).flatten

/-- Whether an edit writes a limit or an offset. -/
def writesBound (edit : Edit) : Bool :=
  (edit.content? .limit).isSome || (edit.content? .offset).isSome

/-- What edits write, one after the other. -/
def written (list : List Edit) : Writing :=
  list.foldl (fun earlier edit => earlier.andThen edit.content?) fun _ => none

theorem written_concat (list : List Edit) (edit : Edit) :
    written (list ++ [edit]) = (written list).andThen edit.content? :=
  List.foldl_concat _ _ _ _

/-- In a part where nothing is added up, what edits write is what was written
last. -/
theorem written_eq_last? {part : Part} (replaced : part ≠ .rows) (list : List Edit) :
    written list part = last? part list := by
  induction list using List.reverseRecOn with
  | nil => rfl
  | append_singleton list edit ih =>
      rw [written_concat, Writing.andThen_eq_or _ _ replaced, ih, last?, last?,
        List.filterMap_append]
      cases written : edit.content? part with
      | none => simp [written]
      | some content => simp [written]

/-- The rows that edits write come behind those that were there. -/
theorem append_allRows (rows : List Record) (list : List Edit) :
    (written list .rows).elim rows (rows ++ ·) = rows ++ allRows list := by
  induction list using List.reverseRecOn with
  | nil => exact (List.append_nil rows).symm
  | append_singleton list edit ih =>
      have more : allRows (list ++ [edit]) = allRows list ++ (edit.content? .rows).getD [] := by
        rw [allRows, List.filterMap_append, List.flatten_append, ← allRows]
        cases added : edit.content? .rows with
        | none => simp [added]
        | some content => simp [added]
      rw [more, ← List.append_assoc, ← ih, written_concat, Writing.andThen]
      cases written list .rows <;> cases edit.content? .rows <;> simp [Part.combine]

/-- Edits that write different parts write the same in either order. -/
theorem Apart.andThen_comm {a b : Edit} (apart : Apart a b) :
    Writing.andThen a.content? b.content? = Writing.andThen b.content? a.content? := by
  funext part
  rw [Writing.andThen, Writing.andThen]
  rcases apart part with absent | absent
  · rw [absent, Option.merge_none_left, Option.merge_none_right]
  · rw [absent, Option.merge_none_left, Option.merge_none_right]

/-- An edit without a bound writes other parts than a window does. -/
theorem apart_window {edit : Edit} (unbounded : edit.writesBound = false) (bounds : Window) :
    Apart edit (.window bounds) := by
  rw [writesBound, Bool.or_eq_false_iff, Option.isSome_eq_false_iff, Option.isSome_eq_false_iff,
    Option.isNone_iff_eq_none, Option.isNone_iff_eq_none] at unbounded
  intro part
  cases part with
  | limit => exact .inl unbounded.1
  | offset => exact .inl unbounded.2
  | _ => exact .inr rfl

/-- A window writes all that an edit of a bound writes. -/
theorem andThen_window {edit : Edit} (bounded : edit.writesBound = true) (bounds : Window) :
    Writing.andThen edit.content? (content? (.window bounds)) = content? (.window bounds) := by
  funext part
  cases edit with
  | window | limit | offset => cases part <;> rfl
  | _ => exact absurd bounded Bool.false_ne_true

end Edit

/-! ## Putting it down -/

/-- A window in which the bounds that are written replace those that are there.
Where there is no window, there is one as soon as a bound is written. -/
def Window.put (writing : Writing) (window : Option Window) : Option Window :=
  match writing .limit, writing .offset with
  | none, none => window
  | limit, offset =>
      some ⟨limit.getD (window.getD {}).limit, offset.getD (window.getD {}).offset⟩

/-- A restriction in which the groups that are written replace those that are
there. -/
def Restriction.put (writing : Writing) (restriction : Restriction) : Restriction where
  filter := (writing .filter).or restriction.filter
  memberships := (writing .memberships).or restriction.memberships
  patterns := (writing .patterns).or restriction.patterns
  junction := (writing .junction).getD restriction.junction

/-- A statement with what is written in the parts that it has. -/
def Statement.put (writing : Writing) : Statement → Statement
  | insert s => .insert { s with
      rows := (writing .rows).elim s.rows (s.rows ++ ·)
      returning := (writing .returning).or s.returning }
  | select s => .select { s with
      restriction := s.restriction.put writing
      order := (writing .order).or s.order
      window := Window.put writing s.window }
  | update s => .update { s with
      restriction := s.restriction.put writing
      returning := (writing .returning).or s.returning }
  | delete s => .delete { s with
      restriction := s.restriction.put writing
      returning := (writing .returning).or s.returning }

theorem Window.put_andThen (earlier later : Writing) (window : Option Window) :
    Window.put (earlier.andThen later) window = Window.put later (Window.put earlier window) := by
  simp (disch := decide) only [Window.put, Writing.andThen_eq_or]
  cases later .limit <;> cases later .offset <;> cases earlier .limit <;> cases earlier .offset <;>
    rfl

theorem Restriction.put_andThen (earlier later : Writing) (restriction : Restriction) :
    restriction.put (earlier.andThen later) = (restriction.put earlier).put later := by
  simp (disch := decide) only [Restriction.put, Writing.andThen_eq_or, Option.or_assoc,
    Option.getD_or]

/-- Putting down two writings one after the other is putting down what they add
up to. -/
theorem Statement.put_andThen (earlier later : Writing) (statement : Statement) :
    statement.put (earlier.andThen later) = (statement.put earlier).put later := by
  cases statement with
  | insert s =>
      have rows : (earlier.andThen later .rows).elim s.rows (s.rows ++ ·) =
          (later .rows).elim ((earlier .rows).elim s.rows (s.rows ++ ·))
            ((earlier .rows).elim s.rows (s.rows ++ ·) ++ ·) := by
        rw [Writing.andThen]
        cases earlier .rows <;> cases later .rows <;> simp [Part.combine]
      simp (disch := decide) only [Statement.put, rows, Writing.andThen_eq_or, Option.or_assoc]
  | select s | update s | delete s =>
      simp (disch := decide) only [Statement.put, Restriction.put_andThen, Window.put_andThen,
        Writing.andThen_eq_or, Option.or_assoc]

namespace Query

/-- A query with what is written in the parts that it has. -/
def put (writing : Writing) (query : Query) : Query where
  statement := query.statement.put writing
  schema := (writing .schema).or query.schema
  diagnostics := (writing .diagnostics).or query.diagnostics

theorem put_andThen (earlier later : Writing) (query : Query) :
    query.put (earlier.andThen later) = (query.put earlier).put later := by
  simp (disch := decide) only [put, Statement.put_andThen, Writing.andThen_eq_or, Option.or_assoc]

/-- An edit puts down what it writes, and nothing else. -/
theorem edit_eq_put (query : Query) (edit : Edit) : query.edit edit = query.put edit.content? := by
  obtain ⟨statement, schema, diagnostics⟩ := query
  cases statement with
  | insert s => cases edit <;> rfl
  | select s => cases edit <;> rfl
  | update s => cases edit <;> rfl
  | delete s => cases edit <;> rfl

theorem edits_append (query : Query) (before after : List Edit) :
    query.edits (before ++ after) = (query.edits before).edits after :=
  List.foldl_append

theorem edits_concat (query : Query) (list : List Edit) (edit : Edit) :
    query.edits (list ++ [edit]) = (query.edits list).edit edit :=
  List.foldl_concat _ _ _ _

/-- Edits put down what they write, one after the other. -/
theorem edits_eq_put (query : Query) (list : List Edit) :
    query.edits list = query.put (Edit.written list) := by
  induction list using List.reverseRecOn with
  | nil =>
      obtain ⟨statement, schema, diagnostics⟩ := query
      cases statement <;> rfl
  | append_singleton list edit ih =>
      rw [edits_concat, ih, edit_eq_put, ← put_andThen, Edit.written_concat]

/-- Edits that write different parts may change places. -/
theorem edit_comm (query : Query) {a b : Edit} (apart : a.Apart b) :
    (query.edit a).edit b = (query.edit b).edit a := by
  rw [edit_eq_put, edit_eq_put, ← put_andThen, apart.andThen_comm, put_andThen, ← edit_eq_put,
    ← edit_eq_put]

/-- A window overrides all bounds that were written before it. -/
theorem edits_window (query : Query) (before : List Edit) (bounds : Window) :
    (query.edits before).edit (.window bounds) =
      (query.edits (before.filter fun edit => !edit.writesBound)).edit (.window bounds) := by
  induction before using List.reverseRecOn with
  | nil => rfl
  | append_singleton before edit ih =>
      rw [edits_concat, List.filter_append]
      cases bounded : edit.writesBound with
      | true =>
          -- The edit writes nothing that the window does not write again.
          rw [edit_eq_put _ (.window bounds), edit_eq_put _ edit, ← put_andThen,
            Edit.andThen_window bounded, ← edit_eq_put, ih]
          simp [bounded]
      | false =>
          -- The window goes past the edit, past which it comes back.
          have apart := Edit.apart_window bounded bounds
          rw [edit_comm _ apart, ih, ← edit_comm _ apart, ← edits_concat]
          simp [bounded]

end Query

/-! ## What edits of a fresh query result in -/

/-- The groups that were written last, and what was written last to stand
between them. -/
def Restriction.ofLast (list : List Edit) : Restriction where
  filter := Edit.last? .filter list
  memberships := Edit.last? .memberships list
  patterns := Edit.last? .patterns list
  junction := (Edit.last? .junction list).getD .and

/-- The bounds that were written last, if any were. -/
def Window.ofLast (list : List Edit) : Option Window :=
  match Edit.last? .limit list, Edit.last? .offset list with
  | none, none => none
  | limit, offset => some ⟨limit.getD none, offset.getD none⟩

/-- A statement with the schema and the diagnostics that were written last. -/
def Query.ofLast (statement : Statement) (list : List Edit) : Query where
  statement
  schema := Edit.last? .schema list
  diagnostics := Edit.last? .diagnostics list

theorem Restriction.put_written (list : List Edit) :
    Restriction.put (Edit.written list) {} = .ofLast list := by
  simp (disch := decide) only [Restriction.put, Restriction.ofLast, Edit.written_eq_last?,
    Option.or_none]

theorem Window.put_written (list : List Edit) :
    Window.put (Edit.written list) none = Window.ofLast list := by
  simp (disch := decide) only [Window.put, Window.ofLast, Edit.written_eq_last?]
  rfl

/-- A fresh query has the schema and the diagnostics that were written last, and
its statement what was written in the parts that it has. -/
theorem Query.edits_fresh (statement : Statement) (list : List Edit) :
    Query.edits { statement } list = .ofLast (statement.put (Edit.written list)) list := by
  rw [Query.edits_eq_put, Query.put, Query.ofLast]
  simp (disch := decide) only [Edit.written_eq_last?, Option.or_none]

/-- Whatever edits are made of a fresh query, every part of it is what was
written last: the groups of its restriction and what stands between them, what
is returned, the schema, the diagnostics, the order, and each bound of the
window, which a window writes like a limit or an offset does; the rows are all
that were added, in order.  So neighbouring edits that write different parts
may change places without an effect on the query, the command or the error that
compiling gives, and a window overrides every limit and offset before it. -/
theorem Query.edits_precedence (list : List Edit) :
    (∀ columns, Query.edits { statement := .insert { columns } } list =
      .ofLast (.insert {
        columns
        rows := Edit.allRows list
        returning := Edit.last? .returning list }) list) ∧
      (∀ columns, Query.edits { statement := .select { columns } } list =
        .ofLast (.select {
          columns
          restriction := .ofLast list
          order := Edit.last? .order list
          window := Window.ofLast list }) list) ∧
      (∀ assignments, Query.edits { statement := .update { assignments } } list =
        .ofLast (.update {
          assignments
          restriction := .ofLast list
          returning := Edit.last? .returning list }) list) ∧
      Query.edits { statement := .delete {} } list =
        .ofLast (.delete {
          restriction := .ofLast list
          returning := Edit.last? .returning list }) list ∧
      (∀ (query : Query) (a b : Edit) after, a.Apart b →
        query.edits (list ++ a :: b :: after) = query.edits (list ++ b :: a :: after) ∧
          ∀ (table : Table) elapsed,
            table.compile elapsed (query.edits (list ++ a :: b :: after)) =
              table.compile elapsed (query.edits (list ++ b :: a :: after))) ∧
      ∀ (query : Query) (bounds : Window) after,
        query.edits (list ++ .window bounds :: after) =
          query.edits ((list.filter fun edit => !edit.writesBound) ++ .window bounds :: after) := by
  refine ⟨?_, ?_, ?_, ?_, ?_, ?_⟩
  · intro columns
    rw [Query.edits_fresh, Statement.put, Edit.append_allRows, List.nil_append]
    simp (disch := decide) only [Edit.written_eq_last?, Option.or_none]
  · intro columns
    rw [Query.edits_fresh, Statement.put]
    simp (disch := decide) only [Restriction.put_written, Window.put_written,
      Edit.written_eq_last?, Option.or_none]
  · intro assignments
    rw [Query.edits_fresh, Statement.put]
    simp (disch := decide) only [Restriction.put_written, Edit.written_eq_last?, Option.or_none]
  · rw [Query.edits_fresh, Statement.put]
    simp (disch := decide) only [Restriction.put_written, Edit.written_eq_last?, Option.or_none]
  · intro query a b after apart
    have same : query.edits (list ++ a :: b :: after) = query.edits (list ++ b :: a :: after) := by
      rw [Query.edits_append, Query.edits_append]
      exact congrArg (Query.edits · after) (Query.edit_comm (query.edits list) apart)
    exact ⟨same, fun table elapsed => congrArg (table.compile elapsed) same⟩
  · intro query bounds after
    rw [Query.edits_append, Query.edits_append]
    exact congrArg (Query.edits · after) (Query.edits_window query list bounds)

/-- Two groups of comparisons, two rows, and a limit on either side of a
window. -/
def Edit.repeated (record : Record) : List Edit :=
  [.limit 5, .matching record, .window ⟨none, some 3⟩, .row record, .limit 7, .comparing [],
    .row .empty]

/-- The later limit is left beside the offset of the window, and nothing of
them behind another window. -/
theorem Query.edits_precedence_sample :
    let list := Edit.repeated (.ofList [("a", .int 1)])
    let fresh : Query := { statement := .select { columns := ["*"] } }
    fresh.edits list =
        { statement := .select {
            columns := ["*"]
            restriction := { filter := some (.chain []) }
            window := some ⟨some 7, some 3⟩ } } ∧
      Query.edits { statement := .insert { columns := ["a"] } } list =
        { statement := .insert { columns := ["a"], rows := [.ofList [("a", .int 1)], .empty] } } ∧
      Edit.Apart (.limit 1) (.offset 2) ∧
      fresh.edits (list ++ [.limit 1, .offset 2]) = fresh.edits (list ++ [.offset 2, .limit 1]) ∧
      fresh.edits (list ++ [.window ⟨some 9, none⟩]) =
        fresh.edits [.matching (.ofList [("a", .int 1)]), .row (.ofList [("a", .int 1)]),
          .comparing [], .row .empty, .window ⟨some 9, none⟩] := by
  intro list fresh
  obtain ⟨inserted, selected, -, -, exchanged, windowed⟩ := Query.edits_precedence list
  have apart : Edit.Apart (.limit 1) (.offset 2) := by
    intro part
    cases part with
    | limit => exact .inr rfl
    | _ => exact .inl rfl
  exact ⟨(selected ["*"]).trans rfl, (inserted ["a"]).trans rfl, apart,
    (exchanged fresh _ _ [] apart).1, (windowed fresh ⟨some 9, none⟩ []).trans rfl⟩

end ParamSql

import Mathlib.Data.List.DropRight
import ParamSql.Proofs.Sign

/-!
# Normal forms of statements

Many descriptions stand for one statement: connectives behind the last
predicate of a chain are not written, a record stands for a chain of
comparisons, a row counts only at the listed columns and a negative bound is
none.  The normal form of a statement about a table keeps what is left: a flat
chain of predicates for the condition, rows of values in the order of the
columns, and the bounds that hold.

A normal form has a template of its own, written down clause by clause.  The
main results are that a statement with clauses has the template of its normal
form and, as its parameters, those read off the description.
-/

namespace ParamSql

/-! ## Conditions -/

/-- A predicate of any of the three kinds. -/
inductive Test where
  | comparison (comparison : Comparison)
  | membership (membership : Membership)
  | pattern (pattern : Pattern)

/-- The column of a predicate. -/
def Test.column : Test → String
  | comparison p => p.column
  | membership p => p.column
  | pattern p => p.column

/-- Change the predicate of a link. -/
def Link.map {α β : Type} (f : α → β) : Link α → Link β
  | predicate p => .predicate (f p)
  | connective c => .connective c

namespace Chain

variable {α β : Type}

/-- A chain without the connectives behind its last predicate. -/
def closed (chain : Chain α) : Chain α :=
  chain.rdropWhile fun link => !link.isPredicate

/-- Chains one after the other with a connective between any two. -/
def connected (junction : Junction) (chains : List (Chain α)) : Chain α :=
  [Link.connective junction.toConnective].intercalate chains

/-- Whether the last link of a chain is a predicate. -/
def EndsInPredicate (chain : Chain α) : Prop :=
  ∃ p, chain.getLast? = some (.predicate p)

end Chain

/-- The comparisons of a filter as a chain: a record compares its columns one
by one with its connective in between. -/
def Filter.closed : Filter → Chain Comparison
  | matching record comparator junction =>
      Chain.connected junction
        (record.entries.map fun entry => [.predicate ⟨entry.1, comparator, entry.2⟩])
  | chain links => Chain.closed links

/-- What a filter puts into the condition. -/
def Filter.tests (filter : Filter) : Chain Test :=
  filter.closed.map (Link.map .comparison)

/-- What a chain of predicates of one kind puts into the condition. -/
def Chain.tests {α : Type} (kind : α → Test) (chain : Chain α) : Chain Test :=
  (Chain.closed chain).map (Link.map kind)

/-- The comparisons of a filter. -/
def Filter.comparisons : Filter → List Comparison
  | matching record comparator _ => record.entries.map fun entry => ⟨entry.1, comparator, entry.2⟩
  | chain links => links.predicates

/-- The predicates of all groups. -/
def Restriction.tests (restriction : Restriction) : List Test :=
  (restriction.filter.elim [] Filter.comparisons).map .comparison ++
    (restriction.memberships.elim [] Chain.predicates).map .membership ++
    (restriction.patterns.elim [] Chain.predicates).map .pattern

namespace Restriction

/-- The chains of the groups that have a predicate. -/
def chains (restriction : Restriction) : List (Chain Test) :=
  [restriction.filter.elim [] Filter.tests,
    restriction.memberships.elim [] (Chain.tests .membership),
    restriction.patterns.elim [] (Chain.tests .pattern)].filter fun chain => !chain.isEmpty

/-- The whole condition as one chain. -/
def condition (restriction : Restriction) : Chain Test :=
  Chain.connected restriction.junction restriction.chains

end Restriction

/-! ## Normal forms -/

/-- What a compiled statement says. -/
inductive NormalForm where
  | insert (table : QualifiedName) (columns : List String) (rows : List (List Value))
      (returning : Option Returning)
  | select (table : QualifiedName) (columns : List String) (condition : Chain Test)
      (order : Option SortKey) (limit offset : Option Int64)
  | update (table : QualifiedName) (assignments : List (String × Value))
      (condition : Chain Test) (returning : Option Returning)
  | delete (table : QualifiedName) (condition : Chain Test) (returning : Option Returning)

/-- A bound that is there and not negative. -/
def Window.bound (side : Window → Option Int64) (window : Option Window) : Option Int64 :=
  (window.bind side).filter fun count => 0 ≤ count

/-- The values of a row in the order of the columns, null where it has none. -/
def Record.project (columns : List String) (row : Record) : List Value :=
  columns.map fun column => (row.get? column).getD .null

/-- What a statement about a table says. -/
def Statement.normalForm (table : QualifiedName) : Statement → NormalForm
  | insert s => .insert table s.columns (s.rows.map (Record.project s.columns)) s.returning
  | select s =>
      .select table s.columns s.restriction.condition s.order
        (Window.bound Window.limit s.window) (Window.bound Window.offset s.window)
  | update s => .update table s.assignments.entries s.restriction.condition s.returning
  | delete s => .delete table s.restriction.condition s.returning

/-- A restriction with all three groups, the first two of which have a
connective behind their last predicate. -/
def Restriction.sample : Restriction where
  filter := some (.chain [.predicate ⟨"id", .atLeast, .int 1⟩, .connective .not])
  memberships := some [.predicate ⟨"$1; --", .notIn, [.null, .int 2]⟩, .connective .or]
  patterns := some [.connective .not, .predicate ⟨"na\"me", .like, .text "a%"⟩]

/-- Its groups, without the connectives at their ends. -/
theorem Restriction.chains_sample : Restriction.sample.chains = [
    [.predicate (.comparison ⟨"id", .atLeast, .int 1⟩)],
    [.predicate (.membership ⟨"$1; --", .notIn, [.null, .int 2]⟩)],
    [.connective .not, .predicate (.pattern ⟨"na\"me", .like, .text "a%"⟩)]] :=
  rfl

/-- An update whose names are not plain words. -/
def Update.sample : Update where
  assignments := Record.ofList [("na\"me", .text "b")]
  restriction := .sample
  returning := some (.columns [""])

/-! ## Their templates -/

open Sign (chars)

/-- Rows of signs with commas between them. -/
def Sign.commas {α : Type} (rows : List (List (Sign α))) : List (Sign α) :=
  (chars ", ").intercalate rows

open Sign (commas)

/-- The template of a predicate. -/
def Test.template : Test → List (Sign Value)
  | comparison p => .name p.column :: (chars p.operator.word ++ [.place p.value])
  | membership p =>
      .name p.column :: (chars (" " ++ p.operator.word ++ " (") ++
        commas (p.values.map fun value => [.place value]) ++ chars ")")
  | pattern p =>
      .name p.column :: (chars (" " ++ p.operator.word ++ " ") ++ [.place p.pattern])

/-- The template of a predicate or connective. -/
def Link.template : Link Test → List (Sign Value)
  | predicate p => p.template
  | connective c => chars c.word

/-- The template of a chain: its links with a blank between any two. -/
def Chain.template (chain : Chain Test) : List (Sign Value) :=
  (chars " ").intercalate (chain.map Link.template)

/-- A condition opens with a word of its own, unless there is none. -/
def Chain.whereTemplate : Chain Test → List (Sign Value)
  | [] => []
  | link :: rest => chars " WHERE " ++ Chain.template (link :: rest)

def QualifiedName.template (table : QualifiedName) : List (Sign Value) :=
  [.name table.schema, .char '.', .name table.table]

/-- Quoted names with commas between them. -/
def namesTemplate (names : List String) : List (Sign Value) :=
  commas (names.map fun name => [.name name])

/-- A column that is read; a star is no name. -/
def columnTemplate (column : String) : List (Sign Value) :=
  if column = "*" then chars "*" else [.name column]

/-- A row of values between parentheses. -/
def rowTemplate (row : List Value) : List (Sign Value) :=
  chars "(" ++ commas (row.map fun value => [.place value]) ++ chars ")"

def assignmentTemplate (entry : String × Value) : List (Sign Value) :=
  [.name entry.1, .char '=', .place entry.2]

def returningTemplate : Option Returning → List (Sign Value)
  | none => []
  | some .all => chars " RETURNING *"
  | some (.columns names) => chars " RETURNING " ++ namesTemplate names

def orderTemplate : Option SortKey → List (Sign Value)
  | none => []
  | some key =>
      chars " ORDER BY " ++ .name key.column :: chars (" " ++ key.direction.word)

/-- A bound behind the word that opens it. -/
def boundTemplate (opening : String) : Option Int64 → List (Sign Value)
  | none => []
  | some count => chars opening ++ [.place (.int count)]

namespace NormalForm

/-- The template of a normal form without the semicolon that ends it. -/
def body : NormalForm → List (Sign Value)
  | insert table columns rows returning =>
      chars "INSERT INTO " ++ table.template ++ chars " (" ++ namesTemplate columns ++
        chars ") VALUES " ++ commas (rows.map rowTemplate) ++ returningTemplate returning
  | select table columns condition order limit offset =>
      chars "SELECT " ++ commas (columns.map columnTemplate) ++ chars " FROM " ++
        table.template ++ condition.whereTemplate ++ orderTemplate order ++
        boundTemplate " LIMIT " limit ++ boundTemplate " OFFSET " offset
  | update table assignments condition returning =>
      chars "UPDATE " ++ table.template ++ chars " SET " ++
        commas (assignments.map assignmentTemplate) ++ condition.whereTemplate ++
        returningTemplate returning
  | delete table condition returning =>
      chars "DELETE FROM " ++ table.template ++ condition.whereTemplate ++
        returningTemplate returning

/-- The template of a normal form. -/
def template (normal : NormalForm) : List (Sign Value) :=
  normal.body ++ chars ";"

end NormalForm

end ParamSql

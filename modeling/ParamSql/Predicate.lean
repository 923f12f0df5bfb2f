import ParamSql.Fragment
import ParamSql.Keyword
import ParamSql.Record

/-!
# Predicates and the chains they form

A chain is a row of predicates and connectives.  It is written from left to
right with single blanks; what stands behind its last predicate is left out,
so a chain never ends in a connective and one without a predicate is not
written at all.

A restriction holds up to three groups: comparisons, memberships and patterns.
-/

namespace ParamSql

/-! ## Single predicates -/

/-- A column compared with a value. -/
structure Comparison where
  column : String
  operator : Comparator
  value : Value

/-- A column tested against a list of values. -/
structure Membership where
  column : String
  operator : MembershipOperator
  values : List Value

/-- A column tested against a pattern. -/
structure Pattern where
  column : String
  operator : PatternOperator
  pattern : Value

/-- A comparison has no blanks, as in `"a"=$1`. -/
def Comparison.fragment (p : Comparison) : Fragment :=
  [.identifier p.column, .text p.operator.word, .parameter p.column p.value]

/-- A membership lists its placeholders, as in `"a" IN ($1, $2)`. -/
def Membership.fragment (p : Membership) : Fragment :=
  .identifier p.column :: .text (" " ++ p.operator.word ++ " (") ::
    (Fragment.joined ", " (p.values.map fun value => [.parameter p.column value]) ++ [.text ")"])

/-- A pattern stands between blanks, as in `"a" LIKE $1`. -/
def Pattern.fragment (p : Pattern) : Fragment :=
  [.identifier p.column, .text (" " ++ p.operator.word ++ " "), .parameter p.column p.pattern]

/-! ## Chains -/

/-- A predicate or a connective in a chain. -/
inductive Link (α : Type) where
  | predicate (predicate : α)
  | connective (connective : Connective)

/-- A row of predicates and connectives. -/
abbrev Chain (α : Type) := List (Link α)

namespace Link

variable {α : Type}

/-- Whether a link is a predicate. -/
def isPredicate : Link α → Bool
  | predicate _ => true
  | connective _ => false

/-- The predicate that a link is, if it is one. -/
def predicate? : Link α → Option α
  | predicate p => some p
  | connective _ => none

/-- A link in a statement. -/
def fragment (write : α → Fragment) : Link α → Fragment
  | predicate p => write p
  | connective c => [.text c.word]

end Link

namespace Chain

variable {α : Type}

/-- Whether a chain has a predicate. -/
def isEffective (chain : Chain α) : Bool :=
  chain.any Link.isPredicate

/-- The predicates of a chain. -/
def predicates (chain : Chain α) : List α :=
  chain.filterMap Link.predicate?

/-- A chain up to its last predicate. -/
def trimmed : Chain α → Chain α
  | [] => []
  | link :: rest =>
      match trimmed rest with
      | [] => if link.isPredicate then [link] else []
      | kept => link :: kept

/-- A chain in a statement, if it has a predicate. -/
def fragment? (write : α → Fragment) (chain : Chain α) : Option Fragment :=
  match trimmed chain with
  | [] => none
  | links => some (Fragment.joined " " (links.map (Link.fragment write)))

end Chain

/-! ## Filters -/

/-- What the columns of a row are compared with. -/
inductive Filter where
  /-- Every column of a record compared in one way, with one connective. -/
  | matching (record : Record) (comparator : Comparator) (junction : Junction)
  | chain (links : Chain Comparison)

namespace Filter

/-- The columns of a row equal those of a record. -/
def ofRecord (record : Record) : Filter :=
  .matching record .equal .and

/-- Whether the filter compares anything. -/
def isEffective : Filter → Bool
  | matching record _ _ => !record.isEmpty
  | chain links => links.isEffective

/-- A filter in a statement, if it compares anything. -/
def fragment? : Filter → Option Fragment
  | matching record comparator junction =>
      if record.isEmpty then none
      else some <| Fragment.joined (" " ++ junction.word ++ " ") <|
        record.entries.map fun entry => Comparison.fragment ⟨entry.1, comparator, entry.2⟩
  | chain links => links.fragment? Comparison.fragment

end Filter

/-! ## Restrictions -/

/-- Which rows a statement is about. -/
structure Restriction where
  filter : Option Filter := none
  memberships : Option (Chain Membership) := none
  patterns : Option (Chain Pattern) := none
  /-- What stands between the groups. -/
  junction : Junction := .and

namespace Restriction

/-- Whether any group has a predicate. -/
def isEffective (restriction : Restriction) : Bool :=
  restriction.filter.any Filter.isEffective ||
    restriction.memberships.any Chain.isEffective ||
    restriction.patterns.any Chain.isEffective

/-- The column of the first membership that lists no values. -/
def emptyMembership? (restriction : Restriction) : Option String :=
  ((restriction.memberships.getD []).predicates.find? fun p => p.values.isEmpty).map
    Membership.column

end Restriction

end ParamSql

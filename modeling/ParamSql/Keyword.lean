/-!
# Words of SQL

The operators and other closed choices of a statement are written as fixed
words.  Each also has a label, which names it outside SQL.
-/

namespace ParamSql

/-- A closed set of choices that SQL writes as fixed words. -/
class Keyword (α : Type) where
  /-- Every choice. -/
  all : List α
  /-- The word or sign that SQL uses. -/
  word : α → String
  /-- The name of the choice. -/
  label : α → String

/-- The choice that a word stands for. -/
def Keyword.ofWord? {α : Type} [Keyword α] (spelling : String) : Option α :=
  (Keyword.all : List α).find? fun choice => Keyword.word choice = spelling

/-! ## Operators -/

/-- How a column is compared with a value. -/
inductive Comparator where
  | equal
  | notEqual
  | less
  | atMost
  | greater
  | atLeast
  deriving DecidableEq, Repr, Inhabited

/-- The sign of a comparison. -/
def Comparator.word : Comparator → String
  | equal => "="
  | notEqual => "!="
  | less => "<"
  | atMost => "<="
  | greater => ">"
  | atLeast => ">="

instance : Keyword Comparator where
  all := [.equal, .notEqual, .less, .atMost, .greater, .atLeast]
  word := Comparator.word
  label
    | .equal => "Eq"
    | .notEqual => "Ne"
    | .less => "Lt"
    | .atMost => "Lte"
    | .greater => "Gt"
    | .atLeast => "Gte"

/-- Whether a column is, or is not, one of several values. -/
inductive MembershipOperator where
  | isIn
  | notIn
  deriving DecidableEq, Repr

/-- The words of a membership test. -/
def MembershipOperator.word : MembershipOperator → String
  | isIn => "IN"
  | notIn => "NOT IN"

instance : Keyword MembershipOperator where
  all := [.isIn, .notIn]
  word := MembershipOperator.word
  label
    | .isIn => "In"
    | .notIn => "NotIn"

/-- Whether a column fits, or does not fit, a pattern, with or without regard
to case. -/
inductive PatternOperator where
  | like
  | notLike
  | ilike
  | notIlike
  deriving DecidableEq, Repr

/-- The words of a pattern test. -/
def PatternOperator.word : PatternOperator → String
  | like => "LIKE"
  | notLike => "NOT LIKE"
  | ilike => "ILIKE"
  | notIlike => "NOT ILIKE"

instance : Keyword PatternOperator where
  all := [.like, .notLike, .ilike, .notIlike]
  word := PatternOperator.word
  label
    | .like => "Like"
    | .notLike => "NotLike"
    | .ilike => "Ilike"
    | .notIlike => "NotIlike"

/-! ## Connectives -/

/-- A connective of two conditions. -/
inductive Junction where
  | and
  | or
  deriving DecidableEq, Repr, Inhabited

/-- The word between two conditions. -/
def Junction.word : Junction → String
  | and => "AND"
  | or => "OR"

instance : Keyword Junction where
  all := [.and, .or]
  word := Junction.word
  label
    | .and => "And"
    | .or => "Or"

/-- A word that stands between or in front of predicates. -/
inductive Connective where
  | and
  | or
  | not
  deriving DecidableEq, Repr

/-- The word of a connective. -/
def Connective.word : Connective → String
  | and => "AND"
  | or => "OR"
  | not => "NOT"

instance : Keyword Connective where
  all := [.and, .or, .not]
  word := Connective.word
  label
    | .and => "And"
    | .or => "Or"
    | .not => "Not"

/-- A connective of two conditions is one of the connectives. -/
def Junction.toConnective : Junction → Connective
  | and => .and
  | or => .or

@[simp]
theorem Junction.word_toConnective (junction : Junction) :
    junction.toConnective.word = junction.word := by
  cases junction <;> rfl

/-! ## Sorting and the verbs of statements -/

/-- The direction of a sort. -/
inductive Direction where
  | ascending
  | descending
  deriving DecidableEq, Repr, Inhabited

/-- The word of a direction. -/
def Direction.word : Direction → String
  | ascending => "ASC"
  | descending => "DESC"

instance : Keyword Direction where
  all := [.ascending, .descending]
  word := Direction.word
  label
    | .ascending => "Asc"
    | .descending => "Desc"

/-- What a statement does. -/
inductive Verb where
  | insert
  | select
  | update
  | delete
  deriving DecidableEq, Repr

/-- The first word of a statement. -/
def Verb.word : Verb → String
  | insert => "INSERT"
  | select => "SELECT"
  | update => "UPDATE"
  | delete => "DELETE"

instance : Keyword Verb where
  all := [.insert, .select, .update, .delete]
  word := Verb.word
  label
    | .insert => "Insert"
    | .select => "Select"
    | .update => "Update"
    | .delete => "Delete"

end ParamSql

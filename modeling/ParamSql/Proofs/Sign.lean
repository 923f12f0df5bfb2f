import ParamSql.Proofs.Assembly

/-!
# Signs of a statement

Apart from a dialect, the text of a statement is a row of signs: the characters
of its fixed words, the names in it and the places of its parameters.  A row of
signs is a template.  A dialect turns it into text by quoting the names and
putting a placeholder at each place.

The text of a fragment is its template with the placeholders of its parameters
put in from left to right.
-/

namespace ParamSql

/-- A unit of the text of a statement. -/
inductive Sign (α : Type) where
  /-- A character of the fixed words. -/
  | char (c : Char)
  /-- A name, to be quoted. -/
  | name (name : String)
  /-- The place of a parameter, with what is known of it. -/
  | place (content : α)
  deriving DecidableEq, Repr

namespace Sign

variable {α : Type}

/-- The characters of a text. -/
def chars (text : String) : List (Sign α) :=
  text.toList.map char

/-- The name that a sign is, if it is one. -/
def name? : Sign α → Option String
  | name n => some n
  | _ => none

/-- The content of a place, if the sign is one. -/
def place? : Sign α → Option α
  | place content => some content
  | _ => none

/-- The names in a row of signs, from left to right. -/
def names (signs : List (Sign α)) : List String :=
  signs.filterMap name?

/-- The places in a row of signs, from left to right. -/
def places (signs : List (Sign α)) : List α :=
  signs.filterMap place?

/-- The text of a template in a dialect: the names quoted and each place taken
by the next of the given texts, which must be as many as the places. -/
def fill? (dialect : Dialect) : List (Sign α) → List String → Option String
  | [], [] => some ""
  | [], _ :: _ => none
  | char c :: rest, texts => (fill? dialect rest texts).map (c.toString ++ ·)
  | name n :: rest, texts => (fill? dialect rest texts).map (dialect.quote n ++ ·)
  | place _ :: _, [] => none
  | place _ :: rest, text :: texts => (fill? dialect rest texts).map (text ++ ·)

section Cons

variable (c : Char) (n : String) (content : α) (rest : List (Sign α))

@[simp]
theorem names_nil : names ([] : List (Sign α)) = [] :=
  rfl

@[simp]
theorem names_char_cons : names (char c :: rest) = names rest :=
  rfl

@[simp]
theorem names_name_cons : names (name n :: rest) = n :: names rest :=
  rfl

@[simp]
theorem names_place_cons : names (place content :: rest) = names rest :=
  rfl

@[simp]
theorem places_nil : places ([] : List (Sign α)) = [] :=
  rfl

@[simp]
theorem places_char_cons : places (char c :: rest) = places rest :=
  rfl

@[simp]
theorem places_name_cons : places (name n :: rest) = places rest :=
  rfl

@[simp]
theorem places_place_cons : places (place content :: rest) = content :: places rest :=
  rfl

end Cons

/-! ## Fixed words -/

@[simp]
theorem chars_empty : (chars "" : List (Sign α)) = [] :=
  rfl

@[simp]
theorem chars_append (first second : String) :
    (chars (first ++ second) : List (Sign α)) = chars first ++ chars second := by
  simp [chars]

@[simp]
theorem names_chars (text : String) : names (chars text : List (Sign α)) = [] := by
  simp [names, chars, name?]

@[simp]
theorem places_chars (text : String) : places (chars text : List (Sign α)) = [] := by
  simp [places, chars, place?]

@[simp]
theorem names_append (first second : List (Sign α)) :
    names (first ++ second) = names first ++ names second :=
  List.filterMap_append

@[simp]
theorem places_append (first second : List (Sign α)) :
    places (first ++ second) = places first ++ places second :=
  List.filterMap_append

/-- Fixed words between rows of signs hold no name. -/
theorem names_intercalate_chars (separator : String) (rows : List (List (Sign α))) :
    names ((chars separator).intercalate rows) = rows.flatMap names := by
  induction rows with
  | nil => rfl
  | cons row rest ih =>
      cases rest with
      | nil => simp
      | cons next rest => simp [List.intercalate_cons_cons, ih]

/-- Fixed words stand in the text as they are. -/
theorem fill?_chars_append (dialect : Dialect) (text : String) (rest : List (Sign α))
    (texts : List String) :
    fill? dialect (chars text ++ rest) texts = (fill? dialect rest texts).map (text ++ ·) := by
  have general : ∀ cs : List Char,
      fill? dialect (cs.map char ++ rest) texts =
        (fill? dialect rest texts).map (String.ofList cs ++ ·) := by
    intro cs
    induction cs with
    | nil => simp
    | cons c cs ih =>
        rw [List.map_cons, List.cons_append, fill?, ih, Option.map_map]
        congr 1
        funext tail
        simp [String.ofList_cons, String.append_assoc, Char.toString]
  rw [chars, general, String.ofList_toList]

end Sign

/-! ## Signs of fragments -/

namespace Fragment

/-- The signs of a fragment; a place holds the value of its parameter. -/
def signs : Fragment → List (Sign Value)
  | [] => []
  | .text text :: rest => Sign.chars text ++ signs rest
  | .identifier name :: rest => .name name :: signs rest
  | .parameter _ value :: rest => .place value :: signs rest

@[simp]
theorem signs_append (first second : Fragment) :
    signs (first ++ second) = signs first ++ signs second := by
  induction first with
  | nil => rfl
  | cons piece rest ih => cases piece <;> simp [signs, ih]

/-- Joined fragments have the signs of the separator between theirs. -/
theorem signs_joined (separator : String) (fragments : List Fragment) :
    signs (joined separator fragments) =
      (Sign.chars separator).intercalate (fragments.map signs) := by
  induction fragments with
  | nil => rfl
  | cons fragment rest ih =>
      cases rest with
      | nil => simp [joined]
      | cons next rest => simp [joined, signs, ih, List.intercalate_cons_cons]

/-- Separators have no parameters. -/
theorem bindings_joined (separator : String) (fragments : List Fragment) :
    bindings (joined separator fragments) = fragments.flatMap bindings := by
  induction fragments with
  | nil => rfl
  | cons fragment rest ih =>
      cases rest with
      | nil => simp [joined]
      | cons next rest => simp [joined, bindings, ih]

/-- The places of a fragment are its parameters. -/
theorem places_signs (fragment : Fragment) :
    Sign.places fragment.signs = fragment.bindings.map Prod.snd := by
  induction fragment with
  | nil => rfl
  | cons piece rest ih =>
      cases piece with
      | text text => simp [signs, bindings, ih]
      | identifier name => simp [signs, bindings, ih]
      | parameter column value => simp [signs, bindings, ih]

end Fragment

/-- The placeholders of parameters, the first of which has a given index. -/
def Dialect.placeholdersFrom (dialect : Dialect) (index : Nat)
    (bindings : List (String × Value)) : List String :=
  bindings.mapIdx fun k binding => dialect.placeholder (index + k) binding.1

@[simp]
theorem Dialect.placeholdersFrom_nil (dialect : Dialect) (index : Nat) :
    dialect.placeholdersFrom index [] = [] :=
  rfl

@[simp]
theorem Dialect.placeholdersFrom_cons (dialect : Dialect) (index : Nat)
    (binding : String × Value) (bindings : List (String × Value)) :
    dialect.placeholdersFrom index (binding :: bindings) =
      dialect.placeholder index binding.1 :: dialect.placeholdersFrom (index + 1) bindings := by
  simp [placeholdersFrom, List.mapIdx_cons, Nat.add_comm, Nat.add_left_comm]

/-- The text of a fragment is its template with the placeholders of its
parameters in place. -/
theorem Fragment.fill?_signs (dialect : Dialect) (index : Nat) (fragment : Fragment) :
    Sign.fill? dialect fragment.signs (dialect.placeholdersFrom index fragment.bindings) =
      some (fragment.textAt dialect index) := by
  induction fragment generalizing index with
  | nil => rfl
  | cons piece rest ih =>
      cases piece with
      | text text => simp [signs, bindings, Sign.fill?_chars_append, ih]
      | identifier name => simp [signs, bindings, Sign.fill?, ih]
      | parameter column value => simp [signs, bindings, Sign.fill?, ih]

end ParamSql

/-!
# Quoted names

A name is quoted by writing a mark at both ends and every mark inside it
twice.  The reader undoes this: it expects the opening mark, takes a doubled
mark for one and stops at the first mark that is not doubled.
-/

namespace ParamSql.Text.Quoted

/-- The characters of a name with every mark written twice. -/
def double (mark : Char) : List Char → List Char
  | [] => []
  | c :: rest => if c = mark then mark :: mark :: double mark rest else c :: double mark rest

/-- A name between two marks, the marks inside it doubled. -/
def encode (mark : Char) (name : List Char) : List Char :=
  mark :: (double mark name ++ [mark])

/-- Quote a name. -/
def quote (mark : Char) (name : String) : String :=
  String.ofList (encode mark name.toList)

@[simp]
theorem toList_quote (mark : Char) (name : String) :
    (quote mark name).toList = encode mark name.toList :=
  String.toList_ofList

/-- Quoting never yields the empty text. -/
theorem encode_ne_nil (mark : Char) (name : List Char) : encode mark name ≠ [] :=
  List.cons_ne_nil _ _

/-! ## Reading -/

/-- Read up to the first mark that is not doubled: the name before it and the
text behind it. -/
def readBody? (mark : Char) : List Char → Option (List Char × List Char)
  | [] => none
  | [c] => if c = mark then some ([], []) else none
  | c :: d :: rest =>
      if c = mark then
        if d = mark then (readBody? mark rest).map fun (name, after) => (mark :: name, after)
        else some ([], d :: rest)
      else (readBody? mark (d :: rest)).map fun (name, after) => (c :: name, after)

/-- Read a quoted name: the name and the text behind it. -/
def read? (mark : Char) : List Char → Option (List Char × List Char)
  | [] => none
  | c :: rest => if c = mark then readBody? mark rest else none

/-- A character that is no mark stands for itself. -/
theorem readBody?_cons_of_ne {mark c : Char} (other : c ≠ mark) (rest : List Char) :
    readBody? mark (c :: rest) =
      (readBody? mark rest).map fun (name, after) => (c :: name, after) := by
  cases rest <;> simp [readBody?, other]

/-- Reading takes back a doubled name, up to the closing mark. -/
theorem readBody?_double (mark : Char) (name : List Char) {rest : List Char}
    (closed : rest.head? ≠ some mark) :
    readBody? mark (double mark name ++ mark :: rest) = some (name, rest) := by
  induction name with
  | nil =>
      cases rest with
      | nil => simp [double, readBody?]
      | cons c rest =>
          have other : c ≠ mark := fun equal => closed (by simp [equal])
          simp [double, readBody?, other]
  | cons c name ih =>
      by_cases equal : c = mark
      · simp [double, equal, readBody?, ih]
      · simp [double, equal, readBody?_cons_of_ne, ih]

/-- Reading takes back a quoted name, whatever stands behind it, as long as
that is no further mark. -/
theorem read?_encode_append (mark : Char) (name : List Char) {rest : List Char}
    (closed : rest.head? ≠ some mark) :
    read? mark (encode mark name ++ rest) = some (name, rest) := by
  simp [encode, read?, readBody?_double mark name closed]

end ParamSql.Text.Quoted

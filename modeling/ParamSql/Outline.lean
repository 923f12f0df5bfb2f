/-!
# Outlines of structured data

An outline names the parts of a value for a reader.  It can be laid out on one
line, or with every part on a line of its own, four blanks deeper than the
part that holds it and followed by a comma.
-/

namespace ParamSql

/-- A value told by its parts. -/
inductive Outline where
  /-- Text that is shown as it is. -/
  | atom (text : String)
  /-- A name with labelled parts. -/
  | fields (name : String) (parts : List (String × Outline))
  /-- A name with parts told apart by their position. -/
  | call (name : String) (parts : List Outline)
  /-- A list. -/
  | items (parts : List Outline)

namespace Outline

/-! ## One line -/

mutual

/-- The outline on one line. -/
def compact : Outline → String
  | atom text => text
  | fields name parts => name ++ " \x7b " ++ ", ".intercalate (compactFields parts) ++ " \x7d"
  | call name parts => name ++ "(" ++ ", ".intercalate (compactParts parts) ++ ")"
  | items parts => "[" ++ ", ".intercalate (compactParts parts) ++ "]"

/-- Each part on one line. -/
def compactParts : List Outline → List String
  | [] => []
  | part :: rest => part.compact :: compactParts rest

/-- Each labelled part on one line. -/
def compactFields : List (String × Outline) → List String
  | [] => []
  | (label, part) :: rest => (label ++ ": " ++ part.compact) :: compactFields rest

end

/-! ## One part on each line -/

/-- The start of a line at a depth of nesting. -/
def margin (depth : Nat) : String :=
  String.ofList (List.replicate (4 * depth) ' ')

/-- Parts between brackets, each on a line of its own; nothing stands between
the brackets when there are no parts. -/
def bracketed (depth : Nat) (opening closing : String) (parts : List String) : String :=
  if parts.isEmpty then opening ++ closing
  else
    opening ++ "\n" ++
      String.join (parts.map fun part => margin (depth + 1) ++ part ++ ",\n") ++
      margin depth ++ closing

mutual

/-- The outline with every part on a line of its own, for use at a depth. -/
def expandedAt (depth : Nat) : Outline → String
  | atom text => text
  | fields name parts => bracketed depth (name ++ " \x7b") "\x7d" (expandedFields depth parts)
  | call name parts => bracketed depth (name ++ "(") ")" (expandedParts depth parts)
  | items parts => bracketed depth "[" "]" (expandedParts depth parts)

/-- Each part one level deeper. -/
def expandedParts (depth : Nat) : List Outline → List String
  | [] => []
  | part :: rest => part.expandedAt (depth + 1) :: expandedParts depth rest

/-- Each labelled part one level deeper. -/
def expandedFields (depth : Nat) : List (String × Outline) → List String
  | [] => []
  | (label, part) :: rest =>
      (label ++ ": " ++ part.expandedAt (depth + 1)) :: expandedFields depth rest

end

/-- The outline with every part on a line of its own. -/
def expanded (outline : Outline) : String :=
  outline.expandedAt 0

end Outline

end ParamSql

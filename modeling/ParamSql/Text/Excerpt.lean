/-!
# Texts cut to a number of bytes

A text is cut in whole characters: the part that is kept is the longest front
whose UTF-8 form has at most the given number of bytes.
-/

namespace ParamSql.Text

/-- The longest front of a text that fits a number of bytes. -/
def fitting (bytes : Nat) : List Char → List Char
  | [] => []
  | c :: rest => if c.utf8Size ≤ bytes then c :: fitting (bytes - c.utf8Size) rest else []

/-- The longest front of a text, in whole characters, that has at most so many
bytes. -/
def cutToBytes (text : String) (bytes : Nat) : String :=
  String.ofList (fitting bytes text.toList)

end ParamSql.Text

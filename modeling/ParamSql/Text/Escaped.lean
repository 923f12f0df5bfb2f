import ParamSql.Text.Invisible

/-!
# Text shown between quotation marks

The shown form of a text puts it between quotation marks and escapes what a
reader could not see or could misread: the mark itself, the backslash, the
line, tab and null characters by a letter or digit, and every other character
without a glyph by its code point in hexadecimal.
-/

namespace ParamSql.Text

/-- A character by its code point, as in `\u{7f}`. -/
def codePointEscape (c : Char) : String :=
  "\\u\x7b" ++ String.ofList (Nat.toDigits 16 c.toNat) ++ "\x7d"

/-- A character as it is shown between two marks. -/
def shownChar (mark c : Char) : String :=
  if c = '\x00' then "\\0"
  else if c = '\t' then "\\t"
  else if c = '\r' then "\\r"
  else if c = '\n' then "\\n"
  else if c = '\\' then "\\\\"
  else if c = mark then "\\" ++ c.toString
  else if isInvisible c then codePointEscape c
  else c.toString

/-- A character between single quotation marks. -/
def showChar (c : Char) : String :=
  "'" ++ shownChar '\'' c ++ "'"

/-- A text between double quotation marks. -/
def showText (s : String) : String :=
  "\"" ++ String.join (s.toList.map (shownChar '"')) ++ "\""

end ParamSql.Text

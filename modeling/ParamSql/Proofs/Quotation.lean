import Mathlib.Data.List.Basic
import ParamSql.Dialect

/-!
# Quoted names can be read back

A name is quoted by doubling the marks in it, so a quoted name ends at the
first mark that is followed by no other.  One quoted name may be the front of
another, as `"a"` is of `"a""b"`, but what follows there goes on with a mark.
In front of anything else the code is free of prefixes: reading accepts exactly
the quoted names and leaves exactly what stands behind them.

It follows that names are told apart when they are quoted, and that a row of
them with a separator in between is read in only one way, whatever quotation
marks and separators the names themselves contain.
-/

namespace ParamSql

/-! ## Single names -/

namespace Text.Quoted

variable {mark : Char}

/-- A text from which a name is read is that name up to its closing mark, and
no mark comes next. -/
theorem eq_of_readBody? {text name after : List Char}
    (read : readBody? mark text = some (name, after)) :
    text = double mark name ++ mark :: after ∧ after.head? ≠ some mark := by
  induction text using readBody?.induct mark generalizing name with
  | case1 => contradiction
  | case2 =>
      rw [readBody?, if_pos rfl] at read
      rcases Prod.mk.inj (Option.some.inj read) with ⟨rfl, rfl⟩
      exact ⟨rfl, (Option.some_ne_none _).symm⟩
  | case3 c other =>
      rw [readBody?, if_neg other] at read
      contradiction
  | case4 rest ih =>
      rw [readBody?, if_pos rfl, if_pos rfl] at read
      rcases Option.map_eq_some_iff.mp read with ⟨⟨inner, behind⟩, found, equal⟩
      rcases Prod.mk.inj equal with ⟨rfl, rfl⟩
      rcases ih found with ⟨written, closed⟩
      constructor
      · simp [written, double]
      · exact closed
  | case5 d rest other =>
      rw [readBody?, if_pos rfl, if_neg other] at read
      rcases Prod.mk.inj (Option.some.inj read) with ⟨rfl, rfl⟩
      constructor
      · rfl
      · intro next
        exact other (Option.some.inj next)
  | case6 c d rest other ih =>
      rw [readBody?, if_neg other] at read
      rcases Option.map_eq_some_iff.mp read with ⟨⟨inner, behind⟩, found, equal⟩
      rcases Prod.mk.inj equal with ⟨rfl, rfl⟩
      rcases ih found with ⟨written, closed⟩
      constructor
      · simp [written, double, other]
      · exact closed

theorem length_lt_of_readBody? {text name after : List Char}
    (read : readBody? mark text = some (name, after)) : after.length < text.length := by
  rw [(eq_of_readBody? read).1, List.length_append, List.length_cons]
  omega

/-- Reading accepts exactly the quoted names that no further mark follows. -/
theorem read?_eq_some_iff {text name after : List Char} :
    read? mark text = some (name, after) ↔
      text = encode mark name ++ after ∧ after.head? ≠ some mark := by
  constructor
  · intro read
    cases text with
    | nil => contradiction
    | cons c rest =>
        rcases Option.ite_none_right_eq_some.mp read with ⟨rfl, body⟩
        rcases eq_of_readBody? body with ⟨rfl, closed⟩
        constructor
        · simp [encode]
        · exact closed
  · rintro ⟨rfl, closed⟩
    exact read?_encode_append mark name closed

theorem length_lt_of_read? {text name after : List Char}
    (read : read? mark text = some (name, after)) : after.length < text.length := by
  rw [(read?_eq_some_iff.mp read).1, encode, List.length_append, List.length_cons]
  omega

/-! ## Rows of names -/

/-- Read one name or more, with a separator between any two, up to the end of
the text. -/
def readRow? (mark : Char) (separator text : List Char) : Option (List (List Char)) :=
  match _ : read? mark text with
  | none => none
  | some (name, []) => some [name]
  | some (name, c :: rest) =>
      match _ : (c :: rest).dropPrefix? separator with
      | none => none
      | some behind => (readRow? mark separator behind).map (name :: ·)
termination_by text.length
decreasing_by
  have shorter := length_lt_of_read? ‹read? mark text = some (name, c :: rest)›
  rcases List.dropPrefix?_eq_some_iff.mp ‹_› with ⟨front, split, -⟩
  rw [split, List.length_append] at shorter
  omega

/-- Read a row of names, which may be empty. -/
def readNames? (mark : Char) (separator text : List Char) : Option (List (List Char)) :=
  if text = [] then some [] else readRow? mark separator text

section Row

variable {separator text name behind : List Char}

theorem readRow?_of_last (read : read? mark text = some (name, [])) :
    readRow? mark separator text = some [name] := by
  rw [readRow?]
  split
  · next absent => rw [absent] at read; contradiction
  · next found =>
      rw [found] at read
      rcases Prod.mk.inj (Option.some.inj read) with ⟨rfl, -⟩
      rfl
  · next found =>
      rw [found] at read
      exact absurd (Prod.mk.inj (Option.some.inj read)).2 (List.cons_ne_nil _ _)

theorem readRow?_of_more (more : separator ++ behind ≠ [])
    (read : read? mark text = some (name, separator ++ behind)) :
    readRow? mark separator text = (readRow? mark separator behind).map (name :: ·) := by
  have dropped : (separator ++ behind).dropPrefix? separator = some behind :=
    List.dropPrefix?_append_of_beq behind BEq.rfl
  rw [readRow?]
  split
  · next absent => rw [absent] at read; contradiction
  · next found =>
      rw [found] at read
      exact absurd (Prod.mk.inj (Option.some.inj read)).2.symm more
  · next found =>
      rw [found] at read
      rcases Prod.mk.inj (Option.some.inj read) with ⟨rfl, rest⟩
      rw [← rest] at dropped
      split
      · next absent => rw [absent] at dropped; contradiction
      · next left_over =>
          rw [left_over] at dropped
          rw [Option.some.inj dropped]

/-- Quoted names are read back if what separates them does not start with a
mark. -/
theorem readRow?_intercalate (nonempty : separator ≠ []) (apart : separator.head? ≠ some mark)
    {names : List (List Char)} (some_name : names ≠ []) :
    readRow? mark separator (separator.intercalate (names.map (encode mark))) = some names := by
  induction names with
  | nil => contradiction
  | cons name rest ih =>
      cases rest with
      | nil =>
          apply readRow?_of_last
          rw [List.map_singleton, List.intercalate_singleton]
          exact read?_eq_some_iff.mpr ⟨(List.append_nil _).symm, (Option.some_ne_none _).symm⟩
      | cons next rest =>
          have later := ih (List.cons_ne_nil _ _)
          rw [readRow?_of_more (List.append_ne_nil_of_left_ne_nil nonempty _), later]
          · rfl
          · apply read?_eq_some_iff.mpr
            constructor
            · exact List.intercalate_cons_cons.trans (List.append_assoc _ _ _)
            · rw [List.head?_append_of_ne_nil _ nonempty]
              exact apart

/-- A row that is read has its first name at the front of the text; what stands
behind it is nothing, or the separator and the rest of the row. -/
theorem cases_of_readRow? {names : List (List Char)}
    (read : readRow? mark separator text = some names) :
    (∃ name, read? mark text = some (name, []) ∧ names = [name]) ∨
      ∃ name behind later, read? mark text = some (name, separator ++ behind) ∧
        readRow? mark separator behind = some later ∧ names = name :: later := by
  rw [readRow?] at read
  split at read
  · contradiction
  · next name found =>
      left
      exact ⟨name, found, (Option.some.inj read).symm⟩
  · next name c rest found =>
      right
      split at read
      · contradiction
      · next behind dropped =>
          rcases List.dropPrefix?_eq_some_iff.mp dropped with ⟨front, written, equal⟩
          obtain rfl := eq_of_beq equal
          rcases Option.map_eq_some_iff.mp read with ⟨later, followed, rfl⟩
          exact ⟨name, behind, later, written ▸ found, followed, rfl⟩

theorem eq_of_readRow? {names : List (List Char)}
    (read : readRow? mark separator text = some names) :
    names ≠ [] ∧ text = separator.intercalate (names.map (encode mark)) := by
  induction names generalizing text with
  | nil => rcases cases_of_readRow? read with ⟨_, -, _⟩ | ⟨_, _, _, -, -, _⟩ <;> contradiction
  | cons name rest ih =>
      constructor
      · exact List.cons_ne_nil _ _
      · rcases cases_of_readRow? read with ⟨_, found, equal⟩ | ⟨_, _, _, found, followed, equal⟩
        · rcases List.cons.inj equal with ⟨rfl, rfl⟩
          rw [(read?_eq_some_iff.mp found).1, List.append_nil, List.map_singleton,
            List.intercalate_singleton]
        · rcases List.cons.inj equal with ⟨rfl, rfl⟩
          rcases ih followed with ⟨some_name, written⟩
          rw [(read?_eq_some_iff.mp found).1, written, List.map_cons,
            List.intercalate_cons_of_ne_nil (by simpa using some_name), List.append_assoc]

/-- Reading accepts exactly the rows of quoted names with the separator in
between. -/
theorem readNames?_eq_some_iff (nonempty : separator ≠ []) (apart : separator.head? ≠ some mark)
    {names : List (List Char)} :
    readNames? mark separator text = some names ↔
      text = separator.intercalate (names.map (encode mark)) := by
  rw [readNames?]
  constructor
  · intro read
    split at read
    · next empty =>
        obtain rfl := Option.some.inj read
        exact empty
    · exact (eq_of_readRow? read).2
  · rintro rfl
    cases names with
    | nil => rfl
    | cons name rest =>
        have row := readRow?_intercalate nonempty apart (List.cons_ne_nil name rest)
        have filled : separator.intercalate ((name :: rest).map (encode mark)) ≠ [] := by
          cases rest <;> simp [encode_ne_nil]
        rw [if_neg filled, row]

end Row

end Text.Quoted

/-! ## Names in a dialect -/

namespace Dialect

/-- Read a quoted name off the front of a text: the name and what stands behind
it. -/
def readName? (dialect : Dialect) (text : String) : Option (String × String) :=
  (Text.Quoted.read? dialect.quoteMark text.toList).map fun (name, rest) =>
    (String.ofList name, String.ofList rest)

/-- Read a text as quoted names with a separator between any two of them. -/
def readNames? (dialect : Dialect) (separator text : String) : Option (List String) :=
  (Text.Quoted.readNames? dialect.quoteMark separator.toList text.toList).map fun names =>
    names.map String.ofList

variable {dialect : Dialect}

theorem readName?_eq_some_iff {text name rest : String} :
    dialect.readName? text = some (name, rest) ↔
      text = dialect.quote name ++ rest ∧ rest.toList.head? ≠ some dialect.quoteMark := by
  have characters : text = dialect.quote name ++ rest ↔
      text.toList = Text.Quoted.encode dialect.quoteMark name.toList ++ rest.toList := by
    rw [← String.toList_inj, String.toList_append, quote, Text.Quoted.toList_quote]
  rw [characters, ← Text.Quoted.read?_eq_some_iff, readName?, Option.map_eq_some_iff]
  constructor
  · rintro ⟨⟨name, rest⟩, read, equal⟩
    rcases Prod.mk.inj equal with ⟨rfl, rfl⟩
    simpa using read
  · intro read
    exact ⟨_, read, by simp⟩

theorem readNames?_eq_some_iff {separator text : String} (nonempty : separator ≠ "")
    (apart : separator.toList.head? ≠ some dialect.quoteMark) {names : List String} :
    dialect.readNames? separator text = some names ↔
      text = separator.intercalate (names.map dialect.quote) := by
  have quoted : ∀ names : List String, (names.map dialect.quote).map String.toList =
      (names.map String.toList).map (Text.Quoted.encode dialect.quoteMark) := by
    intro names
    simp [quote, Function.comp_def]
  have written : separator.toList ≠ [] := by simpa using nonempty
  rw [← String.toList_inj, String.toList_intercalate, quoted,
    ← Text.Quoted.readNames?_eq_some_iff written apart, readNames?, Option.map_eq_some_iff]
  constructor
  · rintro ⟨names, read, rfl⟩
    simpa [Function.comp_def] using read
  · intro read
    exact ⟨_, read, by simp [Function.comp_def]⟩

/-- A quoted name in front of a text that does not go on with a mark is told
apart from every other. -/
theorem quote_append_inj {name other rest behind : String}
    (closed : rest.toList.head? ≠ some dialect.quoteMark)
    (ended : behind.toList.head? ≠ some dialect.quoteMark)
    (same : dialect.quote name ++ rest = dialect.quote other ++ behind) :
    name = other ∧ rest = behind := by
  have read := readName?_eq_some_iff.mpr ⟨same, ended⟩
  rw [readName?_eq_some_iff.mpr ⟨rfl, closed⟩] at read
  exact Prod.mk.inj (Option.some.inj read)

theorem quote_injective (dialect : Dialect) : Function.Injective dialect.quote := by
  intro name other same
  have ended : "".toList.head? ≠ some dialect.quoteMark := (Option.some_ne_none _).symm
  exact (quote_append_inj ended ended (congrArg (· ++ "") same)).1

end Dialect

/-- A quoted name in front of a text that does not go on with a mark is read
back, and exactly that text is left; nothing else is read as a name.  So no two
names are quoted alike, even if more text follows, and names with a separator
between any two, which must not be empty or start with a mark, are read back as
the one list that is written in this way. -/
theorem Dialect.quote_invertible (dialect : Dialect) :
    (∀ name rest : String, rest.toList.head? ≠ some dialect.quoteMark →
      dialect.readName? (dialect.quote name ++ rest) = some (name, rest)) ∧
    (∀ text name rest : String, dialect.readName? text = some (name, rest) →
      text = dialect.quote name ++ rest ∧ rest.toList.head? ≠ some dialect.quoteMark) ∧
    (∀ name other rest behind : String, rest.toList.head? ≠ some dialect.quoteMark →
      behind.toList.head? ≠ some dialect.quoteMark →
        dialect.quote name ++ rest = dialect.quote other ++ behind →
          name = other ∧ rest = behind) ∧
    Function.Injective dialect.quote ∧
    ∀ separator : String, separator ≠ "" →
      separator.toList.head? ≠ some dialect.quoteMark →
        (∀ (text : String) (names : List String),
          dialect.readNames? separator text = some names ↔
            text = separator.intercalate (names.map dialect.quote)) ∧
        ∀ names others : List String,
          separator.intercalate (names.map dialect.quote) =
            separator.intercalate (others.map dialect.quote) → names = others := by
  refine ⟨?_, ?_, ?_, dialect.quote_injective, ?_⟩
  · intro name rest closed
    exact readName?_eq_some_iff.mpr ⟨rfl, closed⟩
  · intro text name rest read
    exact readName?_eq_some_iff.mp read
  · intro name other rest behind closed ended same
    exact quote_append_inj closed ended same
  · intro separator nonempty apart
    constructor
    · intro text names
      exact readNames?_eq_some_iff nonempty apart
    · intro names others same
      have read := (readNames?_eq_some_iff nonempty apart).mpr same
      rw [(readNames?_eq_some_iff nonempty apart).mpr rfl] at read
      exact Option.some.inj read

/-- A name that ends in marks, and a name that looks like two names. -/
theorem Dialect.quote_invertible_sample :
    (", b".toList.head? ≠ some '"' ∧
      Dialect.postgres.readName? ("\"\"\"a\"\"\"\"\"" ++ ", b") =
        some ("\"a\"\"", ", b")) ∧
    (", " ≠ "" ∧ ", ".toList.head? ≠ some '"' ∧
      Dialect.postgres.readNames? ", " "\"a\"\", \"\"b\", \"\"" = some ["a\", \"b", ""] ∧
      ∀ others : List String,
        "\"a\"\", \"\"b\", \"\"" = ", ".intercalate (others.map Dialect.postgres.quote) →
          ["a\", \"b", ""] = others) := by
  have closed : ", b".toList.head? ≠ some '"' := by decide
  have apart : ", ".toList.head? ≠ some '"' := by decide
  have written : "\"a\"\", \"\"b\", \"\"" =
      ", ".intercalate (["a\", \"b", ""].map Dialect.postgres.quote) := rfl
  obtain ⟨reads, -, -, -, rows⟩ := Dialect.quote_invertible .postgres
  obtain ⟨exact_rows, unique⟩ := rows ", " (by decide) apart
  refine ⟨⟨closed, reads "\"a\"\"" ", b" closed⟩, by decide, apart, ?_, ?_⟩
  · exact (exact_rows _ _).mpr written
  · intro others same
    exact unique _ others (written.symm.trans same)

end ParamSql

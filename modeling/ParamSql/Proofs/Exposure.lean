import ParamSql.Proofs.Containment
import ParamSql.Proofs.Spelling

/-!
# What a column adds to a statement

Where placeholders are named, the text of a statement is its template with the
bound columns spelled out in its places.  In every template a place is followed
by a character that goes on no plain word.

The main statement says for which columns the two readings of the text find what
was written.  The quoted names and the last semicolon are found exactly if no
bound column has a mark or a semicolon in it, and the placeholders exactly if
every bound column is a plain word.
-/

namespace ParamSql

open Sign (chars commas names places isWordChar Spaced)

/-! ## Ends of placeholders in templates -/

open Sign (Delimited Delimiting delimited_append delimited_intercalate_map delimited_place
  delimited_of_places_nil delimiting_chars delimiting_chars_append delimiting_nil)

theorem Sign.delimited_commas_map {α β : Type} {write : β → List (Sign α)}
    (delimited : ∀ b, Delimited (write b)) (list : List β) :
    Delimited (commas (list.map write)) :=
  delimited_intercalate_map rfl delimited list

open Sign (delimited_commas_map)

theorem Test.delimited_template (test : Test) : Delimited test.template := by
  cases test with
  | comparison p => exact delimited_append (Sign.places_chars _) (delimited_place p.value)
  | pattern p => exact delimited_append (Sign.places_chars _) (delimited_place p.pattern)
  | membership p =>
      have values := (delimited_commas_map delimited_place p.values).append
        (delimiting_chars ")" rfl)
      rw [Test.template, List.append_assoc]
      exact delimited_append (Sign.places_chars _) values

theorem Link.delimited_template (link : Link Test) : Delimited link.template := by
  cases link with
  | predicate p => exact p.delimited_template
  | connective c => exact delimited_of_places_nil (Sign.places_chars c.word)

theorem Chain.delimiting_whereTemplate (chain : Chain Test) :
    Delimiting chain.whereTemplate := by
  cases chain with
  | nil => exact delimiting_nil
  | cons link rest =>
      apply delimiting_chars_append _ rfl
      exact delimited_intercalate_map rfl Link.delimited_template (link :: rest)

theorem delimited_rowTemplate (row : List Value) : Delimited (rowTemplate row) := by
  have values := (delimited_commas_map delimited_place row).append (delimiting_chars ")" rfl)
  rw [rowTemplate, List.append_assoc]
  exact delimited_append (Sign.places_chars _) values

theorem delimited_assignmentTemplate (entry : String × Value) :
    Delimited (assignmentTemplate entry) :=
  delimited_place entry.2

theorem delimited_namesTemplate (names : List String) : Delimited (namesTemplate names) :=
  delimited_commas_map (fun _ => delimited_of_places_nil rfl) names

theorem delimited_columnTemplate (column : String) : Delimited (columnTemplate column) := by
  rw [columnTemplate]
  split <;> exact delimited_of_places_nil rfl

theorem delimiting_returningTemplate (returning : Option Returning) :
    Delimiting (returningTemplate returning) := by
  rcases returning with _ | (_ | names)
  · exact delimiting_nil
  · exact delimiting_chars _ rfl
  · exact delimiting_chars_append _ rfl (delimited_namesTemplate names)

theorem delimiting_orderTemplate (order : Option SortKey) : Delimiting (orderTemplate order) := by
  cases order with
  | none => exact delimiting_nil
  | some key =>
      exact delimiting_chars_append _ rfl (delimited_of_places_nil (Sign.places_chars _))

theorem delimiting_boundTemplate (opening : String)
    (delimiter : Sign.isDelimiter opening = true) (bound : Option Int64) :
    Delimiting (boundTemplate opening bound) := by
  cases bound with
  | none => exact delimiting_nil
  | some count => exact delimiting_chars_append opening delimiter (delimited_place _)

namespace NormalForm

/-- No plain word goes on behind a parameter. -/
theorem delimited_body (normal : NormalForm) : Delimited normal.body := by
  cases normal with
  | insert table columns rows returning =>
      have values := (delimited_commas_map delimited_rowTemplate rows).append
        (delimiting_returningTemplate returning)
      have listed := (delimited_namesTemplate columns).append
        (delimiting_chars_append ") VALUES " rfl values)
      simp only [body, List.append_assoc]
      exact delimited_append (Sign.places_chars _) listed
  | select table columns condition order limit offset =>
      have bounds := (delimiting_boundTemplate " LIMIT " rfl limit).append
        (delimiting_boundTemplate " OFFSET " rfl offset)
      have clauses := condition.delimiting_whereTemplate.append
        ((delimiting_orderTemplate order).append bounds)
      have source : Delimited (table.template ++ _) := delimited_append rfl clauses.delimited
      have listed := (delimited_commas_map delimited_columnTemplate columns).append
        (delimiting_chars_append " FROM " rfl source)
      simp only [body, List.append_assoc]
      exact delimited_append (Sign.places_chars _) listed
  | update table assignments condition returning =>
      have clauses := condition.delimiting_whereTemplate.append
        (delimiting_returningTemplate returning)
      have set := (delimited_commas_map delimited_assignmentTemplate assignments).append clauses
      have behind : Delimited (table.template ++ (chars " SET " ++ _)) :=
        delimited_append rfl (delimited_append (Sign.places_chars _) set)
      simp only [body, List.append_assoc]
      exact delimited_append (Sign.places_chars _) behind
  | delete table condition returning =>
      have clauses := condition.delimiting_whereTemplate.append
        (delimiting_returningTemplate returning)
      have behind : Delimited (table.template ++ _) := delimited_append rfl clauses.delimited
      simp only [body, List.append_assoc]
      exact delimited_append (Sign.places_chars _) behind

end NormalForm

/-! ## Compiled statements -/

/-- A text in which the quoted names are the given ones, in order, and which
has one semicolon outside of them, its last character. -/
def Encloses (mark : Char) (text : List Char) (listed : List String) : Prop :=
  ∃ before, Sign.split? mark text = some (before ++ [Sign.char ';']) ∧
    names before = listed ∧ Sign.char ';' ∉ before

/-- Spaced signs without a mark are read from their text with a semicolon
behind it. -/
theorem Sign.split?_spell_semicolon {mark : Char} (other : mark ≠ ';') {allowed : Char → Bool}
    {signs : List (Sign Empty)} (spaced : Spaced allowed signs) (no_mark : Sign.char mark ∉ signs) :
    Sign.split? mark ((signs ++ [Sign.char ';']).flatMap (Sign.spell mark)) =
      some (signs ++ [Sign.char ';']) := by
  have apart : Spaced (· ≠ mark) signs := by
    apply spaced.of_mem
    intro c member
    apply decide_eq_true
    rintro rfl
    exact no_mark member
  have ending : Spaced (· ≠ mark) [(Sign.char ';' : Sign Empty)] :=
    ⟨decide_eq_true (Ne.symm other), trivial⟩
  exact Sign.split?_spell (apart.append ending trivial)

/-- The text of spaced signs with a semicolon behind them encloses their names
exactly if neither a mark nor a further semicolon is among them. -/
theorem encloses_spell_iff {mark : Char} (other : mark ≠ ';') {allowed : Char → Bool}
    {signs : List (Sign Empty)} (spaced : Spaced allowed signs) :
    Encloses mark ((signs ++ [Sign.char ';']).flatMap (Sign.spell mark)) (names signs) ↔
      Sign.char mark ∉ signs ∧ Sign.char ';' ∉ signs := by
  constructor
  · rintro ⟨before, read, same, clean⟩
    have no_mark : Sign.char mark ∉ signs := by
      have absent := Sign.mark_not_mem_of_split? read (by simp [same])
      exact fun member => absent (List.mem_append_left _ member)
    have equal := (Sign.split?_spell_semicolon other spaced no_mark).symm.trans read
    obtain rfl := List.append_cancel_right (Option.some.inj equal)
    exact ⟨no_mark, clean⟩
  · rintro ⟨no_mark, clean⟩
    exact ⟨signs, Sign.split?_spell_semicolon other spaced no_mark, rfl, clean⟩

namespace Statement

/-- The template of a statement without the semicolon that ends it, with the
bound columns in its places. -/
def columnBody (table : QualifiedName) (statement : Statement) : List (Sign String) :=
  Sign.label (statement.bindings.map Prod.fst) (statement.normalForm table).body

variable {table : QualifiedName} {statement : Statement} {command : Command}

theorem names_columnBody : names (statement.columnBody table) = statement.identifiers table := by
  rw [← names_template, columnBody, NormalForm.template]
  simp

/-- The places take the bound columns in order. -/
theorem places_columnBody {dialect : Dialect}
    (compiled : statement.compile dialect table = .ok command) :
    places (statement.columnBody table) = statement.bindings.map Prod.fst := by
  apply Sign.places_label
  have given := places_of_compile compiled
  obtain ⟨clauses, valid, rfl⟩ := compile_eq_ok_iff.mp compiled
  rw [NormalForm.template, Sign.places_append, Sign.places_chars, List.append_nil] at given
  simp [given]

/-- With named placeholders, the text of a statement is its template with the
bound columns spelled out. -/
theorem spell_of_compile (compiled : statement.compile .named table = .ok command) :
    command.sql.toList =
      ((statement.columnBody table).flatMap (Sign.expand '$') ++ [Sign.char ';']).flatMap
        (Sign.spell '"') := by
  have template : Sign.label (statement.bindings.map Prod.fst)
      (statement.normalForm table).template = statement.columnBody table ++ [Sign.char ';'] :=
    Sign.label_append_char _ _ ';'
  have ending : [Sign.char ';'].flatMap (Sign.expand '$') = [Sign.char ';'] := rfl
  obtain ⟨clauses, valid, rfl⟩ := compile_eq_ok_iff.mp compiled
  have single : Dialect.named.sigil = '$'.toString := rfl
  have spelled := Fragment.spell_label rfl single (Dialect.startIndex .named)
    (clauses.statement table)
  rw [bindings_statement valid, signs_statement valid, template, List.flatMap_append,
    ending] at spelled
  exact spelled.symm

/-- A fixed word stands behind every name and every place. -/
theorem spaced_columnBody : Spaced isWordChar (statement.columnBody table) :=
  (statement.normalForm table).spaced_body.label _

/-- A character of no fixed word stays within the names exactly if it is in no
bound column. -/
theorem char_not_mem_expand_columnBody_iff
    (compiled : statement.compile .named table = .ok command) {c : Char}
    (no_word : isWordChar c = false) (no_sigil : c ≠ '$') :
    Sign.char c ∉ (statement.columnBody table).flatMap (Sign.expand '$') ↔
      ∀ binding ∈ statement.bindings, c ∉ binding.1.toList := by
  have unused : Sign.char c ∉ statement.columnBody table := by
    intro member
    rw [spaced_columnBody.allowed_of_mem member] at no_word
    contradiction
  rw [Sign.char_not_mem_expand_iff no_sigil unused, places_columnBody compiled,
    List.forall_mem_map]

/-- Exactly if no bound column has a mark or a semicolon in it, the quoted names
of a statement are those of the description and the only semicolon outside of
them ends the text. -/
theorem encloses_iff (compiled : statement.compile .named table = .ok command) :
    Encloses '"' command.sql.toList (statement.identifiers table) ↔
      ∀ binding ∈ statement.bindings, '"' ∉ binding.1.toList ∧ ';' ∉ binding.1.toList := by
  have listed : names ((statement.columnBody table).flatMap (Sign.expand '$')) =
      statement.identifiers table := by
    rw [Sign.names_expand, names_columnBody]
  rw [spell_of_compile compiled, ← listed, encloses_spell_iff (by decide) spaced_columnBody.expand,
    char_not_mem_expand_columnBody_iff compiled rfl (by decide),
    char_not_mem_expand_columnBody_iff compiled rfl (by decide)]
  exact forall₂_and.symm

/-- Exactly if all bound columns are plain words, the placeholders of a
statement are those of its parameters, between the fixed words of its template
and the names of the description. -/
theorem placed_iff (compiled : statement.compile .named table = .ok command) :
    (Sign.split? '"' command.sql.toList).map (Sign.placed '$') =
        some (statement.columnBody table ++ [Sign.char ';']) ↔
      ∀ binding ∈ statement.bindings, ∀ c ∈ binding.1.toList, Sign.isNameChar c = true := by
  have listed := places_columnBody compiled
  constructor
  · intro read binding member
    obtain ⟨found, -, placed⟩ := Option.map_eq_some_iff.mp read
    apply Sign.isNameChar_of_mem_places
    rw [placed, Sign.places_append, listed]
    exact List.mem_append_left _ (List.mem_map_of_mem member)
  · intro plain
    have no_mark : Sign.char '"' ∉ (statement.columnBody table).flatMap (Sign.expand '$') := by
      apply (char_not_mem_expand_columnBody_iff compiled rfl (by decide)).mpr
      intro binding member inside
      exact absurd (plain binding member '"' inside) (by decide)
    have no_sigil : Sign.char '$' ∉ statement.columnBody table ++ [Sign.char ';'] := by
      intro member
      rcases List.mem_append.mp member with inside | ending
      · exact absurd (spaced_columnBody.allowed_of_mem inside) (by decide)
      · simp at ending
    have delimited : Sign.Delimited (statement.columnBody table ++ [Sign.char ';']) :=
      ((statement.normalForm table).delimited_body.label _).append ⟨trivial, rfl⟩
    have words : ∀ word ∈ places (statement.columnBody table ++ [Sign.char ';']),
        ∀ c ∈ word.toList, Sign.isNameChar c = true := by
      rw [Sign.places_append, listed]
      simpa using plain
    have placed := Sign.placed_expand rfl no_sigil delimited words
    rw [List.flatMap_append] at placed
    rw [spell_of_compile compiled,
      Sign.split?_spell_semicolon (by decide) spaced_columnBody.expand no_mark]
    exact congrArg some placed

/-- With named placeholders the columns that are bound stand in the text as they
are.  The quoted names are those of the description, and one semicolon is
outside of them, the last character, exactly if no bound column has a mark or a
semicolon in it.  Between the names there are the fixed words of the statement
and the placeholders of its parameters, and nothing else, exactly if all bound
columns are plain words.  What the other names are does not matter. -/
theorem compile_enclosed (compiled : statement.compile .named table = .ok command) :
    (Encloses '"' command.sql.toList (statement.identifiers table) ↔
        ∀ binding ∈ statement.bindings, '"' ∉ binding.1.toList ∧ ';' ∉ binding.1.toList) ∧
      ((Sign.split? '"' command.sql.toList).map (Sign.placed '$') =
          some (statement.columnBody table ++ [Sign.char ';']) ↔
        ∀ binding ∈ statement.bindings, ∀ c ∈ binding.1.toList, Sign.isNameChar c = true) ∧
      names (statement.columnBody table) = statement.identifiers table ∧
      places (statement.columnBody table) = statement.bindings.map Prod.fst :=
  ⟨encloses_iff compiled, placed_iff compiled, names_columnBody, places_columnBody compiled⟩

end Statement

/-- A select with awkward names, the bound one of which is a plain word. -/
def Select.awkward : Select where
  columns := ["na\"me;"]
  restriction := { filter := some (.chain [.predicate ⟨"id", .equal, .int 1⟩]) }
  order := some { column := "$1; --" }

/-- Both readings of its text find what was written. -/
theorem Statement.compile_enclosed_sample :
    (Statement.select .awkward).compile .named ⟨"s", "t"⟩ = .ok {
        verb := .select
        sql := "SELECT \"na\"\"me;\" FROM \"s\".\"t\" WHERE \"id\"=$id ORDER BY \"$1; --\" ASC;"
        params := [.int 1] } ∧
      Encloses '"'
        "SELECT \"na\"\"me;\" FROM \"s\".\"t\" WHERE \"id\"=$id ORDER BY \"$1; --\" ASC;".toList
        ["na\"me;", "s", "t", "id", "$1; --"] ∧
      (Sign.split? '"'
          ("SELECT \"na\"\"me;\" FROM \"s\".\"t\" WHERE \"id\"=$id " ++
            "ORDER BY \"$1; --\" ASC;").toList).map (Sign.placed '$') =
        some (chars "SELECT " ++ .name "na\"me;" :: (chars " FROM " ++
          .name "s" :: .char '.' :: .name "t" :: (chars " WHERE " ++
            .name "id" :: .char '=' :: .place "id" :: (chars " ORDER BY " ++
              .name "$1; --" :: chars " ASC;")))) := by
  have compiled : (Statement.select .awkward).compile .named ⟨"s", "t"⟩ = .ok {
      verb := .select
      sql := _
      params := [.int 1] } := rfl
  have bound : (Statement.select .awkward).bindings = [("id", .int 1)] := rfl
  obtain ⟨encloses, placed, -, -⟩ := Statement.compile_enclosed compiled
  rw [bound] at encloses placed
  exact ⟨compiled, encloses.mpr (by simp), placed.mpr (by simp; decide)⟩

/-- A select that binds a column with a semicolon in it. -/
def Select.broken : Select where
  columns := ["x"]
  restriction := { filter := some (.ofRecord (Record.ofList [("a;b", .int 1)])) }

/-- The semicolon of the column ends the statement in the middle. -/
theorem Statement.compile_enclosed_broken :
    (Statement.select .broken).compile .named ⟨"s", "t"⟩ = .ok {
        verb := .select
        sql := "SELECT \"x\" FROM \"s\".\"t\" WHERE \"a;b\"=$a;b;"
        params := [.int 1] } ∧
      ¬Encloses '"' "SELECT \"x\" FROM \"s\".\"t\" WHERE \"a;b\"=$a;b;".toList
        ["x", "s", "t", "a;b"] := by
  have compiled : (Statement.select .broken).compile .named ⟨"s", "t"⟩ = .ok {
      verb := .select
      sql := _
      params := [.int 1] } := rfl
  have bound : (Statement.select .broken).bindings = [("a;b", .int 1)] := rfl
  constructor
  · exact compiled
  · intro encloses
    have clean := (Statement.encloses_iff compiled).mp encloses
    rw [bound] at clean
    simp at clean

end ParamSql

import Mathlib.Data.List.TakeWhile
import ParamSql.Proofs.Scanner

/-!
# Placeholders that are spelled out

A placeholder that is named after a column has the column in it as it is,
without marks around it.  So a text with such placeholders is read in two
steps: the quoted names are told from the characters between them, then the
placeholders, sigils with a plain word behind them, from the fixed words.

The first step undoes writing as long as no text in a place has a mark in it,
and a reading with the right names shows that none has.  The second step needs
that the texts are plain words and that none goes on behind its place.
-/

namespace ParamSql

open Sign (chars names places Spaced StartsWithChar)

/-! ## Quoted names in a text -/

namespace Sign

/-- Read a text as quoted names and the characters between them; a quoted name
must be closed. -/
def split? (mark : Char) (text : List Char) : Option (List (Sign Empty)) :=
  match text with
  | [] => some []
  | c :: rest =>
      if c = mark then
        match _ : Text.Quoted.readBody? mark rest with
        | none => none
        | some (n, after) => (split? mark after).map (name (String.ofList n) :: ·)
      else (split? mark rest).map (char c :: ·)
termination_by text.length
decreasing_by
  · have shorter := Text.Quoted.length_lt_of_readBody? ‹_›
    rw [List.length_cons]
    omega
  · exact Nat.lt_succ_self _

/-- The characters of a sign between marks. -/
def spell (mark : Char) : Sign Empty → List Char
  | char c => [c]
  | name n => Text.Quoted.encode mark n.toList

variable {mark : Char}

theorem split?_cons_of_ne {c : Char} (other : c ≠ mark) (rest : List Char) :
    split? mark (c :: rest) = (split? mark rest).map (char c :: ·) := by
  rw [split?, if_neg other]

theorem split?_mark_cons {rest n after : List Char}
    (read : Text.Quoted.readBody? mark rest = some (n, after)) :
    split? mark (mark :: rest) = (split? mark after).map (name (String.ofList n) :: ·) := by
  rw [split?, if_pos rfl]
  split
  · next absent => rw [absent] at read; contradiction
  · next other behind found =>
      rw [found] at read
      obtain ⟨rfl, rfl⟩ := Prod.mk.inj (Option.some.inj read)
      rfl

/-- What is read from a text is spelled like the text, and no mark is left
between the names. -/
theorem spell_of_split? {text : List Char} {signs : List (Sign Empty)}
    (read : split? mark text = some signs) :
    signs.flatMap (spell mark) = text ∧ char mark ∉ signs := by
  induction text using split?.induct mark generalizing signs with
  | case1 =>
      rw [split?] at read
      obtain rfl := Option.some.inj read
      simp
  | case2 rest absent =>
      rw [split?, if_pos rfl] at read
      split at read
      · contradiction
      · next found => rw [found] at absent; contradiction
  | case3 rest n after found ih =>
      rw [split?_mark_cons found] at read
      obtain ⟨later, behind, rfl⟩ := Option.map_eq_some_iff.mp read
      obtain ⟨spelled, clean⟩ := ih behind
      constructor
      · rw [(Text.Quoted.eq_of_readBody? found).1, List.flatMap_cons, spelled]
        simp [spell, Text.Quoted.encode]
      · simpa using clean
  | case4 c rest other ih =>
      rw [split?_cons_of_ne other] at read
      obtain ⟨later, behind, rfl⟩ := Option.map_eq_some_iff.mp read
      obtain ⟨spelled, clean⟩ := ih behind
      constructor
      · rw [List.flatMap_cons, spelled]
        rfl
      · simpa [Ne.symm other] using clean

/-- No mark follows a name in a spaced row. -/
theorem head?_spell_ne {signs : List (Sign Empty)} (start : StartsWithChar signs)
    (spaced : Spaced (· ≠ mark) signs) : (signs.flatMap (spell mark)).head? ≠ some mark := by
  cases signs with
  | nil => simp
  | cons sign rest =>
      cases sign with
      | char c => simpa [spell] using of_decide_eq_true spaced.1
      | name n => exact start.elim
      | place content => exact content.elim

/-- Reading takes back spaced signs. -/
theorem split?_spell {signs : List (Sign Empty)} (spaced : Spaced (· ≠ mark) signs) :
    split? mark (signs.flatMap (spell mark)) = some signs := by
  induction signs with
  | nil => rw [List.flatMap_nil, split?]
  | cons sign rest ih =>
      cases sign with
      | char c =>
          rw [List.flatMap_cons, spell, List.singleton_append,
            split?_cons_of_ne (of_decide_eq_true spaced.1), ih spaced.2, Option.map_some]
      | name n =>
          have closed := Text.Quoted.readBody?_double mark n.toList
            (head?_spell_ne spaced.1 spaced.2)
          rw [List.flatMap_cons, spell, Text.Quoted.encode, List.cons_append, List.append_assoc,
            List.singleton_append, split?_mark_cons closed, ih spaced.2, Option.map_some,
            String.ofList_toList]
      | place content => exact content.elim

/-- The marks of a text are those between its names and those of the quoted
names. -/
theorem count_spell (signs : List (Sign Empty)) :
    (signs.flatMap (spell mark)).count mark =
      signs.count (char mark) +
        ((names signs).flatMap fun n => Text.Quoted.encode mark n.toList).count mark := by
  induction signs with
  | nil => rfl
  | cons sign rest ih =>
      rw [List.flatMap_cons, List.count_append, ih]
      cases sign with
      | char c =>
          by_cases equal : c = mark
          · simp [spell, equal]
            omega
          · simp [spell, equal]
      | name n =>
          simp [spell]
          omega
      | place content => exact content.elim

/-- A row of signs with the names that are read from its text has no mark
between them. -/
theorem mark_not_mem_of_split? {signs found : List (Sign Empty)}
    (read : split? mark (signs.flatMap (spell mark)) = some found)
    (same : names found = names signs) : char mark ∉ signs := by
  obtain ⟨spelled, clean⟩ := spell_of_split? read
  have marks := congrArg (List.count mark) spelled
  rw [count_spell, count_spell, same, List.count_eq_zero_of_not_mem clean] at marks
  apply List.count_eq_zero.mp
  omega

/-! ## Templates with texts in their places -/

variable {α : Type}

/-- A row of signs with texts for its places, from left to right; where they
are too few, the places stay empty. -/
def label : List String → List (Sign α) → List (Sign String)
  | _, [] => []
  | texts, char c :: rest => char c :: label texts rest
  | texts, name n :: rest => name n :: label texts rest
  | texts, place _ :: rest => place (texts.headD "") :: label texts.tail rest

@[simp]
theorem label_chars_append (texts : List String) (text : String) (rest : List (Sign α)) :
    label texts (chars text ++ rest) = chars text ++ label texts rest := by
  rw [chars, chars]
  induction text.toList with
  | nil => rfl
  | cons c cs ih => simp [label, ih]

theorem label_append_char (texts : List String) (signs : List (Sign α)) (c : Char) :
    label texts (signs ++ [char c]) = label texts signs ++ [char c] := by
  induction signs generalizing texts with
  | nil => rfl
  | cons sign rest ih => cases sign <;> simp [label, ih]

@[simp]
theorem names_label (texts : List String) (signs : List (Sign α)) :
    names (label texts signs) = names signs := by
  induction signs generalizing texts with
  | nil => rfl
  | cons sign rest ih => cases sign <;> simp [label, ih]

/-- As many texts as there are places all find one. -/
theorem places_label {texts : List String} {signs : List (Sign α)}
    (count : (places signs).length = texts.length) : places (label texts signs) = texts := by
  induction signs generalizing texts with
  | nil => exact (List.length_eq_zero_iff.mp count.symm).symm
  | cons sign rest ih =>
      cases sign with
      | char c => exact ih count
      | name n => exact ih count
      | place content =>
          cases texts with
          | nil => simp at count
          | cons text later => simpa [label] using ih (by simpa using count)

theorem startsWithChar_label {texts : List String} {signs : List (Sign α)}
    (start : StartsWithChar signs) : StartsWithChar (label texts signs) := by
  cases signs with
  | nil => trivial
  | cons sign rest => cases sign <;> exact start

/-- Whether signs are spaced does not depend on what the places hold. -/
theorem Spaced.label {allowed : Char → Bool} {signs : List (Sign α)}
    (spaced : Spaced allowed signs) (texts : List String) :
    Spaced allowed (Sign.label texts signs) := by
  induction signs generalizing texts with
  | nil => trivial
  | cons sign rest ih =>
      cases sign with
      | char c => exact ⟨spaced.1, ih spaced.2 texts⟩
      | name n => exact ⟨startsWithChar_label spaced.1, ih spaced.2 texts⟩
      | place content => exact ⟨startsWithChar_label spaced.1, ih spaced.2 texts.tail⟩

/-! ## Placeholders that are spelled out -/

/-- A sign with the placeholder spelled out: the sigil and the text of the
place. -/
def expand (sigil : Char) : Sign String → List (Sign Empty)
  | char c => [char c]
  | name n => [name n]
  | place text => char sigil :: chars text

variable {sigil : Char}

theorem expand_chars (text : String) : (chars text).flatMap (expand sigil) = chars text := by
  rw [chars, chars, List.flatMap_map]
  exact List.map_eq_flatMap.symm

theorem spell_chars (text : String) : (chars text).flatMap (spell mark) = text.toList := by
  simp [chars, List.flatMap_map, spell]

@[simp]
theorem names_expand (signs : List (Sign String)) :
    names (signs.flatMap (expand sigil)) = names signs := by
  induction signs with
  | nil => rfl
  | cons sign rest ih => cases sign <;> simp [expand, ih]

/-- The characters between the names are those of the fixed words, the sigils
and the characters of the texts. -/
theorem char_mem_expand_iff {c : Char} {signs : List (Sign String)} :
    char c ∈ signs.flatMap (expand sigil) ↔
      char c ∈ signs ∨ ∃ text ∈ places signs, c = sigil ∨ c ∈ text.toList := by
  induction signs with
  | nil => simp
  | cons sign rest ih =>
      rw [List.flatMap_cons, List.mem_append, ih]
      cases sign with
      | char d => simp [expand, or_assoc]
      | name n => simp [expand]
      | place text =>
          simp only [expand, chars, List.mem_cons, char.injEq, List.mem_map, reduceCtorEq,
            false_or, places_place_cons, exists_eq_or_imp, exists_eq_right]
          exact or_left_comm

/-- A character that is neither in the fixed words nor the sigil can only come
from the texts. -/
theorem char_not_mem_expand_iff {c : Char} (other : c ≠ sigil) {signs : List (Sign String)}
    (unused : char c ∉ signs) :
    char c ∉ signs.flatMap (expand sigil) ↔ ∀ text ∈ places signs, c ∉ text.toList := by
  rw [char_mem_expand_iff]
  simp [unused, other]

theorem startsWithChar_expand {signs : List (Sign String)} (start : StartsWithChar signs) :
    StartsWithChar (signs.flatMap (expand sigil)) := by
  cases signs with
  | nil => trivial
  | cons sign rest =>
      cases sign with
      | char c => trivial
      | name n => exact start.elim
      | place text => exact start.elim

theorem spaced_map_char_append {cs : List Char} {rest : List (Sign Empty)}
    (spaced : Spaced (fun _ => true) rest) : Spaced (fun _ => true) (cs.map char ++ rest) := by
  induction cs with
  | nil => exact spaced
  | cons c cs ih => exact ⟨rfl, ih⟩

/-- Spelled out, spaced signs are spaced, whatever characters there are then. -/
theorem Spaced.expand {allowed : Char → Bool} {signs : List (Sign String)}
    (spaced : Spaced allowed signs) :
    Spaced (fun _ => true) (signs.flatMap (Sign.expand sigil)) := by
  induction signs with
  | nil => trivial
  | cons sign rest ih =>
      rw [List.flatMap_cons]
      cases sign with
      | char c => exact ⟨rfl, ih spaced.2⟩
      | name n => exact ⟨startsWithChar_expand spaced.1, ih spaced.2⟩
      | place text => exact ⟨rfl, spaced_map_char_append (ih spaced.2)⟩

end Sign

/-- Where placeholders are named, the text of a fragment is its template with
the columns spelled out in its places. -/
theorem Fragment.spell_label {dialect : Dialect} (byColumn : dialect.numbering = .byColumn)
    {sigil : Char} (single : dialect.sigil = sigil.toString) (index : Nat)
    (fragment : Fragment) :
    ((Sign.label (fragment.bindings.map Prod.fst) fragment.signs).flatMap
        (Sign.expand sigil)).flatMap (Sign.spell dialect.quoteMark) =
      (fragment.textAt dialect index).toList := by
  induction fragment generalizing index with
  | nil => rfl
  | cons piece rest ih =>
      cases piece with
      | text text =>
          simp [signs, bindings, ih index, Sign.expand_chars, Sign.spell_chars]
      | identifier name =>
          simp [signs, bindings, Sign.label, Sign.expand, Sign.spell, ih index, Dialect.quote]
      | parameter column value =>
          simp [signs, bindings, Sign.label, Sign.expand, Sign.spell, Sign.spell_chars,
            ih (index + 1), Dialect.placeholder, byColumn, single]

/-! ## Placeholders in a text -/

namespace Sign

variable {α : Type} {sigil : Char}

/-- The characters of which a plain word consists. -/
def isNameChar (c : Char) : Bool :=
  c.isAlphanum || c = '_'

/-- The character that a sign is, if it is one. -/
def char? : Sign α → Option Char
  | char c => some c
  | _ => none

/-- Whether a sign is a character of a plain word. -/
def isNameSign (sign : Sign α) : Bool :=
  sign.char?.any isNameChar

/-- Tell the placeholders from the characters between the names: a sigil and
all of the plain word behind it, which may be empty. -/
def placed (sigil : Char) : List (Sign Empty) → List (Sign String)
  | [] => []
  | char c :: rest =>
      if c = sigil then
        let behind := placed sigil rest
        place (String.ofList ((behind.takeWhile isNameSign).filterMap char?)) ::
          behind.dropWhile isNameSign
      else char c :: placed sigil rest
  | name n :: rest => name n :: placed sigil rest

/-- What stands in the places is a plain word. -/
theorem isNameChar_of_mem_places {signs : List (Sign Empty)} {word : String}
    (member : word ∈ places (placed sigil signs)) : ∀ c ∈ word.toList, isNameChar c = true := by
  induction signs with
  | nil => contradiction
  | cons sign rest ih =>
      cases sign with
      | name n => exact ih member
      | place content => exact content.elim
      | char c =>
          rw [placed] at member
          split at member
          · rcases List.mem_cons.mp member with rfl | later
            · intro c inside
              rw [String.toList_ofList] at inside
              obtain ⟨sign, taken, is_char⟩ := List.mem_filterMap.mp inside
              simpa [isNameSign, is_char] using List.mem_takeWhile_imp taken
            · exact ih (((List.dropWhile_sublist _).filterMap place?).subset later)
          · exact ih member

/-! ## Ends of placeholders -/

/-- A row of signs that does not go on a plain word in front of it. -/
def Delimits : List (Sign α) → Prop
  | char c :: _ => isNameChar c = false
  | _ => True

/-- A row of signs in which no plain word goes on behind a place. -/
def Delimited : List (Sign α) → Prop
  | [] => True
  | place _ :: rest => Delimits rest ∧ Delimited rest
  | _ :: rest => Delimited rest

/-- A row with delimited places that may stand behind everything. -/
structure Delimiting (signs : List (Sign α)) : Prop where
  delimited : Delimited signs
  delimits : Delimits signs

/-- Whether a text starts with a character that is in no plain word. -/
def isDelimiter (text : String) : Bool :=
  text.toList.head?.any fun c => !isNameChar c

theorem Delimits.append {first second : List (Sign α)} (delimits : Delimits first)
    (behind : Delimits second) : Delimits (first ++ second) := by
  cases first with
  | nil => exact behind
  | cons sign rest => cases sign <;> exact delimits

theorem Delimited.append {first second : List (Sign α)} (delimited : Delimited first)
    (behind : Delimiting second) : Delimited (first ++ second) := by
  induction first with
  | nil => exact behind.delimited
  | cons sign rest ih =>
      cases sign with
      | char c => exact ih delimited
      | name n => exact ih delimited
      | place content => exact ⟨delimited.1.append behind.delimits, ih delimited.2⟩

/-- What has no place may stand in front of everything. -/
theorem delimited_append {first second : List (Sign α)} (no_place : places first = [])
    (behind : Delimited second) : Delimited (first ++ second) := by
  induction first with
  | nil => exact behind
  | cons sign rest ih =>
      cases sign with
      | char c => exact ih no_place
      | name n => exact ih no_place
      | place content => contradiction

theorem delimited_of_places_nil {signs : List (Sign α)} (no_place : places signs = []) :
    Delimited signs := by
  rw [← List.append_nil signs]
  exact delimited_append no_place trivial

theorem Delimiting.append {first second : List (Sign α)} (delimiting : Delimiting first)
    (behind : Delimiting second) : Delimiting (first ++ second) :=
  ⟨delimiting.delimited.append behind, delimiting.delimits.append behind.delimits⟩

theorem delimiting_nil : Delimiting ([] : List (Sign α)) :=
  ⟨trivial, trivial⟩

theorem delimited_place (content : α) : Delimited [place content] :=
  ⟨delimiting_nil.delimits, trivial⟩

theorem delimiting_chars_append (text : String) (delimiter : isDelimiter text = true)
    {rest : List (Sign α)} (behind : Delimited rest) : Delimiting (chars text ++ rest) := by
  constructor
  · exact delimited_append (places_chars text) behind
  · rw [isDelimiter] at delimiter
    rw [chars]
    cases cs : text.toList with
    | nil => simp [cs] at delimiter
    | cons c later => simpa [cs, Delimits] using delimiter

theorem delimiting_chars (text : String) (delimiter : isDelimiter text = true) :
    Delimiting (chars text : List (Sign α)) := by
  rw [← List.append_nil (chars text)]
  exact delimiting_chars_append text delimiter trivial

theorem delimited_intercalate {separator : String} (delimiter : isDelimiter separator = true)
    {rows : List (List (Sign α))} (delimited : ∀ row ∈ rows, Delimited row) :
    Delimited ((chars separator).intercalate rows) := by
  induction rows with
  | nil => trivial
  | cons row rest ih =>
      have first := delimited row List.mem_cons_self
      have later := ih fun row member => delimited row (List.mem_cons_of_mem _ member)
      cases rest with
      | nil => rwa [List.intercalate_singleton]
      | cons next rest =>
          rw [List.intercalate_cons_cons, List.append_assoc]
          exact first.append (delimiting_chars_append separator delimiter later)

theorem delimited_intercalate_map {β : Type} {separator : String}
    (delimiter : isDelimiter separator = true) {write : β → List (Sign α)}
    (delimited : ∀ b, Delimited (write b)) (list : List β) :
    Delimited ((chars separator).intercalate (list.map write)) := by
  apply delimited_intercalate delimiter
  intro row member
  obtain ⟨b, -, rfl⟩ := List.mem_map.mp member
  exact delimited b

/-! ## Reading placeholders back -/

theorem delimits_label {texts : List String} {signs : List (Sign α)}
    (delimits : Delimits signs) : Delimits (label texts signs) := by
  cases signs with
  | nil => trivial
  | cons sign rest => cases sign <;> exact delimits

/-- Whether places are delimited does not depend on what they hold. -/
theorem Delimited.label {signs : List (Sign α)} (delimited : Delimited signs)
    (texts : List String) : Delimited (Sign.label texts signs) := by
  induction signs generalizing texts with
  | nil => trivial
  | cons sign rest ih =>
      cases sign with
      | char c => exact ih delimited texts
      | name n => exact ih delimited texts
      | place content => exact ⟨delimits_label delimited.1, ih delimited.2 texts.tail⟩

/-- A plain word is parted from signs that do not go on with it. -/
theorem span_isNameSign {word : String} (plain : ∀ c ∈ word.toList, isNameChar c = true)
    {rest : List (Sign α)} (delimits : Delimits rest) :
    (chars word ++ rest).takeWhile isNameSign = chars word ∧
      (chars word ++ rest).dropWhile isNameSign = rest := by
  have named : ∀ sign ∈ (chars word : List (Sign α)), isNameSign sign = true := by
    intro sign member
    obtain ⟨c, inside, rfl⟩ := List.mem_map.mp member
    exact plain c inside
  rw [List.takeWhile_append_of_pos named, List.dropWhile_append_of_pos named]
  cases rest with
  | nil => simp
  | cons sign later =>
      have stops : isNameSign sign = false := by
        cases sign with
        | char c => exact delimits
        | name n => rfl
        | place content => rfl
      have taken : (sign :: later).takeWhile isNameSign = [] :=
        List.takeWhile_cons_of_neg (by simp [stops])
      rw [taken, List.dropWhile_cons_of_neg (by simp [stops]), List.append_nil]
      exact ⟨rfl, rfl⟩

theorem filterMap_char?_chars (text : String) :
    (chars text : List (Sign α)).filterMap char? = text.toList := by
  rw [chars, List.filterMap_map]
  exact List.filterMap_some

/-- Without a sigil nothing is told from the fixed words. -/
theorem placed_chars_append {text : String} (no_sigil : sigil ∉ text.toList)
    (rest : List (Sign Empty)) :
    placed sigil (chars text ++ rest) = chars text ++ placed sigil rest := by
  rw [chars, chars]
  generalize text.toList = cs at no_sigil
  induction cs with
  | nil => rfl
  | cons c cs ih =>
      obtain ⟨differs, no_later⟩ := not_or.mp (List.mem_cons.not.mp no_sigil)
      rw [List.map_cons, List.cons_append, placed, if_neg (Ne.symm differs), ih no_later]
      rfl

/-- Placeholders that are plain words are told from the fixed words again. -/
theorem placed_expand (no_word : isNameChar sigil = false) {signs : List (Sign String)}
    (no_sigil : char sigil ∉ signs) (delimited : Delimited signs)
    (plain : ∀ word ∈ places signs, ∀ c ∈ word.toList, isNameChar c = true) :
    placed sigil (signs.flatMap (expand sigil)) = signs := by
  induction signs with
  | nil => rfl
  | cons sign rest ih =>
      obtain ⟨differs, no_later⟩ := not_or.mp (List.mem_cons.not.mp no_sigil)
      rw [List.flatMap_cons]
      cases sign with
      | char c =>
          have other : c ≠ sigil := fun equal => differs (congrArg char equal.symm)
          rw [expand, List.singleton_append, placed, if_neg other, ih no_later delimited plain]
      | name n => rw [expand, List.singleton_append, placed, ih no_later delimited plain]
      | place word =>
          obtain ⟨word_plain, later_plain⟩ := List.forall_mem_cons.mp plain
          have no_inside : sigil ∉ word.toList := by
            intro inside
            rw [word_plain sigil inside] at no_word
            contradiction
          obtain ⟨taken, left⟩ := span_isNameSign word_plain delimited.1
          rw [expand, List.cons_append, placed, if_pos rfl, placed_chars_append no_inside,
            ih no_later delimited.2 later_plain]
          simp only [taken, left, filterMap_char?_chars, String.ofList_toList]

end Sign

end ParamSql

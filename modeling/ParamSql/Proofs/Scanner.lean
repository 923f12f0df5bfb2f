import Mathlib.Data.List.Basic
import ParamSql.Proofs.Quotation
import ParamSql.Proofs.Sign

/-!
# Reading the signs of a text

A text in a dialect with numbered placeholders is read from left to right: a
quoted name is taken as a whole, then a sigil with the digits behind it, and
any other character stands for itself.

This undoes writing as long as the signs are spaced, that is, a plain character
stands behind every name and every place.  What the names are does not matter.
-/

namespace ParamSql

/-! ## The scanner -/

namespace Dialect

/-- Read a placeholder: the sigil and the digits behind it, of which there is
at least one. -/
def readPlace? (dialect : Dialect) (text : List Char) : Option (Nat × List Char) :=
  match text.dropPrefix? dialect.sigil.toList with
  | none => none
  | some behind =>
      let digits := behind.takeWhile Char.isDigit
      if digits = [] then none
      else some (Nat.ofDigitChars 10 digits 0, behind.dropWhile Char.isDigit)

/-- Read a sign: a quoted name, else a placeholder, else a character. -/
def readSign? (dialect : Dialect) : List Char → Option (Sign Nat × List Char)
  | [] => none
  | c :: rest =>
      if c = dialect.quoteMark then
        (Text.Quoted.readBody? dialect.quoteMark rest).map fun (name, after) =>
          (.name (String.ofList name), after)
      else match dialect.readPlace? (c :: rest) with
      | some (index, after) => some (.place index, after)
      | none => some (.char c, rest)

theorem length_lt_of_readPlace? {dialect : Dialect} {text after : List Char} {index : Nat}
    (read : dialect.readPlace? text = some (index, after)) : after.length < text.length := by
  rw [readPlace?] at read
  split at read
  · contradiction
  · next behind dropped =>
      rcases List.dropPrefix?_eq_some_iff.mp dropped with ⟨front, rfl, -⟩
      rcases Option.ite_none_left_eq_some.mp read with ⟨some_digit, equal⟩
      rcases Prod.mk.inj (Option.some.inj equal) with ⟨-, rfl⟩
      have parts := congrArg List.length
        (List.takeWhile_append_dropWhile (p := Char.isDigit) (l := behind))
      have taken := List.length_pos_of_ne_nil some_digit
      rw [List.length_append] at parts ⊢
      omega

theorem length_lt_of_readSign? {dialect : Dialect} {text after : List Char} {sign : Sign Nat}
    (read : dialect.readSign? text = some (sign, after)) : after.length < text.length := by
  cases text with
  | nil => contradiction
  | cons c rest =>
      rw [readSign?] at read
      split at read
      · rcases Option.map_eq_some_iff.mp read with ⟨⟨name, behind⟩, found, equal⟩
        rcases Prod.mk.inj equal with ⟨-, rfl⟩
        have shorter := Text.Quoted.length_lt_of_readBody? found
        rw [List.length_cons]
        omega
      · split at read
        · next index behind found =>
            rcases Prod.mk.inj (Option.some.inj read) with ⟨-, rfl⟩
            exact length_lt_of_readPlace? found
        · rcases Prod.mk.inj (Option.some.inj read) with ⟨-, rfl⟩
          rw [List.length_cons]
          omega

/-- Read a text sign by sign; a quoted name must be closed. -/
def scan? (dialect : Dialect) (text : List Char) : Option (List (Sign Nat)) :=
  match text with
  | [] => some []
  | c :: rest =>
      match _ : dialect.readSign? (c :: rest) with
      | none => none
      | some (sign, after) => (scan? dialect after).map (sign :: ·)
termination_by text.length
decreasing_by exact length_lt_of_readSign? ‹_›

theorem scan?_eq_of_readSign? {dialect : Dialect} {text after : List Char} {sign : Sign Nat}
    (read : dialect.readSign? text = some (sign, after)) :
    dialect.scan? text = (dialect.scan? after).map (sign :: ·) := by
  cases text with
  | nil => contradiction
  | cons c rest =>
      rw [scan?]
      split
      · next absent => rw [absent] at read; contradiction
      · next other behind found =>
          rw [found] at read
          rcases Prod.mk.inj (Option.some.inj read) with ⟨rfl, rfl⟩
          rfl

end Dialect

/-! ## Numbered templates and their texts -/

namespace Sign

variable {α : Type}

/-- The characters of a sign. -/
def encode (dialect : Dialect) : Sign Nat → List Char
  | char c => [c]
  | name n => Text.Quoted.encode dialect.quoteMark n.toList
  | place index => dialect.sigil.toList ++ Nat.toDigits 10 index

/-- A template whose places are numbered from an index on. -/
def numberFrom (index : Nat) : List (Sign α) → List (Sign Nat)
  | [] => []
  | char c :: rest => char c :: numberFrom index rest
  | name n :: rest => name n :: numberFrom index rest
  | place _ :: rest => place index :: numberFrom (index + 1) rest

@[simp]
theorem names_numberFrom (index : Nat) (signs : List (Sign α)) :
    names (numberFrom index signs) = names signs := by
  induction signs generalizing index with
  | nil => rfl
  | cons sign rest ih => cases sign <;> simp [numberFrom, ih]

theorem places_numberFrom (index : Nat) (signs : List (Sign α)) :
    places (numberFrom index signs) = List.range' index (places signs).length := by
  induction signs generalizing index with
  | nil => rfl
  | cons sign rest ih => cases sign <;> simp [numberFrom, ih, List.range'_succ]

/-- Numbering keeps the characters of the fixed words. -/
theorem numberFrom_append_char (index : Nat) (signs : List (Sign α)) (c : Char) :
    numberFrom index (signs ++ [char c]) = numberFrom index signs ++ [char c] := by
  induction signs generalizing index with
  | nil => rfl
  | cons sign rest ih => cases sign <;> simp [numberFrom, ih]

end Sign

/-- Where placeholders are numbered, the text of a fragment is its numbered
template. -/
theorem Fragment.encode_numberFrom {dialect : Dialect}
    (numbered : dialect.numbering ≠ .byColumn) (index : Nat) (fragment : Fragment) :
    (Sign.numberFrom index fragment.signs).flatMap (Sign.encode dialect) =
      (fragment.textAt dialect index).toList := by
  have words : ∀ (index : Nat) (cs : List Char) (rest : List (Sign Value)),
      (Sign.numberFrom index (cs.map Sign.char ++ rest)).flatMap (Sign.encode dialect) =
        cs ++ (Sign.numberFrom index rest).flatMap (Sign.encode dialect) := by
    intro index cs rest
    induction cs with
    | nil => rfl
    | cons c cs ih => simp [Sign.numberFrom, Sign.encode, ih]
  have placeholder : ∀ (index : Nat) (column : String),
      (dialect.placeholder index column).toList =
        dialect.sigil.toList ++ Nat.toDigits 10 index := by
    intro index column
    rw [Dialect.placeholder]
    split
    · rw [String.toList_append, Nat.toList_repr]
    · rw [String.toList_append, Nat.toList_repr]
    · contradiction
  induction fragment generalizing index with
  | nil => rfl
  | cons piece rest ih =>
      cases piece with
      | text text => simp [signs, Sign.chars, words, ih]
      | identifier name =>
          simp [signs, Sign.numberFrom, Sign.encode, ih, Dialect.quote]
      | parameter column value =>
          simp [signs, Sign.numberFrom, Sign.encode, ih, placeholder]

/-! ## Spaced signs -/

namespace Sign

variable {α : Type}

/-- The characters of which the fixed words consist. -/
def isWordChar (c : Char) : Bool :=
  c.isAlpha || " ,.()=!<>*".toList.contains c

/-- The characters that stand for themselves: those of the fixed words and the
semicolon that ends a statement. -/
def isPlainChar (c : Char) : Bool :=
  isWordChar c || c = ';'

/-- A text that is not empty and consists of fixed words. -/
def isWords (text : String) : Bool :=
  !text.toList.isEmpty && text.toList.all isWordChar

/-- No letter is a digit. -/
theorem isDigit_of_isAlpha {c : Char} (letter : c.isAlpha = true) : c.isDigit = false := by
  cases digit : c.isDigit with
  | false => rfl
  | true =>
      have below : c.val ≤ '9'.val := of_decide_eq_true (Bool.and_eq_true_iff.mp digit).2
      rcases Bool.or_eq_true_iff.mp letter with upper | lower
      · have above : 'A'.val ≤ c.val := (of_decide_eq_true upper).1
        exact absurd (UInt32.le_trans above below) (by decide)
      · have above : 'a'.val ≤ c.val := of_decide_eq_true (Bool.and_eq_true_iff.mp lower).1
        exact absurd (UInt32.le_trans above below) (by decide)

/-- No plain character is a digit. -/
theorem isDigit_of_isPlainChar {c : Char} (plain : isPlainChar c = true) :
    c.isDigit = false := by
  rcases Bool.or_eq_true_iff.mp plain with word | semicolon
  · rcases Bool.or_eq_true_iff.mp word with letter | mark
    · exact isDigit_of_isAlpha letter
    · have marks : " ,.()=!<>*".toList.all (fun c => !c.isDigit) = true := rfl
      simpa using List.all_eq_true.mp marks c (List.contains_iff_mem.mp mark)
  · obtain rfl := of_decide_eq_true semicolon
    rfl

/-- A row of signs that is empty or starts with a character. -/
def StartsWithChar : List (Sign α) → Prop
  | [] => True
  | char _ :: _ => True
  | _ => False

/-- A row of signs with only allowed characters, in which one of them stands
behind every name and every place, unless that is the last. -/
def Spaced (allowed : Char → Bool) : List (Sign α) → Prop
  | [] => True
  | char c :: rest => allowed c ∧ Spaced allowed rest
  | name _ :: rest => StartsWithChar rest ∧ Spaced allowed rest
  | place _ :: rest => StartsWithChar rest ∧ Spaced allowed rest

theorem StartsWithChar.append {first second : List (Sign α)} (start : StartsWithChar first)
    (behind : StartsWithChar second) : StartsWithChar (first ++ second) := by
  cases first with
  | nil => exact behind
  | cons sign rest => cases sign <;> exact start

theorem startsWithChar_words_append {text : String} (words : isWords text = true)
    (rest : List (Sign α)) : StartsWithChar (chars text ++ rest) := by
  rw [isWords] at words
  cases cs : text.toList with
  | nil => simp [cs] at words
  | cons c later => simp [chars, cs, StartsWithChar]

/-- Fixed words may stand in front of everything. -/
theorem spaced_words_append {text : String} (words : isWords text = true)
    {rest : List (Sign α)} (spaced : Spaced isWordChar rest) :
    Spaced isWordChar (chars text ++ rest) := by
  have allowed := (Bool.and_eq_true_iff.mp words).2
  rw [chars]
  generalize text.toList = cs at allowed
  induction cs with
  | nil => exact spaced
  | cons c cs ih =>
      rw [List.all_cons, Bool.and_eq_true] at allowed
      exact ⟨allowed.1, ih allowed.2⟩

section Spaced

variable {allowed : Char → Bool}

/-- A character must stand between spaced rows that are put together. -/
theorem Spaced.append {first second : List (Sign α)} (spaced : Spaced allowed first)
    (behind : Spaced allowed second) (start : StartsWithChar second) :
    Spaced allowed (first ++ second) := by
  induction first with
  | nil => exact behind
  | cons sign rest ih =>
      cases sign with
      | char c => exact ⟨spaced.1, ih spaced.2⟩
      | name n => exact ⟨spaced.1.append start, ih spaced.2⟩
      | place content => exact ⟨spaced.1.append start, ih spaced.2⟩

/-- Only allowed characters occur. -/
theorem Spaced.allowed_of_mem {signs : List (Sign α)} (spaced : Spaced allowed signs) {c : Char}
    (member : char c ∈ signs) : allowed c = true := by
  induction signs with
  | nil => contradiction
  | cons sign rest ih =>
      rcases List.mem_cons.mp member with rfl | later
      · exact spaced.1
      · cases sign <;> exact ih spaced.2 later

/-- Spaced signs are spaced with any characters that include those that occur. -/
theorem Spaced.of_mem {between : Char → Bool} {signs : List (Sign α)}
    (spaced : Spaced allowed signs) (inside : ∀ c, char c ∈ signs → between c = true) :
    Spaced between signs := by
  induction signs with
  | nil => trivial
  | cons sign rest ih =>
      have later : ∀ c, char c ∈ rest → between c = true :=
        fun c member => inside c (List.mem_cons_of_mem sign member)
      cases sign with
      | char c => exact ⟨inside c List.mem_cons_self, ih spaced.2 later⟩
      | name n => exact ⟨spaced.1, ih spaced.2 later⟩
      | place content => exact ⟨spaced.1, ih spaced.2 later⟩

theorem Spaced.mono {signs : List (Sign α)} (spaced : Spaced allowed signs)
    {more : Char → Bool} (weaker : ∀ c, allowed c = true → more c = true) :
    Spaced more signs :=
  spaced.of_mem fun c member => weaker c (spaced.allowed_of_mem member)

theorem startsWithChar_numberFrom {index : Nat} {signs : List (Sign α)}
    (start : StartsWithChar signs) : StartsWithChar (numberFrom index signs) := by
  cases signs with
  | nil => trivial
  | cons sign rest => cases sign <;> exact start

/-- Whether signs are spaced does not depend on what the places hold. -/
theorem Spaced.numberFrom {signs : List (Sign α)} (spaced : Spaced allowed signs)
    (index : Nat) : Spaced allowed (numberFrom index signs) := by
  induction signs generalizing index with
  | nil => trivial
  | cons sign rest ih =>
      cases sign with
      | char c => exact ⟨spaced.1, ih spaced.2 index⟩
      | name n => exact ⟨startsWithChar_numberFrom spaced.1, ih spaced.2 index⟩
      | place content => exact ⟨startsWithChar_numberFrom spaced.1, ih spaced.2 (index + 1)⟩

end Spaced

/-- A spaced row that may stand behind everything. -/
structure Trailing (signs : List (Sign α)) : Prop where
  spaced : Spaced isWordChar signs
  start : StartsWithChar signs

theorem trailing_nil : Trailing ([] : List (Sign α)) :=
  ⟨trivial, trivial⟩

/-- Fixed words may stand between everything. -/
theorem trailing_words_append (text : String) (words : isWords text = true)
    {rest : List (Sign α)} (spaced : Spaced isWordChar rest) : Trailing (chars text ++ rest) :=
  ⟨spaced_words_append words spaced, startsWithChar_words_append words rest⟩

theorem trailing_words (text : String) (words : isWords text = true) :
    Trailing (chars text : List (Sign α)) := by
  rw [← List.append_nil (chars text)]
  exact trailing_words_append text words trivial

theorem Spaced.append_trailing {first second : List (Sign α)} (spaced : Spaced isWordChar first)
    (behind : Trailing second) : Spaced isWordChar (first ++ second) :=
  spaced.append behind.spaced behind.start

theorem Trailing.append {first second : List (Sign α)} (trailing : Trailing first)
    (behind : Trailing second) : Trailing (first ++ second) :=
  ⟨trailing.spaced.append_trailing behind, trailing.start.append behind.start⟩

theorem Trailing.name_cons {rest : List (Sign α)} (behind : Trailing rest) (name : String) :
    Spaced isWordChar (.name name :: rest) :=
  ⟨behind.start, behind.spaced⟩

theorem spaced_name (name : String) : Spaced isWordChar [(.name name : Sign α)] :=
  trailing_nil.name_cons name

theorem spaced_place (content : α) : Spaced isWordChar [.place content] :=
  ⟨trivial, trivial⟩

/-- Fixed words keep spaced rows apart. -/
theorem spaced_intercalate {separator : String} (words : isWords separator = true)
    {rows : List (List (Sign α))} (spaced : ∀ row ∈ rows, Spaced isWordChar row) :
    Spaced isWordChar ((chars separator).intercalate rows) := by
  induction rows with
  | nil => trivial
  | cons row rest ih =>
      have first := spaced row List.mem_cons_self
      have later := ih fun row member => spaced row (List.mem_cons_of_mem _ member)
      cases rest with
      | nil =>
          rw [List.intercalate_singleton]
          exact first
      | cons next rest =>
          rw [List.intercalate_cons_cons, List.append_assoc]
          exact first.append_trailing (trailing_words_append separator words later)

end Sign

/-! ## Reading back -/

/-- What keeps the quoted names and the placeholders of a dialect apart from
each other and from the fixed words. -/
structure Dialect.Legible (dialect : Dialect) : Prop where
  numbered : dialect.numbering ≠ .byColumn
  mark_not_plain : Sign.isPlainChar dialect.quoteMark = false
  sigil_not_plain : ∃ c rest, dialect.sigil.toList = c :: rest ∧ Sign.isPlainChar c = false
  mark_not_mem : dialect.quoteMark ∉ dialect.sigil.toList
  semicolon_not_mem : ';' ∉ dialect.sigil.toList

theorem Dialect.legible_postgres : Dialect.postgres.Legible where
  numbered := by decide
  mark_not_plain := by decide
  sigil_not_plain := ⟨'$', [], rfl, by decide⟩
  mark_not_mem := by decide
  semicolon_not_mem := by decide

theorem Dialect.legible_positional : Dialect.positional.Legible where
  numbered := by decide
  mark_not_plain := by decide
  sigil_not_plain := ⟨'?', [], rfl, by decide⟩
  mark_not_mem := by decide
  semicolon_not_mem := by decide

namespace Dialect

open Sign (Spaced StartsWithChar isPlainChar)

variable {dialect : Dialect}

/-- The text behind a name or place is empty or goes on with a plain
character. -/
private theorem head?_encode {signs : List (Sign Nat)} (start : StartsWithChar signs)
    (spaced : Spaced isPlainChar signs) :
    ∀ c ∈ (signs.flatMap (Sign.encode dialect)).head?, isPlainChar c = true := by
  cases signs with
  | nil => simp
  | cons sign rest =>
      cases sign with
      | char c =>
          intro d first
          obtain rfl : c = d := by simpa [Sign.encode] using first
          exact spaced.1
      | name n => exact start.elim
      | place index => exact start.elim

/-- A placeholder is read up to its last digit. -/
theorem readPlace?_encode (dialect : Dialect) (index : Nat) {after : List Char}
    (ended : ∀ c ∈ after.head?, c.isDigit = false) :
    dialect.readPlace? (dialect.sigil.toList ++ Nat.toDigits 10 index ++ after) =
      some (index, after) := by
  have digits : ∀ c ∈ Nat.toDigits 10 index, c.isDigit = true := by
    intro c member
    exact Nat.isDigit_of_mem_toDigits (by decide) (by decide) member
  have none_behind : after.takeWhile Char.isDigit = [] ∧ after.dropWhile Char.isDigit = after := by
    cases after with
    | nil => exact ⟨rfl, rfl⟩
    | cons c rest =>
        have other := ended c rfl
        constructor
        · rw [List.takeWhile_cons_of_neg (by simp [other])]
        · rw [List.dropWhile_cons_of_neg (by simp [other])]
  rw [readPlace?, List.append_assoc, List.dropPrefix?_append_of_beq _ (by simp)]
  simp only [List.takeWhile_append_of_pos digits, List.dropWhile_append_of_pos digits,
    none_behind, List.append_nil, Nat.toDigits_ne_nil, if_false, Nat.ofDigitChars_ten_toDigits]

/-- Nothing else than a sigil starts a placeholder. -/
theorem readPlace?_cons_of_isPlainChar (legible : dialect.Legible) {c : Char}
    (plain : isPlainChar c = true) (rest : List Char) : dialect.readPlace? (c :: rest) = none := by
  rcases legible.sigil_not_plain with ⟨d, sigil, equal, other⟩
  have differs : c ≠ d := by
    rintro rfl
    rw [plain] at other
    contradiction
  rw [readPlace?, equal]
  simp [List.dropPrefix?, differs]

/-- Reading takes back one sign, if the text goes on as behind a spaced sign. -/
theorem readSign?_encode_append (legible : dialect.Legible) {sign : Sign Nat}
    {rest : List (Sign Nat)} (spaced : Spaced isPlainChar (sign :: rest)) :
    dialect.readSign?
        (sign.encode dialect ++ rest.flatMap (Sign.encode dialect)) =
      some (sign, rest.flatMap (Sign.encode dialect)) := by
  cases sign with
  | char c =>
      have no_mark : c ≠ dialect.quoteMark := by
        intro equal
        have other := legible.mark_not_plain
        rw [← equal, spaced.1] at other
        contradiction
      rw [Sign.encode, List.singleton_append, readSign?, if_neg no_mark,
        readPlace?_cons_of_isPlainChar legible spaced.1]
  | name n =>
      have closed : (rest.flatMap (Sign.encode dialect)).head? ≠ some dialect.quoteMark := by
        intro mark
        have other := legible.mark_not_plain
        rw [head?_encode spaced.1 spaced.2 _ mark] at other
        contradiction
      rw [Sign.encode, Text.Quoted.encode, List.cons_append, List.append_assoc, readSign?,
        if_pos rfl, List.singleton_append, Text.Quoted.readBody?_double _ _ closed,
        Option.map_some]
      simp only [String.ofList_toList]
  | place index =>
      have ended : ∀ c ∈ (rest.flatMap (Sign.encode dialect)).head?, c.isDigit = false :=
        fun c first => Sign.isDigit_of_isPlainChar (head?_encode spaced.1 spaced.2 c first)
      have read := readPlace?_encode dialect index ended
      rcases legible.sigil_not_plain with ⟨c, sigil, equal, -⟩
      have no_mark : c ≠ dialect.quoteMark := by
        rintro rfl
        exact legible.mark_not_mem (equal ▸ List.mem_cons_self)
      rw [Sign.encode]
      rw [equal, List.cons_append, List.cons_append] at read ⊢
      rw [readSign?, if_neg no_mark, read]

/-- Reading takes back spaced signs. -/
theorem scan?_encode (legible : dialect.Legible) {signs : List (Sign Nat)}
    (spaced : Spaced isPlainChar signs) :
    dialect.scan? (signs.flatMap (Sign.encode dialect)) = some signs := by
  induction signs with
  | nil =>
      rw [List.flatMap_nil, scan?]
  | cons sign rest ih =>
      have later : Spaced isPlainChar rest := by
        cases sign <;> exact spaced.2
      rw [List.flatMap_cons, scan?_eq_of_readSign? (readSign?_encode_append legible spaced),
        ih later, Option.map_some]

end Dialect

end ParamSql

import ParamSql.Proofs.Containment

/-!
# Decoding compiled statements

The signs that are read off a text, with the values of the parameters put at
their places, are decoded into a normal form.  Every reader takes what it
recognizes off the front of a row of signs and leaves the rest.

Two points need a look ahead.  A sign such as `<` is that of a comparison only
if a parameter comes next, since `<=` starts in the same way.  And behind a
predicate the condition goes on only with a name or with a connective and a
blank: `OR` is a connective, `ORDER BY` is a clause.
-/

namespace ParamSql.Decoder

open Sign (chars)

/-- What is read off the front of a row of signs, with the signs behind it. -/
abbrev Reader (α : Type) := List (Sign Value) → Option (α × List (Sign Value))

variable {α : Type}

/-! ## Fixed words, names and parameters -/

/-- Take characters off the front. -/
def stripChars? : List Char → List (Sign Value) → Option (List (Sign Value))
  | [], signs => some signs
  | c :: cs, .char d :: rest => if c = d then stripChars? cs rest else none
  | _ :: _, _ => none

/-- Take fixed words off the front. -/
def strip? (text : String) (signs : List (Sign Value)) : Option (List (Sign Value)) :=
  stripChars? text.toList signs

/-- Read a name. -/
def name : Reader String
  | .name n :: rest => some (n, rest)
  | _ => none

/-- Read the value of a parameter. -/
def value : Reader Value
  | .place v :: rest => some (v, rest)
  | _ => none

theorem strip?_chars_append (text : String) (rest : List (Sign Value)) :
    strip? text (chars text ++ rest) = some rest := by
  have general : ∀ cs : List Char, stripChars? cs (cs.map Sign.char ++ rest) = some rest := by
    intro cs
    induction cs with
    | nil => rfl
    | cons c cs ih => simpa [stripChars?] using ih
  exact general text.toList

/-! ## Runs of elements -/

/-- Read elements as long as there is a further one.  A step reads one element
and tells whether the next one follows.  It must use up signs. -/
def run (step : List (Sign Value) → Option (α × List (Sign Value) × Bool))
    (signs : List (Sign Value)) : Option (List α × List (Sign Value)) :=
  match step signs with
  | none => none
  | some (a, behind, false) => some ([a], behind)
  | some (a, next, true) =>
      if next.length < signs.length then
        (run step next).map fun (list, behind) => (a :: list, behind)
      else none
termination_by signs.length

/-- Read an element and the separator behind it, if there is one. -/
def separated (separator : String) (item : Reader α) (signs : List (Sign Value)) :
    Option (α × List (Sign Value) × Bool) :=
  (item signs).map fun (a, behind) =>
    match strip? separator behind with
    | some next => (a, next, true)
    | none => (a, behind, false)

/-- Read elements with a comma between any two. -/
def list (item : Reader α) : Reader (List α) :=
  run (separated ", " item)

section Run

variable {step : List (Sign Value) → Option (α × List (Sign Value) × Bool)}

theorem run_of_last {signs behind : List (Sign Value)} {a : α}
    (read : step signs = some (a, behind, false)) : run step signs = some ([a], behind) := by
  rw [run, read]

theorem run_of_more {signs next : List (Sign Value)} {a : α}
    (read : step signs = some (a, next, true)) (shorter : next.length < signs.length) :
    run step signs = (run step next).map fun (list, behind) => (a :: list, behind) := by
  rw [run, read]
  exact if_pos shorter

end Run

/-- A list is read back if each of its elements is, whatever may stand behind
it, and no further comma follows. -/
theorem list_commas_append {item : Reader α} {write : α → List (Sign Value)} {elements : List α}
    (nonempty : elements ≠ [])
    (reads : ∀ a ∈ elements, ∀ rest, item (write a ++ rest) = some (a, rest))
    {rest : List (Sign Value)} (ended : strip? ", " rest = none) :
    list item (Sign.commas (elements.map write) ++ rest) = some (elements, rest) := by
  rw [list]
  induction elements with
  | nil => contradiction
  | cons a later ih =>
      cases later with
      | nil =>
          apply run_of_last
          rw [List.map_singleton, Sign.commas, List.intercalate_singleton, separated,
            reads a List.mem_cons_self, Option.map_some]
          simp only [ended]
      | cons b later =>
          have read := ih (List.cons_ne_nil _ _) fun b member =>
            reads b (List.mem_cons_of_mem _ member)
          have layout : Sign.commas ((a :: b :: later).map write) ++ rest =
              write a ++ (chars ", " ++ (Sign.commas ((b :: later).map write) ++ rest)) := by
            simp only [Sign.commas, List.map_cons, List.intercalate_cons_cons, List.append_assoc]
          rw [layout, run_of_more, read]
          · rfl
          · rw [separated, reads a List.mem_cons_self, Option.map_some]
            simp only [strip?_chars_append]
          · simp [chars]
            omega

/-- Names with commas between them are read back. -/
theorem list_name {names : List String} (nonempty : names ≠ []) {rest : List (Sign Value)}
    (ended : strip? ", " rest = none) :
    list name (namesTemplate names ++ rest) = some (names, rest) :=
  list_commas_append nonempty (fun _ _ _ => rfl) ended

/-- Parameters with commas between them are read back. -/
theorem list_value {values : List Value} (nonempty : values ≠ []) {rest : List (Sign Value)}
    (ended : strip? ", " rest = none) :
    list value (Sign.commas (values.map fun v => [.place v]) ++ rest) = some (values, rest) :=
  list_commas_append nonempty (fun _ _ _ => rfl) ended

/-! ## Predicates -/

/-- Read the word of a choice between two texts. -/
def keyword [Keyword α] (before after : String) : Reader α := fun signs =>
  Keyword.all.findSome? fun choice =>
    (strip? (before ++ Keyword.word choice ++ after) signs).map fun behind => (choice, behind)

/-- Read a comparison: its sign is the one behind which a parameter stands. -/
def comparison : Reader Test := fun signs => do
  let (column, behind) ← name signs
  Keyword.all.findSome? fun operator : Comparator => do
    let (v, behind) ← value (← strip? operator.word behind)
    return (.comparison ⟨column, operator, v⟩, behind)

/-- Read a membership with its values between parentheses. -/
def membership : Reader Test := fun signs => do
  let (column, behind) ← name signs
  let (operator, behind) ← keyword " " " (" behind
  let (values, behind) ← list value behind
  return (.membership ⟨column, operator, values⟩, ← strip? ")" behind)

/-- Read a pattern. -/
def pattern : Reader Test := fun signs => do
  let (column, behind) ← name signs
  let (operator, behind) ← keyword " " " " behind
  let (v, behind) ← value behind
  return (.pattern ⟨column, operator, v⟩, behind)

/-- Read a predicate of any kind. -/
def test : Reader Test := fun signs =>
  comparison signs <|> membership signs <|> pattern signs

/-- Whether a predicate can be read back: a membership must list a value. -/
def Listed : Test → Prop
  | .membership p => p.values ≠ []
  | _ => True

section Predicates

variable (column : String) (rest : List (Sign Value))

theorem comparison_append (operator : Comparator) (v : Value) :
    comparison (.name column :: (chars operator.word ++ .place v :: rest)) =
      some (.comparison ⟨column, operator, v⟩, rest) := by
  cases operator <;> rfl

/-- No comparison has a blank behind its column. -/
theorem comparison_blank (word ending : String) :
    comparison (.name column :: (chars (" " ++ word ++ ending) ++ rest)) = none := by
  rw [Sign.chars_append, Sign.chars_append, List.append_assoc, List.append_assoc]
  rfl

theorem keyword_membership_append (operator : MembershipOperator) :
    keyword " " " (" (chars (" " ++ operator.word ++ " (") ++ rest) = some (operator, rest) := by
  cases operator <;> rfl

theorem membership_append (operator : MembershipOperator) {values : List Value}
    (nonempty : values ≠ []) :
    membership (.name column :: (chars (" " ++ operator.word ++ " (") ++
        (Sign.commas (values.map fun v => [.place v]) ++ (chars ")" ++ rest)))) =
      some (.membership ⟨column, operator, values⟩, rest) := by
  have read : list value (Sign.commas (values.map fun v => [.place v]) ++ (chars ")" ++ rest)) =
      some (values, chars ")" ++ rest) := list_value nonempty rfl
  simp only [membership, name, Option.bind_eq_bind, Option.bind_some, keyword_membership_append,
    read, strip?_chars_append]
  rfl

/-- The words of a pattern are not those of a membership. -/
theorem membership_pattern (operator : PatternOperator) :
    membership (.name column :: (chars (" " ++ operator.word ++ " ") ++ rest)) = none := by
  cases operator <;> rfl

theorem pattern_append (operator : PatternOperator) (v : Value) :
    pattern (.name column :: (chars (" " ++ operator.word ++ " ") ++ .place v :: rest)) =
      some (.pattern ⟨column, operator, v⟩, rest) := by
  cases operator <;> rfl

end Predicates

/-- A predicate is read back, whatever stands behind it. -/
theorem test_template_append {p : Test} (listed : Listed p) (rest : List (Sign Value)) :
    test (p.template ++ rest) = some (p, rest) := by
  cases p with
  | comparison p =>
      rw [Test.template, List.cons_append, List.append_assoc, List.singleton_append, test,
        comparison_append]
      rfl
  | membership p =>
      rw [Test.template, List.cons_append, List.append_assoc, List.append_assoc, test,
        comparison_blank, membership_append p.column rest p.operator listed]
      rfl
  | pattern p =>
      rw [Test.template, List.cons_append, List.append_assoc, List.singleton_append, test,
        comparison_blank, membership_pattern, pattern_append]
      rfl

/-! ## Conditions -/

/-- Read a connective and the blank behind it. -/
def connective : Reader Connective :=
  keyword "" " "

/-- Whether a predicate or a connective comes next. -/
def startsLink (signs : List (Sign Value)) : Bool :=
  (name signs).isSome || (connective signs).isSome

/-- Read a predicate or a connective.  A connective is followed by another
link; a predicate is if a blank and the start of a link stand behind it. -/
def link (signs : List (Sign Value)) : Option (Link Test × List (Sign Value) × Bool) :=
  match connective signs with
  | some (c, behind) => some (.connective c, behind, true)
  | none => (test signs).map fun (p, behind) =>
      match (strip? " " behind).filter startsLink with
      | some next => (.predicate p, next, true)
      | none => (.predicate p, behind, false)

/-- Read the condition of a statement, which may be absent. -/
def condition : Reader (Chain Test) := fun signs =>
  match strip? " WHERE " signs with
  | some behind => run link behind
  | none => some ([], signs)

/-- A chain that can be read back: it ends in a predicate, and all its
predicates can. -/
structure Complete (chain : Chain Test) : Prop where
  ends : chain.EndsInPredicate
  listed : ∀ p ∈ chain.predicates, Listed p

theorem Complete.tail {first next : Link Test} {rest : Chain Test}
    (complete : Complete (first :: next :: rest)) : Complete (next :: rest) where
  ends := by
    rcases complete.ends with ⟨p, last⟩
    rw [List.getLast?_cons_cons] at last
    exact ⟨p, last⟩
  listed := by
    intro p member
    apply complete.listed p
    cases first with
    | predicate q => exact List.mem_cons_of_mem q member
    | connective c => exact member

/-- The only link of a complete chain is a predicate. -/
theorem not_complete_connective (c : Connective) : ¬ Complete [.connective c] := by
  intro complete
  rcases complete.ends with ⟨p, last⟩
  simp at last

theorem connective_word_append (c : Connective) (rest : List (Sign Value)) :
    connective (chars c.word ++ (chars " " ++ rest)) = some (c, rest) := by
  cases c <;> rfl

theorem connective_template_append (p : Test) (rest : List (Sign Value)) :
    connective (p.template ++ rest) = none := by
  cases p <;> rfl

theorem template_singleton (link : Link Test) : Chain.template [link] = link.template :=
  List.intercalate_singleton

theorem template_cons_cons (first next : Link Test) (rest : Chain Test) :
    Chain.template (first :: next :: rest) =
      first.template ++ (chars " " ++ Chain.template (next :: rest)) := by
  simp only [Chain.template, List.map_cons, List.intercalate_cons_cons, List.append_assoc]

/-- A complete chain starts a link. -/
theorem startsLink_template_append {chain : Chain Test} (complete : Complete chain)
    (rest : List (Sign Value)) : startsLink (chain.template ++ rest) = true := by
  have named : ∀ (p : Test) (behind : List (Sign Value)),
      startsLink (p.template ++ behind) = true := by
    intro p behind
    cases p <;> rfl
  cases chain with
  | nil => exact absurd complete.ends (by simp [Chain.EndsInPredicate])
  | cons first later =>
      cases later with
      | nil =>
          cases first with
          | predicate p =>
              rw [template_singleton]
              exact named p rest
          | connective c => exact absurd complete (not_complete_connective c)
      | cons next later =>
          rw [template_cons_cons, List.append_assoc]
          cases first with
          | predicate p => exact named p _
          | connective c =>
              rw [Link.template, List.append_assoc, startsLink, connective_word_append,
                Option.isSome_some, Bool.or_true]

/-- A complete chain is read back if no further link follows. -/
theorem run_link_template_append {chain : Chain Test} (complete : Complete chain)
    {rest : List (Sign Value)} (ended : (strip? " " rest).filter startsLink = none) :
    run link (chain.template ++ rest) = some (chain, rest) := by
  induction chain with
  | nil => exact absurd complete.ends (by simp [Chain.EndsInPredicate])
  | cons first later ih =>
      cases later with
      | nil =>
          cases first with
          | connective c => exact absurd complete (not_complete_connective c)
          | predicate p =>
              have listed := complete.listed p List.mem_cons_self
              apply run_of_last
              rw [template_singleton, Link.template, link, connective_template_append]
              simp only [test_template_append listed, Option.map_some, ended]
      | cons next later =>
          have shorter : (Chain.template (next :: later) ++ rest).length <
              (Chain.template (first :: next :: later) ++ rest).length := by
            rw [template_cons_cons]
            simp [chars]
            omega
          have step : link (Chain.template (first :: next :: later) ++ rest) =
              some (first, Chain.template (next :: later) ++ rest, true) := by
            rw [template_cons_cons, List.append_assoc, List.append_assoc]
            cases first with
            | connective c => rw [link, Link.template, connective_word_append]
            | predicate p =>
                have listed := complete.listed p List.mem_cons_self
                have starts := startsLink_template_append complete.tail rest
                rw [link, Link.template, connective_template_append]
                simp only [test_template_append listed, Option.map_some, strip?_chars_append,
                  Option.filter_some_pos starts]
          rw [run_of_more step shorter, ih complete.tail, Option.map_some]

/-- A condition is read back in front of anything that does not go on with it. -/
theorem condition_whereTemplate_append {chain : Chain Test}
    (complete : chain ≠ [] → Complete chain) {rest : List (Sign Value)}
    (unopened : strip? " WHERE " rest = none)
    (ended : (strip? " " rest).filter startsLink = none) :
    condition (chain.whereTemplate ++ rest) = some (chain, rest) := by
  cases chain with
  | nil => rw [Chain.whereTemplate, List.nil_append, condition, unopened]
  | cons link later =>
      rw [Chain.whereTemplate, List.append_assoc, condition, strip?_chars_append]
      exact run_link_template_append (complete (List.cons_ne_nil _ _)) ended

end ParamSql.Decoder

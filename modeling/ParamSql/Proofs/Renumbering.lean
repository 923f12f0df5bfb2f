import ParamSql.Proofs.Homonyms

/-!
# Placeholders behind other parameters

A cursor counts the parameters that it writes, and the parts of a statement are
handed from one to the next with it.  What a group of predicates or a window
becomes then depends on the parameters in front of it in one way only: the
indices of its placeholders go on from theirs.

The main statement compares each of these parts, written by any cursor that a
statement can have reached, with the same part at the start of a statement.
-/

namespace ParamSql

/-! ## Cursors on their way -/

/-- The cursors that are reached from the start of a statement by binding
parameters. -/
inductive Cursor.Reachable (dialect : Dialect) : Cursor → Prop where
  | start : Reachable dialect (.start dialect)
  | bind {cursor : Cursor} (reached : Reachable dialect cursor) (out column : String)
      (value : Value) : Reachable dialect (cursor.bind out column value).2

namespace Cursor

theorem bind_eq_past (cursor : Cursor) (out column : String) (value : Value) :
    (cursor.bind out column value).2 = cursor.past [(column, value)] := by
  simp [bind, past]

/-- Going past further parameters is binding them one by one. -/
theorem Reachable.past {dialect : Dialect} {cursor : Cursor}
    (reached : Reachable dialect cursor) (bindings : List (String × Value)) :
    Reachable dialect (cursor.past bindings) := by
  induction bindings generalizing cursor with
  | nil =>
      rw [past_nil]
      exact reached
  | cons binding rest ih =>
      have next := ih (reached.bind "" binding.1 binding.2)
      rwa [bind_eq_past, ← past_append] at next

theorem Reachable.counted {dialect : Dialect} {cursor : Cursor}
    (reached : Reachable dialect cursor) :
    cursor.dialect = dialect ∧ cursor.next = dialect.startIndex + cursor.params.size := by
  induction reached with
  | start => exact ⟨rfl, rfl⟩
  | bind _ out column value ih =>
      constructor
      · exact ih.1
      · rw [bind_eq_past, next_past, ih.2]
        simp [Cursor.past, Nat.add_assoc]

/-- Every cursor that has counted its values can be reached. -/
theorem reachable_iff {dialect : Dialect} {cursor : Cursor} :
    Reachable dialect cursor ↔
      cursor.dialect = dialect ∧ cursor.next = dialect.startIndex + cursor.params.size := by
  constructor
  · exact Reachable.counted
  · rintro ⟨rfl, counted⟩
    rcases cursor with ⟨dialect, next, params⟩
    obtain rfl : next = dialect.startIndex + params.size := counted
    -- The columns do not matter, only how many values are bound.
    have reached : Reachable dialect
        ((start dialect).past (params.toList.map fun value => ("", value))) :=
      Reachable.start.past _
    simpa [start, past, Function.comp_def] using reached

end Cursor

/-! ## Groups and windows -/

/-- A part of a statement that is written only if it says something: one of the
groups of a restriction, or a window. -/
inductive Qualifier where
  | filter (filter : Filter)
  | memberships (chain : Chain Membership)
  | patterns (chain : Chain Pattern)
  | window (window : Window)

/-- The template of the bounds that hold, if there are any. -/
def Window.template? (window : Window) : Option (List (Sign Value)) :=
  match Window.bound Window.limit (some window), Window.bound Window.offset (some window) with
  | none, none => none
  | limit, none => some (boundTemplate "LIMIT " limit)
  | none, offset => some (boundTemplate "OFFSET " offset)
  | limit, offset =>
      some (boundTemplate "LIMIT " limit ++ Sign.chars " " ++ boundTemplate "OFFSET " offset)

namespace Qualifier

/-- A qualifier in a statement, if it says anything. -/
def fragment? : Qualifier → Option Fragment
  | filter f => f.fragment?
  | memberships chain => chain.fragment? Membership.fragment
  | patterns chain => chain.fragment? Pattern.fragment
  | window w => w.fragment?

/-- Write a qualifier, if it says anything. -/
def write (qualifier : Qualifier) : StateM Cursor (Option String) :=
  onClause Cursor.writing qualifier.fragment?

/-- Write a qualifier, if there is one. -/
def write? : Option Qualifier → StateM Cursor (Option String)
  | none => pure none
  | some qualifier => qualifier.write

/-- The template of a qualifier, if it says anything. -/
def template? : Qualifier → Option (List (Sign Value))
  | filter f => Chain.template? f.tests
  | memberships chain => Chain.template? (Chain.tests .membership chain)
  | patterns chain => Chain.template? (Chain.tests .pattern chain)
  | window w => w.template?

/-- The parameters of a qualifier. -/
def bindings : Qualifier → List (String × Value)
  | filter f => f.bindings
  | memberships chain => (Chain.predicates chain).flatMap Membership.bindings
  | patterns chain => (Chain.predicates chain).map Pattern.binding
  | window w =>
      boundBinding "limit" (Window.bound Window.limit (some w)) ++
        boundBinding "offset" (Window.bound Window.offset (some w))

end Qualifier

/-! ## What a qualifier is written as -/

theorem Window.signs_fragment? (window : Window) :
    window.fragment?.map Fragment.signs = window.template? := by
  rw [Window.fragment?, boundFragment?_eq_map, boundFragment?_eq_map, Window.template?,
    Window.bound, Window.bound, Option.bind_some, Option.bind_some]
  cases window.limit.filter fun count => 0 ≤ count <;>
    cases window.offset.filter fun count => 0 ≤ count <;>
    simp [boundTemplate, Fragment.joined, Fragment.signs]

namespace Qualifier

variable (qualifier : Qualifier)

theorem signs_fragment? : qualifier.fragment?.map Fragment.signs = qualifier.template? := by
  cases qualifier with
  | filter f => exact f.signs_fragment?
  | memberships chain => exact Chain.signs_fragment? _ _ Membership.signs_fragment chain
  | patterns chain => exact Chain.signs_fragment? _ _ Pattern.signs_fragment chain
  | window w => exact w.signs_fragment?

theorem bindings_fragment? : Fragment.bindings? qualifier.fragment? = qualifier.bindings := by
  cases qualifier with
  | filter f => exact f.bindings_fragment?
  | memberships chain => exact Chain.bindings_memberships chain
  | patterns chain => exact Chain.bindings_patterns chain
  | window w => exact bindings_window (some w)

/-- Writing takes the cursor past the parameters of the qualifier and gives the
text that is numbered from where the cursor stands. -/
theorem write_eq (cursor : Cursor) :
    qualifier.write cursor =
      (qualifier.fragment?.map (Fragment.textAt cursor.dialect cursor.next),
        cursor.past qualifier.bindings) := by
  rw [write, onClause_writing, bindings_fragment?]

/-- Writing a clause of one kind, if there is one, is writing it as a
qualifier. -/
theorem onClause_bind {α : Type} (kind : α → Qualifier) {writer : α → Option Fragment}
    (written : ∀ a, (kind a).fragment? = writer a) (clause : Option α) :
    onClause Cursor.writing (clause.bind writer) = write? (clause.map kind) := by
  cases clause with
  | none => rfl
  | some a =>
      rw [Option.bind_some, ← written]
      rfl

theorem bindings_of_fragment?_eq_none (absent : qualifier.fragment? = none) :
    qualifier.bindings = [] := by
  rw [← bindings_fragment?, absent]
  rfl

end Qualifier

/-- Named after columns, the placeholders of a fragment do not depend on where
it stands. -/
theorem Fragment.textAt_of_byColumn {dialect : Dialect} (byColumn : dialect.numbering = .byColumn)
    (fragment : Fragment) (index other : Nat) :
    fragment.textAt dialect index = fragment.textAt dialect other := by
  have places : dialect.placeholdersFrom index fragment.bindings =
      dialect.placeholdersFrom other fragment.bindings := by
    simp only [Dialect.placeholdersFrom, Dialect.placeholder_of_byColumn byColumn]
  apply Option.some.inj
  rw [← fill?_signs, ← fill?_signs, places]

/-! ## Qualifiers behind other parameters -/

/-- Two texts of a template whose places are taken by the placeholders of the
same parameters, numbered from the first index on in one of them and with every
index larger by a number in the other. -/
def Dialect.Shifts (dialect : Dialect) (shift : Nat) (template : List (Sign Value))
    (bindings : List (String × Value)) (text shifted : String) : Prop :=
  Sign.fill? dialect template (bindings.mapIdx fun k binding =>
      dialect.placeholder (dialect.startIndex + k) binding.1) = some text ∧
    Sign.fill? dialect template (bindings.mapIdx fun k binding =>
      dialect.placeholder (dialect.startIndex + k + shift) binding.1) = some shifted

/-- A fragment that stands behind other parameters is shifted by their number. -/
theorem Fragment.shifts_textAt (dialect : Dialect) (shift : Nat) (fragment : Fragment) :
    dialect.Shifts shift fragment.signs fragment.bindings
      (fragment.textAt dialect dialect.startIndex)
      (fragment.textAt dialect (dialect.startIndex + shift)) := by
  constructor
  · exact fill?_signs dialect dialect.startIndex fragment
  · rw [← fill?_signs, Dialect.placeholdersFrom]
    simp only [Nat.add_right_comm]

/-- What a cursor writes for a qualifier, next to what it would write at the
start of a statement. -/
structure Qualifier.Renumbered (dialect : Dialect) (cursor : Cursor) (qualifier : Qualifier) :
    Prop where
  /-- At the start, the values of its parameters are kept. -/
  values : (qualifier.write (.start dialect)).2.params.toList = qualifier.bindings.map Prod.snd
  /-- Behind other parameters, the same values are kept behind theirs. -/
  params : (qualifier.write cursor).2.params =
    cursor.params ++ (qualifier.write (.start dialect)).2.params
  /-- The cursor still counts its values. -/
  reachable : Cursor.Reachable dialect (qualifier.write cursor).2
  /-- Whether anything is written does not depend on where it stands. -/
  absent_iff : (qualifier.write cursor).1 = none ↔ (qualifier.write (.start dialect)).1 = none
  /-- If nothing is written, the cursor stays where it was. -/
  unmoved : (qualifier.write cursor).1 = none → (qualifier.write cursor).2 = cursor
  /-- Every index is larger by the number of values that were there. -/
  shifted : ∀ text, (qualifier.write (.start dialect)).1 = some text →
    ∃ template later, qualifier.template? = some template ∧
      (qualifier.write cursor).1 = some later ∧
        dialect.Shifts cursor.params.size template qualifier.bindings text later
  /-- Where placeholders are named after columns, the text is the same. -/
  named : dialect.numbering = .byColumn →
    (qualifier.write cursor).1 = (qualifier.write (.start dialect)).1

theorem Cursor.Reachable.renumbered {dialect : Dialect} {cursor : Cursor}
    (reached : Reachable dialect cursor) (qualifier : Qualifier) :
    qualifier.Renumbered dialect cursor := by
  obtain ⟨rfl, counted⟩ := reached.counted
  have here := qualifier.write_eq cursor
  have fresh := qualifier.write_eq (.start cursor.dialect)
  constructor
  · rw [fresh]
    simp [Cursor.past, Cursor.start]
  · rw [here, fresh]
    simp [Cursor.past, Cursor.start]
  · rw [here]
    exact reached.past qualifier.bindings
  · rw [here, fresh, Option.map_eq_none_iff, Option.map_eq_none_iff]
  · rw [here]
    intro absent
    rw [qualifier.bindings_of_fragment?_eq_none (Option.map_eq_none_iff.mp absent),
      Cursor.past_nil]
  · rw [here, fresh]
    intro text written
    rcases Option.map_eq_some_iff.mp written with ⟨fragment, present, rfl⟩
    have template : qualifier.template? = some fragment.signs := by
      rw [← qualifier.signs_fragment?, present, Option.map_some]
    have bindings : qualifier.bindings = fragment.bindings := by
      rw [← qualifier.bindings_fragment?, present]
      rfl
    refine ⟨_, fragment.textAt cursor.dialect cursor.next, template, ?_, ?_⟩
    · rw [present, Option.map_some]
    · rw [counted, bindings]
      exact fragment.shifts_textAt cursor.dialect cursor.params.size
  · rw [here, fresh]
    intro byColumn
    exact congrArg (Option.map · qualifier.fragment?) (funext fun fragment =>
      fragment.textAt_of_byColumn byColumn _ _)

/-- The groups of a restriction are written as qualifiers, one after the
other. -/
theorem Restriction.mapM_groups (restriction : Restriction) :
    restriction.groups.mapM Cursor.writing = do
      let filter ← Qualifier.write? (restriction.filter.map .filter)
      let memberships ← Qualifier.write? (restriction.memberships.map .memberships)
      let patterns ← Qualifier.write? (restriction.patterns.map .patterns)
      return { filter, memberships, patterns, junction := restriction.junction } := by
  have filter := Qualifier.onClause_bind .filter (fun _ => rfl) restriction.filter
  have memberships := Qualifier.onClause_bind .memberships (fun _ => rfl) restriction.memberships
  have patterns := Qualifier.onClause_bind .patterns (fun _ => rfl) restriction.patterns
  rw [Groups.mapM, ← filter, ← memberships, ← patterns]
  rfl

/-- A cursor can be reached by binding parameters exactly if its next index is
the first one and the number of its values together.  Every such cursor writes a
qualifier like a cursor at the start of a statement does, except that the
indices go on from the values that are there.  The groups and the window of a
statement are written in this way. -/
theorem Qualifier.write_renumbered :
    (∀ (dialect : Dialect) (cursor : Cursor), cursor.Reachable dialect ↔
      cursor.dialect = dialect ∧ cursor.next = dialect.startIndex + cursor.params.size) ∧
    (∀ (dialect : Dialect) (cursor : Cursor), cursor.Reachable dialect →
      ∀ qualifier : Qualifier, qualifier.Renumbered dialect cursor) ∧
    (∀ restriction : Restriction, restriction.groups.mapM Cursor.writing = do
      let filter ← Qualifier.write? (restriction.filter.map .filter)
      let memberships ← Qualifier.write? (restriction.memberships.map .memberships)
      let patterns ← Qualifier.write? (restriction.patterns.map .patterns)
      return { filter, memberships, patterns, junction := restriction.junction }) ∧
    ∀ window : Option Window, onClause Cursor.writing (window.bind Window.fragment?) =
      Qualifier.write? (window.map .window) := by
  refine ⟨?_, ?_, ?_, ?_⟩
  · intro dialect cursor
    exact Cursor.reachable_iff
  · intro dialect cursor reached qualifier
    exact reached.renumbered qualifier
  · intro restriction
    exact restriction.mapM_groups
  · intro window
    exact Qualifier.onClause_bind .window (fun _ => rfl) window

/-- A membership with a column that is spelled like a placeholder. -/
def Qualifier.sample : Qualifier :=
  .memberships [.predicate ⟨"$1; --", .notIn, [.null, .int 2]⟩, .connective .or]

/-- A cursor behind two parameters. -/
def Cursor.sample : Cursor :=
  (((Cursor.start .postgres).bind "" "a" (.int 7)).2.bind "" "b" .null).2

/-- Behind two other parameters the placeholders of the sample are counted from
the third on, and its column stays as it is. -/
theorem Qualifier.write_renumbered_sample :
    Cursor.sample.Reachable .postgres ∧
      (Qualifier.sample.write (.start .postgres)).1 =
        some "\"$1; --\" NOT IN ($1, $2)" ∧
      (Qualifier.sample.write .sample).1 = some "\"$1; --\" NOT IN ($3, $4)" ∧
      Qualifier.sample.Renumbered .postgres .sample := by
  have reached : Cursor.sample.Reachable .postgres :=
    (Cursor.Reachable.start.bind "" "a" (.int 7)).bind "" "b" .null
  have renumbered := Qualifier.write_renumbered.2.1 .postgres .sample reached .sample
  exact ⟨reached, by decide, by decide, renumbered⟩

end ParamSql

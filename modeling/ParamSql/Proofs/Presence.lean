import ParamSql.Proofs.Alignment

/-!
# Changes of rows are restricted

A statement that changes or removes rows is checked for a predicate before it
is written, and the writer of its groups decides by itself which of them to
skip.  This file shows that the two agree: a restriction passes the check
exactly if some group is written, and every group that is written shows one of
its predicates in full.  So no update and no delete is compiled without a
condition that tests something.
-/

namespace ParamSql

open Fragment (bindings?)

variable {α : Type}

/-! ## Predicates of a restriction -/

namespace Test

/-- The fragment of a predicate. -/
def fragment : Test → Fragment
  | comparison p => p.fragment
  | membership p => p.fragment
  | pattern p => p.fragment

/-- The values that a predicate compares with. -/
def values : Test → List Value
  | comparison p => [p.value]
  | membership p => p.values
  | pattern p => [p.pattern]

/-- A predicate in full: its column, its operator and its placeholders, the
first of which has a given index. -/
def text (dialect : Dialect) (index : Nat) : Test → String
  | comparison p =>
      dialect.quote p.column ++ p.operator.word ++ dialect.placeholder index p.column
  | membership p =>
      dialect.quote p.column ++ " " ++ p.operator.word ++ " (" ++
        ", ".intercalate (p.values.mapIdx fun k _ => dialect.placeholder (index + k) p.column) ++
        ")"
  | pattern p =>
      dialect.quote p.column ++ " " ++ p.operator.word ++ " " ++
        dialect.placeholder index p.column

end Test

/-! ## Texts of joined fragments -/

/-- Fragments with equally many parameters each take as many placeholders, one
fragment after the other. -/
theorem Fragment.textAt_joined (dialect : Dialect) (separator : String) (write : α → Fragment)
    {width : Nat} (equal : ∀ a, (write a).bindings.length = width) (index : Nat)
    (list : List α) :
    (joined separator (list.map write)).textAt dialect index =
      separator.intercalate
        (list.mapIdx fun k a => (write a).textAt dialect (index + k * width)) := by
  induction list generalizing index with
  | nil => rfl
  | cons a rest ih =>
      cases rest with
      | nil => simp [joined]
      | cons next rest =>
          have later := ih (index + width)
          have skipped : ∀ k, index + (k + 1) * width = index + width + k * width := by
            intro k
            rw [Nat.add_mul, Nat.one_mul, Nat.add_assoc, Nat.add_comm width]
          rw [List.map_cons] at later
          rw [List.map_cons, List.map_cons, joined, textAt_append, textAt_text_cons, equal, later]
          simp [List.mapIdx_cons, skipped, String.append_assoc]

theorem Test.textAt_fragment (dialect : Dialect) (index : Nat) (test : Test) :
    test.fragment.textAt dialect index = test.text dialect index := by
  cases test with
  | comparison p =>
      simp [Test.fragment, Test.text, Comparison.fragment, String.append_assoc]
  | membership p =>
      have places := Fragment.textAt_joined dialect ", "
        (fun value => [Piece.parameter p.column value]) (fun _ => rfl) index p.values
      simp [Test.fragment, Test.text, Membership.fragment, Fragment.textAt_append, places,
        String.append_assoc]
  | pattern p =>
      simp [Test.fragment, Test.text, Pattern.fragment, String.append_assoc]

theorem Test.bindings_fragment (test : Test) :
    test.fragment.bindings.map Prod.snd = test.values := by
  cases test with
  | comparison p => rfl
  | membership p =>
      rw [Test.fragment, Membership.bindings_fragment, Membership.bindings, List.map_map]
      exact List.map_id _
  | pattern p => rfl

/-! ## Groups that show a predicate -/

/-- A fragment in which one of the predicates is written. -/
def Fragment.Shows (tests : List Test) (fragment : Fragment) : Prop :=
  ∃ test ∈ tests, ∃ before after, fragment = before ++ test.fragment ++ after

/-- Each of the fragments that are joined stands in the result. -/
theorem Fragment.joined_eq_append {separator : String} {fragment : Fragment}
    {fragments : List Fragment} (member : fragment ∈ fragments) :
    ∃ before after, joined separator fragments = before ++ fragment ++ after := by
  induction fragments with
  | nil => contradiction
  | cons first rest ih =>
      cases rest with
      | nil =>
          obtain rfl := List.mem_singleton.mp member
          exact ⟨[], [], by simp [joined]⟩
      | cons next rest =>
          rcases List.mem_cons.mp member with rfl | later
          · exact ⟨[], .text separator :: joined separator (next :: rest), by simp [joined]⟩
          · rcases ih later with ⟨before, after, equal⟩
            refine ⟨first ++ .text separator :: before, after, ?_⟩
            rw [joined, equal]
            simp

namespace Chain

theorem trimmed_eq_nil_iff (chain : Chain α) :
    chain.trimmed = [] ↔ chain.isEffective = false := by
  rw [trimmed_eq_closed, Chain.closed, List.rdropWhile_eq_nil_iff, isEffective,
    List.any_eq_false]
  simp

theorem isSome_fragment? (write : α → Fragment) (chain : Chain α) :
    (chain.fragment? write).isSome = chain.isEffective := by
  rw [Chain.fragment?]
  cases kept : chain.trimmed with
  | nil => exact ((trimmed_eq_nil_iff chain).mp kept).symm
  | cons link rest =>
      cases effective : chain.isEffective with
      | true => rfl
      | false =>
          rw [(trimmed_eq_nil_iff chain).mpr effective] at kept
          contradiction

/-- What is written of a chain shows one of its predicates. -/
theorem shows_of_fragment?_eq_some {write : α → Fragment} (kind : α → Test)
    (written : ∀ p, write p = (kind p).fragment) {chain : Chain α} {fragment : Fragment}
    (present : chain.fragment? write = some fragment) :
    fragment.Shows (chain.predicates.map kind) := by
  have effective : chain.isEffective = true := by
    rw [← isSome_fragment? write, present]
    rfl
  rcases List.any_eq_true.mp effective with ⟨link, member, predicate⟩
  cases link with
  | connective c => contradiction
  | predicate p =>
      have listed : p ∈ chain.predicates := List.mem_filterMap.mpr ⟨_, member, rfl⟩
      rw [← predicates_trimmed] at listed
      rcases List.mem_filterMap.mp listed with ⟨link, kept, equal⟩
      cases link with
      | connective c => contradiction
      | predicate q =>
          obtain rfl := Option.some.inj equal
          refine ⟨kind q, List.mem_map_of_mem (predicates_trimmed chain ▸ listed), ?_⟩
          rw [Chain.fragment?] at present
          split at present
          · contradiction
          · obtain rfl := Option.some.inj present
            rw [← written]
            exact Fragment.joined_eq_append (List.mem_map_of_mem kept)

end Chain

theorem Filter.isSome_fragment? (filter : Filter) :
    filter.fragment?.isSome = filter.isEffective := by
  cases filter with
  | chain links => exact links.isSome_fragment? _
  | matching record comparator junction =>
      rw [Filter.fragment?, Filter.isEffective]
      cases record.isEmpty <;> rfl

theorem Filter.shows_of_fragment?_eq_some {filter : Filter} {fragment : Fragment}
    (present : filter.fragment? = some fragment) :
    fragment.Shows (filter.comparisons.map .comparison) := by
  cases filter with
  | chain links => exact Chain.shows_of_fragment?_eq_some .comparison (fun _ => rfl) present
  | matching record comparator junction =>
      rw [Filter.fragment?, Record.isEmpty] at present
      cases entries : record.entries with
      | nil => simp [entries] at present
      | cons entry rest =>
          rw [entries, if_neg (by simp)] at present
          obtain rfl := Option.some.inj present
          refine ⟨.comparison ⟨entry.1, comparator, entry.2⟩, ?_, ?_⟩
          · simp [Filter.comparisons, entries]
          · exact Fragment.joined_eq_append List.mem_cons_self

namespace Restriction

/-- The check of a restriction and the writer of its groups agree. -/
theorem isEffective_iff_present (restriction : Restriction) :
    restriction.isEffective = true ↔ restriction.groups.present ≠ [] := by
  have group : ∀ {β : Type} (part : Option β) (fragment? : β → Option Fragment)
      (effective : β → Bool), (∀ b, (fragment? b).isSome = effective b) →
        part.any effective = (part.bind fragment?).isSome := by
    intro β part fragment? effective agree
    cases part with
    | none => rfl
    | some b => exact (agree b).symm
  rw [isEffective, group _ _ _ Filter.isSome_fragment?,
    group _ _ _ (Chain.isSome_fragment? Membership.fragment),
    group _ _ _ (Chain.isSome_fragment? Pattern.fragment), Groups.present, groups]
  cases restriction.filter.bind Filter.fragment? <;>
    cases restriction.memberships.bind (Chain.fragment? Membership.fragment) <;>
    cases restriction.patterns.bind (Chain.fragment? Pattern.fragment) <;>
    simp

/-- Every group that is written shows a predicate of the restriction. -/
theorem shows_of_mem_present {restriction : Restriction} {fragment : Fragment}
    (present : fragment ∈ restriction.groups.present) : fragment.Shows restriction.tests := by
  rcases List.mem_filterMap.mp present with ⟨group, member, equal⟩
  obtain rfl : group = some fragment := equal
  simp only [groups, List.mem_cons, List.not_mem_nil, or_false] at member
  rcases member with filter | memberships | patterns
  · rcases Option.bind_eq_some_iff.mp filter.symm with ⟨part, given, written⟩
    rcases Filter.shows_of_fragment?_eq_some written with ⟨test, listed, shown⟩
    exact ⟨test, by simp [tests, given, listed], shown⟩
  · rcases Option.bind_eq_some_iff.mp memberships.symm with ⟨part, given, written⟩
    obtain ⟨test, listed, shown⟩ :=
      Chain.shows_of_fragment?_eq_some .membership (fun _ => rfl) written
    exact ⟨test, by simp [tests, given, listed], shown⟩
  · rcases Option.bind_eq_some_iff.mp patterns.symm with ⟨part, given, written⟩
    obtain ⟨test, listed, shown⟩ :=
      Chain.shows_of_fragment?_eq_some .pattern (fun _ => rfl) written
    exact ⟨test, by simp [tests, given, listed], shown⟩

end Restriction

/-! ## Texts that show a predicate -/

/-- A text that shows one of the predicates in full.  The parameters that its
placeholders stand for, when they are counted from the first index, are the
values of the predicate. -/
def ShowsTest (dialect : Dialect) (first : Nat) (params : List Value) (tests : List Test)
    (text : String) : Prop :=
  ∃ test ∈ tests, ∃ before after, ∃ earlier later : List Value,
    text = before ++ test.text dialect (first + earlier.length) ++ after ∧
      params = earlier ++ test.values ++ later

/-- A written group is numbered from where the groups before it end. -/
theorem Groups.mem_present_textsAt {dialect : Dialect} {index : Nat} {groups : Groups Fragment}
    {text : String} (member : text ∈ (groups.textsAt dialect index).present) :
    ∃ fragment ∈ groups.present, ∃ earlier later,
      text = fragment.textAt dialect (index + earlier.length) ∧
        groups.bindings = earlier ++ fragment.bindings ++ later := by
  rcases List.mem_filterMap.mp member with ⟨group, listed, equal⟩
  obtain rfl : group = some text := equal
  simp only [textsAt, List.mem_cons, List.not_mem_nil, or_false] at listed
  rcases listed with filter | memberships | patterns
  · rcases Option.map_eq_some_iff.mp filter.symm with ⟨fragment, given, rfl⟩
    refine ⟨fragment, ?_, [], bindings? groups.memberships ++ bindings? groups.patterns, rfl, ?_⟩
    · simp [present, given]
    · simp [bindings, given, bindings?]
  · rcases Option.map_eq_some_iff.mp memberships.symm with ⟨fragment, given, rfl⟩
    refine ⟨fragment, ?_, bindings? groups.filter, bindings? groups.patterns, rfl, ?_⟩
    · simp [present, given]
    · simp [bindings, given, bindings?]
  · rcases Option.map_eq_some_iff.mp patterns.symm with ⟨fragment, given, rfl⟩
    refine ⟨fragment, ?_, bindings? groups.filter ++ bindings? groups.memberships, [], rfl, ?_⟩
    · simp [present, given]
    · simp [bindings, given, bindings?]

/-- A written group shows a predicate with its own values, wherever the groups
stand among all parameters. -/
theorem Restriction.showsTest_of_mem {restriction : Restriction} {dialect : Dialect}
    (first : Nat) (before after : List Value) {text : String}
    (member :
      text ∈ (restriction.groups.textsAt dialect (first + before.length)).present) :
    ShowsTest dialect first (before ++ restriction.bindings.map Prod.snd ++ after)
      restriction.tests text := by
  rcases Groups.mem_present_textsAt member with ⟨fragment, present, earlier, later, rfl, bindings⟩
  rcases Restriction.shows_of_mem_present present with ⟨test, listed, front, back, rfl⟩
  rw [Restriction.bindings_groups] at bindings
  have index : first + before.length + earlier.length + front.bindings.length =
      first + (before ++ (earlier ++ front.bindings).map Prod.snd).length := by
    simp [Nat.add_assoc]
  refine ⟨test, listed, front.textAt dialect (first + before.length + earlier.length),
    back.textAt dialect
      (first + before.length + earlier.length + (front ++ test.fragment).bindings.length),
    before ++ (earlier ++ front.bindings).map Prod.snd,
    (back.bindings ++ later).map Prod.snd ++ after, ?_, ?_⟩
  · rw [Fragment.textAt_append, Fragment.textAt_append, Test.textAt_fragment, index]
  · simp [bindings, ← Test.bindings_fragment]

/-- A condition with these groups. -/
def conditionText (junction : Junction) (groups : List String) : String :=
  " WHERE " ++ (" " ++ junction.word ++ " ").intercalate groups

theorem Groups.present_textsAt_ne_nil (dialect : Dialect) (index : Nat)
    {groups : Groups Fragment} (some_group : groups.present ≠ []) :
    (groups.textsAt dialect index).present ≠ [] := by
  rcases groups with ⟨filter, memberships, patterns, junction⟩
  cases filter <;> cases memberships <;> cases patterns <;>
    simp_all [Groups.textsAt, Groups.present]

/-- A condition opens with its word and has the connective between its
groups. -/
theorem Groups.textAt_condition (dialect : Dialect) (index : Nat) {groups : Groups Fragment}
    (some_group : groups.present ≠ []) :
    groups.condition.textAt dialect index =
      conditionText groups.junction (groups.textsAt dialect index).present := by
  rcases groups with ⟨filter, memberships, patterns, junction⟩
  cases filter <;> cases memberships <;> cases patterns <;>
    simp_all [conditionText, Groups.condition, Groups.textsAt, Groups.present, Fragment.joined,
      Fragment.textAt_append, bindings?, String.append_assoc, Nat.add_assoc]

/-! ## Statements that change or remove rows -/

/-- The name of a table as it is written. -/
def QualifiedName.text (dialect : Dialect) (table : QualifiedName) : String :=
  dialect.quote table.schema ++ "." ++ dialect.quote table.table

/-- Assignments as they are written in front of all other parameters. -/
def assignmentsText (dialect : Dialect) (entries : List (String × Value)) : String :=
  ", ".intercalate <| entries.mapIdx fun k entry =>
    dialect.quote entry.1 ++ "=" ++ dialect.placeholder (dialect.startIndex + k) entry.1

/-- The columns that are given back, as they are written. -/
def returningText (dialect : Dialect) : Option Returning → String
  | none => ""
  | some .all => " RETURNING *"
  | some (.columns names) => " RETURNING " ++ ", ".intercalate (names.map dialect.quote)

theorem textAt_returning (dialect : Dialect) (index : Nat) (returning : Option Returning) :
    (optionalClause " RETURNING " (returning.map Returning.fragment)).textAt dialect index =
      returningText dialect returning := by
  rcases returning with _ | (_ | names)
  · rfl
  · simp [optionalClause, Returning.fragment, returningText]
  · have plain := Fragment.textAt_joined dialect ", "
      (fun name => [Piece.identifier name]) (fun _ => rfl) index names
    have listed : (names.mapIdx fun _ name => dialect.quote name) = names.map dialect.quote := by
      rw [List.mapIdx_eq_iff]
      simp
    simp only [Fragment.textAt_identifier_cons, Fragment.textAt_nil, String.append_empty,
      listed] at plain
    simpa [optionalClause, Returning.fragment, returningText, Fragment.identifiers] using plain

theorem textAt_assignments (dialect : Dialect) (entries : List (String × Value)) :
    (Fragment.joined ", " (entries.map fun entry =>
        assignmentFragment entry.1 entry.2)).textAt dialect dialect.startIndex =
      assignmentsText dialect entries := by
  have pairs := Fragment.textAt_joined dialect ", "
    (fun entry : String × Value => assignmentFragment entry.1 entry.2) (fun _ => rfl)
    dialect.startIndex entries
  rw [pairs, assignmentsText]
  simp [assignmentFragment, String.append_assoc]

/-- A command whose text has a condition between its opening and its ending,
with at least one group, each of which shows one of the predicates. -/
def Command.RestrictedBy (dialect : Dialect) (restriction : Restriction)
    (opening ending : String) (command : Command) : Prop :=
  ∃ groups, groups ≠ [] ∧
    command.sql = opening ++ conditionText restriction.junction groups ++ ending ∧
    ∀ text ∈ groups,
      ShowsTest dialect dialect.startIndex command.params restriction.tests text

theorem Update.restrictedBy_of_compile {dialect : Dialect} {table : QualifiedName} {s : Update}
    {command : Command} (compiled : (Statement.update s).compile dialect table = .ok command) :
    command.RestrictedBy dialect s.restriction
      ("UPDATE " ++ table.text dialect ++ " SET " ++
        assignmentsText dialect s.assignments.entries)
      (returningText dialect s.returning ++ ";") := by
  rcases Statement.compile_eq_ok_iff.mp compiled with ⟨clauses, valid, rfl⟩
  rcases Update.clauses_eq_ok_iff.mp valid with ⟨-, effective, -, -, rfl⟩
  have some_group := s.restriction.isEffective_iff_present.mp effective
  have assigned : (Fragment.joined ", " (s.assignments.entries.map fun entry =>
      assignmentFragment entry.1 entry.2)).bindings = s.assignments.entries := by
    simp [Fragment.bindings_joined, bindings_assignmentFragment, List.flatMap_map]
  refine ⟨(s.restriction.groups.textsAt dialect
    (dialect.startIndex + s.assignments.entries.length)).present,
    Groups.present_textsAt_ne_nil _ _ some_group, ?_, ?_⟩
  · simp [Clauses.statement, QualifiedName.fragment, Fragment.textAt_append, assigned,
      textAt_assignments, textAt_returning, Groups.textAt_condition _ _ some_group,
      QualifiedName.text, String.append_assoc]
    rfl
  · intro text member
    have shown := Restriction.showsTest_of_mem dialect.startIndex
      (s.assignments.entries.map Prod.snd) [] (by simpa using member)
    simpa [Statement.bindings] using shown

theorem Delete.restrictedBy_of_compile {dialect : Dialect} {table : QualifiedName} {s : Delete}
    {command : Command} (compiled : (Statement.delete s).compile dialect table = .ok command) :
    command.RestrictedBy dialect s.restriction ("DELETE FROM " ++ table.text dialect)
      (returningText dialect s.returning ++ ";") := by
  rcases Statement.compile_eq_ok_iff.mp compiled with ⟨clauses, valid, rfl⟩
  rcases Delete.clauses_eq_ok_iff.mp valid with ⟨effective, -, -, rfl⟩
  have some_group := s.restriction.isEffective_iff_present.mp effective
  refine ⟨(s.restriction.groups.textsAt dialect dialect.startIndex).present,
    Groups.present_textsAt_ne_nil _ _ some_group, ?_, ?_⟩
  · simp [Clauses.statement, QualifiedName.fragment, Fragment.textAt_append, textAt_returning,
      Groups.textAt_condition _ _ some_group, QualifiedName.text, String.append_assoc]
    rfl
  · intro text member
    have shown := Restriction.showsTest_of_mem dialect.startIndex [] [] (by simpa using member)
    simpa [Statement.bindings] using shown

/-- The groups of a restriction, written by whatever cursor, leave a text
exactly if the restriction passes the check, and each text that is left shows a
predicate with its own values. -/
theorem Restriction.shows_of_written {restriction : Restriction} {cursor moved : Cursor}
    {written : Groups String}
    (run : restriction.groups.mapM Cursor.writing cursor = (written, moved)) :
    (restriction.isEffective = true ↔ written.present ≠ []) ∧
      ∃ params, moved.params.toList = cursor.params.toList ++ params ∧
        ∀ text ∈ written.present,
          ShowsTest cursor.dialect cursor.next params restriction.tests text := by
  rw [Groups.mapM_writing] at run
  rcases Prod.mk.inj run with ⟨rfl, rfl⟩
  constructor
  · rw [Restriction.isEffective_iff_present]
    constructor
    · exact Groups.present_textsAt_ne_nil _ _
    · intro some_text none_left
      rcases List.exists_cons_of_ne_nil some_text with ⟨text, rest, listed⟩
      obtain ⟨fragment, present, -⟩ :=
        Groups.mem_present_textsAt (listed ▸ List.mem_cons_self : text ∈ _)
      rw [none_left] at present
      contradiction
  · refine ⟨restriction.bindings.map Prod.snd, ?_, ?_⟩
    · simp [Cursor.past, Restriction.bindings_groups]
    · intro text member
      have shown := Restriction.showsTest_of_mem cursor.next [] [] (by simpa using member)
      simpa using shown

/-- A restriction passes the check exactly if its groups, written by whatever
cursor, leave a text, and each text that is left shows a predicate with its own
values.  Hence every update and every delete that compiles has a condition that
shows one. -/
theorem Statement.compile_restricted :
    (∀ (restriction : Restriction) (cursor : Cursor) (written : Groups String)
        (moved : Cursor), restriction.groups.mapM Cursor.writing cursor = (written, moved) →
      (restriction.isEffective = true ↔ written.present ≠ []) ∧
        ∃ params, moved.params.toList = cursor.params.toList ++ params ∧
          ∀ text ∈ written.present,
            ShowsTest cursor.dialect cursor.next params restriction.tests text) ∧
    (∀ (dialect : Dialect) (table : QualifiedName) (s : Update) (command : Command),
      (Statement.update s).compile dialect table = .ok command →
        command.RestrictedBy dialect s.restriction
          ("UPDATE " ++ table.text dialect ++ " SET " ++
            assignmentsText dialect s.assignments.entries)
          (returningText dialect s.returning ++ ";")) ∧
    (∀ (dialect : Dialect) (table : QualifiedName) (s : Delete) (command : Command),
      (Statement.delete s).compile dialect table = .ok command →
        command.RestrictedBy dialect s.restriction ("DELETE FROM " ++ table.text dialect)
          (returningText dialect s.returning ++ ";")) := by
  refine ⟨?_, ?_, ?_⟩
  · intro restriction cursor written moved run
    exact Restriction.shows_of_written run
  · intro dialect table s command compiled
    exact Update.restrictedBy_of_compile compiled
  · intro dialect table s command compiled
    exact Delete.restrictedBy_of_compile compiled

/-- The sample shows predicates of each of its groups behind its opening. -/
theorem Statement.compile_restricted_sample :
    ∃ command, (Statement.update .sample).compile .postgres ⟨"s", "t"⟩ = .ok command ∧
      command.RestrictedBy .postgres .sample
        "UPDATE \"s\".\"t\" SET \"na\"\"me\"=$1" " RETURNING \"\";" := by
  have opening : "UPDATE " ++ QualifiedName.text .postgres ⟨"s", "t"⟩ ++ " SET " ++
      assignmentsText .postgres Update.sample.assignments.entries =
        "UPDATE \"s\".\"t\" SET \"na\"\"me\"=$1" := rfl
  have ending :
      returningText .postgres Update.sample.returning ++ ";" = " RETURNING \"\";" := rfl
  obtain ⟨command, compiled⟩ :
      ∃ command, (Statement.update .sample).compile .postgres ⟨"s", "t"⟩ = .ok command :=
    ⟨_, rfl⟩
  have restricted := Statement.compile_restricted.2.1 .postgres ⟨"s", "t"⟩ .sample command compiled
  rw [opening, ending] at restricted
  exact ⟨command, compiled, restricted⟩

end ParamSql

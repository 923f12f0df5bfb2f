import Mathlib.Data.Fintype.Order
import ParamSql.Proofs.Grammar

/-!
# The meaning of a condition

A database gives every predicate of a condition a truth value and reads the
connectives between them by precedence: NOT binds tighter than AND, and AND
tighter than OR.  A condition has no parentheses, so the groups of a
restriction keep their own meaning in it only if precedence does not cut
across them.

The main statement names the cases in which it does not.  Connected by OR, the
groups keep their meaning whatever is in them.  Connected by AND they do if
none of them contains an OR.  And a group that is alone means what it means by
itself.

Truth values form a lattice with a greatest and a least element, so the
statement is about two values and as well about three.
-/

namespace ParamSql

/-! ## Lists of values that may be missing -/

section Lists

variable {β γ : Type}

theorem mapM_congr {f g : β → Option γ} {list : List β}
    (agree : ∀ b ∈ list, f b = g b) : list.mapM f = list.mapM g := by
  induction list with
  | nil => rfl
  | cons b rest ih =>
      obtain ⟨head, tail⟩ := List.forall_mem_cons.mp agree
      rw [List.mapM_cons, List.mapM_cons, head, ih tail]

theorem exists_mapM {f : β → Option γ} {list : List β}
    (each : ∀ b ∈ list, ∃ c, f b = some c) : ∃ cs, list.mapM f = some cs := by
  induction list with
  | nil => exact ⟨[], rfl⟩
  | cons b rest ih =>
      obtain ⟨⟨c, head⟩, tail⟩ := List.forall_mem_cons.mp each
      obtain ⟨cs, later⟩ := ih tail
      exact ⟨c :: cs, by rw [List.mapM_cons, head, later]; rfl⟩

end Lists

/-! ## Parts of chains -/

/-- Whether a link is a connective between two conditions. -/
def Link.joins {α : Type} (junction : Junction) : Link α → Bool
  | .predicate _ => false
  | .connective c => c = junction.toConnective

namespace Chain

section Parts

variable {α : Type}

/-- The parts of a chain between the connectives of one kind. -/
def parts (junction : Junction) (chain : Chain α) : List (Chain α) :=
  List.splitOnP (Link.joins junction) chain

theorem parts_append_cons (junction : Junction) (first rest : Chain α) :
    parts junction (first ++ .connective junction.toConnective :: rest) =
      parts junction first ++ parts junction rest :=
  List.splitOnP_append_cons first rest (decide_eq_true rfl)

theorem parts_of_not_mem {junction : Junction} {chain : Chain α}
    (absent : .connective junction.toConnective ∉ chain) : parts junction chain = [chain] := by
  apply List.splitOnP_eq_singleton
  intro link member
  cases link with
  | predicate p => rfl
  | connective c =>
      apply decide_eq_false
      rintro rfl
      exact absent member

/-- What stands in front of the first connective of a kind belongs to the first
part. -/
theorem parts_append_of_not_mem {junction : Junction} {first : Chain α}
    (absent : .connective junction.toConnective ∉ first) (rest : Chain α) :
    parts junction (first ++ rest) = (parts junction rest).modifyHead (first ++ ·) := by
  induction first with
  | nil =>
      cases rest_parts : parts junction rest with
      | nil => simpa using rest_parts
      | cons part later => simpa using rest_parts
  | cons link links ih =>
      obtain ⟨other, links_absent⟩ := List.ne_and_not_mem_of_not_mem_cons absent
      have stays : Link.joins junction link = false := by
        cases link with
        | predicate p => rfl
        | connective c => exact decide_eq_false fun equal => other (by rw [equal])
      rw [List.cons_append, parts, List.splitOnP_cons_eq_if_modifyHead, stays,
        if_neg Bool.false_ne_true]
      change (parts junction (links ++ rest)).modifyHead (link :: ·) = _
      rw [ih links_absent, List.modifyHead_modifyHead]
      rfl

theorem Term.not_mem {legal : α → Prop} {chain : Chain α} (term : Term legal chain)
    (junction : Junction) : .connective junction.toConnective ∉ chain := by
  induction term with
  | predicate allowed => simp
  | not term ih => cases junction <;> simpa [Junction.toConnective] using ih

/-- Connected chains have no connective that neither they nor the junction
have. -/
theorem not_mem_connected {link : Link α} {junction : Junction}
    (other : link ≠ .connective junction.toConnective) {chains : List (Chain α)}
    (absent : ∀ chain ∈ chains, link ∉ chain) : link ∉ connected junction chains := by
  induction chains with
  | nil => exact List.not_mem_nil
  | cons chain rest ih =>
      obtain ⟨chain_absent, rest_absent⟩ := List.forall_mem_cons.mp absent
      cases rest with
      | nil => rwa [connected, List.intercalate_singleton]
      | cons next rest =>
          rw [connected_cons_cons, List.singleton_append, List.mem_append, List.mem_cons]
          rintro (inside | equal | later)
          · exact chain_absent inside
          · exact other equal
          · exact ih rest_absent later

end Parts

end Chain

/-! ## Truth values of chains -/

section Negation

variable {τ : Type} (negate : τ → τ)

/-- The value of one truth value behind NOTs. -/
def Chain.literal? : Chain τ → Option τ
  | [.predicate value] => some value
  | .connective .not :: rest => (literal? rest).map negate
  | _ => none

theorem Chain.Term.exists_literal? {negate : τ → τ} {legal : τ → Prop} {chain : Chain τ}
    (term : Term legal chain) :
    ∃ value, literal? negate chain = some value := by
  induction term with
  | @predicate value allowed => exact ⟨value, rfl⟩
  | @not chain term ih =>
      obtain ⟨value, valued⟩ := ih
      exact ⟨negate value, congrArg (Option.map negate) valued⟩

end Negation

section Value

variable {τ : Type} [Lattice τ] [BoundedOrder τ] (negate : τ → τ)

/-- The truth value of several conditions with one connective between them. -/
def Junction.combine : Junction → List τ → τ
  | .and, values => values.foldr (· ⊓ ·) ⊤
  | .or, values => values.foldr (· ⊔ ·) ⊥

theorem Junction.combine_append (junction : Junction) (first second : List τ) :
    junction.combine (first ++ second) =
      junction.combine [junction.combine first, junction.combine second] := by
  cases junction with
  | and =>
      induction first with
      | nil => simp [combine]
      | cons value rest ih => simp_all [combine, inf_assoc]
  | or =>
      induction first with
      | nil => simp [combine]
      | cons value rest ih => simp_all [combine, sup_assoc]

theorem Junction.combine_cons (junction : Junction) (value : τ) (values : List τ) :
    junction.combine (value :: values) = junction.combine [value, junction.combine values] := by
  cases junction <;> simp [combine]

theorem Junction.combine_singleton (junction : Junction) (value : τ) :
    junction.combine [value] = value := by
  cases junction with
  | and => exact inf_top_eq value
  | or => exact sup_bot_eq value

namespace Chain

/-- The value of a chain of truth values whose parts between the connectives of
one kind have values. -/
def valueBy (junction : Junction) (inner : Chain τ → Option τ) (chain : Chain τ) : Option τ :=
  ((chain.parts junction).mapM inner).map junction.combine

/-- The value of a chain of truth values, if it has one: OR is taken apart
first, then AND. -/
def value? : Chain τ → Option τ :=
  valueBy .or (valueBy .and (literal? negate))

/-! ## Values of connected chains -/

variable {negate}

theorem combine_mapM_singleton (junction : Junction) (inner : Chain τ → Option τ)
    (chain : Chain τ) : ([chain].mapM inner).map junction.combine = inner chain := by
  rw [List.mapM_cons, List.mapM_nil]
  cases inner chain with
  | none => rfl
  | some value => exact congrArg some (junction.combine_singleton value)

theorem valueBy_of_not_mem {junction : Junction} {inner : Chain τ → Option τ} {chain : Chain τ}
    (absent : .connective junction.toConnective ∉ chain) :
    valueBy junction inner chain = inner chain := by
  rw [valueBy, parts_of_not_mem absent, combine_mapM_singleton]

theorem valueBy_append_cons (junction : Junction) (inner : Chain τ → Option τ)
    (first rest : Chain τ) :
    valueBy junction inner (first ++ .connective junction.toConnective :: rest) =
      ([first, rest].mapM (valueBy junction inner)).map junction.combine := by
  simp only [valueBy, parts_append_cons, List.mapM_append, List.mapM_cons, List.mapM_nil]
  cases (parts junction first).mapM inner with
  | none => rfl
  | some values =>
      cases (parts junction rest).mapM inner with
      | none => rfl
      | some later => exact congrArg some (junction.combine_append values later)

/-- Connected chains have the values of the chains with the connective between
them. -/
theorem valueBy_connected (junction : Junction) (inner : Chain τ → Option τ)
    {chains : List (Chain τ)} (some_chain : chains ≠ []) :
    valueBy junction inner (connected junction chains) =
      (chains.mapM (valueBy junction inner)).map junction.combine := by
  induction chains with
  | nil => contradiction
  | cons chain rest ih =>
      cases rest with
      | nil =>
          rw [connected, List.intercalate_singleton, combine_mapM_singleton]
      | cons next rest =>
          rw [connected_cons_cons, List.singleton_append, valueBy_append_cons, List.mapM_cons,
            List.mapM_cons, List.mapM_nil, ih (List.cons_ne_nil _ _),
            List.mapM_cons (l := next :: rest)]
          cases valueBy junction inner chain with
          | none => rfl
          | some value =>
              cases (next :: rest).mapM (valueBy junction inner) with
              | none => rfl
              | some values => exact congrArg some (junction.combine_cons value values).symm

/-- Connected chains have the values of the chains with the connective between
them, unless they are connected by AND across an OR. -/
theorem value?_connected (junction : Junction) {chains : List (Chain τ)}
    (some_chain : chains ≠ [])
    (separable : junction = .or ∨ chains.length = 1 ∨
      ∀ chain ∈ chains, .connective .or ∉ chain) :
    value? negate (connected junction chains) =
      (chains.mapM (value? negate)).map junction.combine := by
  rcases separable with rfl | single | absent
  · exact valueBy_connected .or _ some_chain
  · obtain ⟨chain, rfl⟩ := List.length_eq_one_iff.mp single
    rw [connected, List.intercalate_singleton, combine_mapM_singleton]
  · cases junction with
    | or => exact valueBy_connected .or _ some_chain
    | and =>
        -- Without an OR there is nothing but the inner level.
        have inner : ∀ chain ∈ chains,
            value? negate chain = valueBy .and (literal? negate) chain :=
          fun chain member => valueBy_of_not_mem (absent chain member)
        have whole : Link.connective .or ∉ connected .and chains :=
          not_mem_connected (by simp [Junction.toConnective]) absent
        rw [mapM_congr inner, ← valueBy_connected .and _ some_chain]
        exact valueBy_of_not_mem whole

/-! ## Sentences have values -/

/-- A term and an AND in front of a chain with a value leave it with one: they
belong to its first part. -/
theorem exists_value?_and_cons {first rest : Chain τ} {value later : τ}
    (absent : .connective .or ∉ first)
    (valued : valueBy .and (literal? negate) first = some value)
    (rest_valued : value? negate rest = some later) :
    ∃ joint, value? negate (first ++ .connective .and :: rest) = some joint := by
  have front : Link.connective .or ∉ first ++ [.connective .and] := by simpa using absent
  have whole : first ++ Link.connective .and :: rest =
      (first ++ [.connective .and]) ++ rest := by simp
  rw [whole, value?, valueBy, parts_append_of_not_mem front]
  rw [value?, valueBy] at rest_valued
  cases rest_parts : parts .or rest with
  | nil => exact absurd rest_parts (List.splitOnP_ne_nil _ _)
  | cons part others =>
      rw [rest_parts, List.mapM_cons] at rest_valued
      cases part_valued : valueBy .and (literal? negate) part with
      | none => rw [part_valued] at rest_valued; contradiction
      | some inner =>
          cases others_valued : others.mapM (valueBy .and (literal? negate)) with
          | none => rw [part_valued, others_valued] at rest_valued; contradiction
          | some values =>
              have joined : valueBy .and (literal? negate)
                  ((first ++ [.connective .and]) ++ part) =
                    some (Junction.and.combine [value, inner]) := by
                rw [List.append_assoc, List.singleton_append]
                refine (valueBy_append_cons .and _ first part).trans ?_
                rw [List.mapM_cons, List.mapM_cons, List.mapM_nil, valued, part_valued]
                rfl
              rw [List.modifyHead_cons, List.mapM_cons, joined, others_valued]
              exact ⟨_, rfl⟩

/-- A sentence of truth values has a truth value. -/
theorem Sentence.exists_value? {legal : τ → Prop} {chain : Chain τ}
    (sentence : Sentence legal chain) : ∃ value, value? negate chain = some value := by
  have term_inner : ∀ {chain : Chain τ}, Term legal chain →
      ∃ value, valueBy .and (literal? negate) chain = some value := by
    intro chain term
    rw [valueBy_of_not_mem (term.not_mem .and)]
    exact term.exists_literal?
  have term_outer : ∀ {chain : Chain τ}, Term legal chain →
      ∃ value, value? negate chain = some value := by
    intro chain term
    rw [value?, valueBy_of_not_mem (term.not_mem .or)]
    exact term_inner term
  induction sentence with
  | term term => exact term_outer term
  | @join first rest term junction sentence ih =>
      obtain ⟨later, rest_valued⟩ := ih
      cases junction with
      | or =>
          obtain ⟨value, valued⟩ := term_outer term
          refine ⟨Junction.or.combine [value, later], ?_⟩
          rw [value?, valueBy_append_cons, ← value?, List.mapM_cons, List.mapM_cons, valued,
            rest_valued]
          rfl
      | and =>
          obtain ⟨value, valued⟩ := term_inner term
          exact exists_value?_and_cons (term.not_mem .or) valued rest_valued

end Chain

end Value

/-! ## Truth values in place of predicates -/

namespace Chain

variable {α τ : Type} (truth : Nat → τ)

/-- A chain with a truth value in the place of every predicate; the first of
its predicates has a given place. -/
def assigned : Nat → Chain α → Chain τ
  | _, [] => []
  | place, .predicate _ :: rest => .predicate (truth place) :: assigned (place + 1) rest
  | place, .connective c :: rest => .connective c :: assigned place rest

/-- Chains with truth values; the places go on from one chain to the next. -/
def assignedAll : Nat → List (Chain α) → List (Chain τ)
  | _, [] => []
  | place, chain :: rest =>
      assigned truth place chain :: assignedAll (place + chain.predicates.length) rest

variable {truth}

theorem assigned_append (place : Nat) (first second : Chain α) :
    assigned truth place (first ++ second) =
      assigned truth place first ++ assigned truth (place + first.predicates.length) second := by
  induction first generalizing place with
  | nil => rfl
  | cons link rest ih =>
      cases link with
      | predicate p =>
          rw [List.cons_append, assigned, ih, predicates_cons_predicate, List.length_cons,
            Nat.add_right_comm, Nat.add_assoc]
          rfl
      | connective c =>
          rw [List.cons_append, assigned, ih]
          rfl

/-- In connected chains the predicates have the places that go on from one
chain to the next. -/
theorem assigned_connected (place : Nat) (junction : Junction) (chains : List (Chain α)) :
    assigned truth place (connected junction chains) =
      connected junction (assignedAll truth place chains) := by
  induction chains generalizing place with
  | nil => rfl
  | cons chain rest ih =>
      cases rest with
      | nil => simp only [connected, List.intercalate_singleton, assignedAll]
      | cons next rest =>
          rw [connected_cons_cons, assigned_append, List.singleton_append, assigned, ih]
          exact (connected_cons_cons junction _ _ _).symm

theorem length_assignedAll (place : Nat) (chains : List (Chain α)) :
    (assignedAll truth place chains).length = chains.length := by
  induction chains generalizing place with
  | nil => rfl
  | cons chain rest ih => exact congrArg (· + 1) (ih _)

/-- What holds of each chain with any truth values holds of the chains with
theirs. -/
theorem forall_mem_assignedAll {holds : Chain τ → Prop} {chains : List (Chain α)}
    (each : ∀ chain ∈ chains, ∀ place, holds (assigned truth place chain)) (place : Nat) :
    ∀ chain ∈ assignedAll truth place chains, holds chain := by
  induction chains generalizing place with
  | nil => exact fun _ member => absurd member List.not_mem_nil
  | cons chain rest ih =>
      obtain ⟨head, tail⟩ := List.forall_mem_cons.mp each
      exact List.forall_mem_cons.mpr ⟨head place, ih tail _⟩

/-- Truth values change no connective. -/
theorem connective_mem_assigned_iff (c : Connective) (place : Nat) (chain : Chain α) :
    .connective c ∈ assigned truth place chain ↔ .connective c ∈ chain := by
  induction chain generalizing place with
  | nil => simp [assigned]
  | cons link rest ih => cases link <;> simp [assigned, ih]

/-- A sentence is one whatever its predicates are, as long as all of them are
legal. -/
theorem Sentence.assigned {legal : α → Prop} {chain : Chain α} (sentence : Sentence legal chain)
    (place : Nat) : Sentence (fun _ => True) (assigned truth place chain) := by
  have term : ∀ {chain : Chain α}, Term legal chain → ∀ place,
      Term (fun _ => True) (Chain.assigned truth place chain) := by
    intro chain term
    induction term with
    | predicate allowed => exact fun place => .predicate trivial
    | not term ih => exact fun place => .not (ih place)
  induction sentence generalizing place with
  | term alone => exact .term (term alone place)
  | join first junction rest ih =>
      rw [assigned_append]
      exact .join (term first place) junction (ih _)

end Chain

/-! ## Compiled statements -/

/-- The condition of a statement that compiles with sentences as its groups has
a truth value, whatever its predicates have: that of the groups, each by
itself, with the junction between them.  AND between groups keeps to this only
if no group contains an OR or there is but one group. -/
theorem Statement.compile_meaning {dialect : Dialect} {table : QualifiedName}
    {statement : Statement} {command : Command} {restriction : Restriction}
    (compiled : statement.compile dialect table = .ok command)
    (restricted : statement.restriction? = some restriction)
    (effective : restriction.isEffective = true)
    (formed : ∀ chain ∈ restriction.chains, Chain.Sentence (fun _ => True) chain)
    (separable : restriction.junction = .or ∨ restriction.chains.length = 1 ∨
      ∀ chain ∈ restriction.chains, .connective .or ∉ chain)
    {τ : Type} [Lattice τ] [BoundedOrder τ] (negate : τ → τ) (truth : Nat → τ) :
    command.HasCondition dialect table statement restriction.condition ∧
      ∃ values : List τ,
        (Chain.assignedAll truth 0 restriction.chains).mapM (Chain.value? negate) = some values ∧
        Chain.value? negate (Chain.assigned truth 0 restriction.condition) =
          some (restriction.junction.combine values) := by
  constructor
  · exact Statement.hasCondition_of_compile compiled restricted effective
  obtain ⟨values, valued⟩ : ∃ values,
      (Chain.assignedAll truth 0 restriction.chains).mapM (Chain.value? negate) = some values := by
    apply exists_mapM
    apply Chain.forall_mem_assignedAll
    intro chain member place
    exact ((formed chain member).assigned place).exists_value?
  have some_chain : Chain.assignedAll truth 0 restriction.chains ≠ [] := by
    rw [← List.length_pos_iff, Chain.length_assignedAll, List.length_pos_iff]
    exact Restriction.chains_ne_nil effective
  have assigned_separable : restriction.junction = .or ∨
      (Chain.assignedAll truth 0 restriction.chains).length = 1 ∨
      ∀ chain ∈ Chain.assignedAll truth 0 restriction.chains, .connective .or ∉ chain := by
    rw [Chain.length_assignedAll]
    refine separable.imp_right (Or.imp_right fun absent => ?_)
    apply Chain.forall_mem_assignedAll
    intro chain member place
    exact (Chain.connective_mem_assigned_iff .or place chain).not.mpr (absent chain member)
  use values, valued
  rw [Restriction.condition, Chain.assigned_connected,
    Chain.value?_connected restriction.junction some_chain assigned_separable, valued]
  rfl

/-- Three groups connected by AND, one of them a negation. -/
theorem Statement.compile_meaning_sample :
    ∃ command, (Statement.update .sample).compile .postgres ⟨"s", "t"⟩ = .ok command ∧
      command.HasCondition .postgres ⟨"s", "t"⟩ (.update .sample)
        Restriction.sample.condition ∧
      (Chain.assignedAll (fun place => place != 2) 0 Restriction.sample.chains).mapM
          (Chain.value? not) = some [true, true, true] ∧
      Chain.value? not (Chain.assigned (fun place => place != 2) 0
          Restriction.sample.condition) = some true := by
  obtain ⟨command, compiled⟩ :
      ∃ command, (Statement.update .sample).compile .postgres ⟨"s", "t"⟩ = .ok command :=
    ⟨_, rfl⟩
  have formed : ∀ chain ∈ Restriction.sample.chains,
      Chain.Sentence (fun _ => True) chain ∧ .connective .or ∉ chain := by
    rw [Restriction.chains_sample]
    simp only [List.forall_mem_cons, List.not_mem_nil, false_imp_iff, implies_true, and_true]
    exact ⟨⟨.term (.predicate trivial), by simp⟩, ⟨.term (.predicate trivial), by simp⟩,
      .term (.not (.predicate trivial)), by simp⟩
  have restricted : (Statement.update .sample).restriction? = some Restriction.sample := rfl
  obtain ⟨condition, values, valued, whole⟩ :=
    Statement.compile_meaning compiled restricted rfl
      (fun chain member => (formed chain member).1)
      (.inr (.inr fun chain member => (formed chain member).2)) not (fun place => place != 2)
  have each : (Chain.assignedAll (fun place => place != 2) 0 Restriction.sample.chains).mapM
      (Chain.value? not) = some [true, true, true] := rfl
  obtain rfl : values = [true, true, true] := Option.some.inj (valued.symm.trans each)
  exact ⟨command, compiled, condition, each, whole⟩

/-- Across an OR the groups do not keep their meaning: of the two groups here,
the second is false. -/
example :
    (Chain.value? not (Chain.connected .and
        [[.predicate true, .connective .or, .predicate true], [.predicate false]]),
      Chain.value? not [.predicate true, .connective .or, .predicate true],
      Chain.value? not [.predicate false]) = (some true, some true, some false) := by
  decide

end ParamSql

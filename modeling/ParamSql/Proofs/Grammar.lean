import ParamSql.Proofs.Condition

/-!
# The grammar of conditions

A condition is a sentence if it is made of terms with AND or OR between them,
where a term is a predicate behind any number of NOTs.  Whether a chain is one
is read off from left to right: a term begins at the start and behind AND and
OR, and only AND and OR stand behind a predicate.

Chains that are connected form a sentence exactly if each of them is one: the
connective between two of them stands where no sentence could be inside of a
term, so it neither joins two halves of a term nor cuts one.
-/

namespace ParamSql

namespace Chain

variable {α : Type}

/-! ## Sentences -/

/-- A predicate behind any number of NOTs. -/
inductive Term (legal : α → Prop) : Chain α → Prop where
  | predicate {p : α} (allowed : legal p) : Term legal [.predicate p]
  | not {chain : Chain α} (term : Term legal chain) : Term legal (.connective .not :: chain)

/-- Terms with AND or OR between any two of them. -/
inductive Sentence (legal : α → Prop) : Chain α → Prop where
  | term {chain : Chain α} (term : Term legal chain) : Sentence legal chain
  | join {first rest : Chain α} (term : Term legal first) (junction : Junction)
      (sentence : Sentence legal rest) :
      Sentence legal (first ++ .connective junction.toConnective :: rest)

variable {legal : α → Prop}

theorem Sentence.not {chain : Chain α} (sentence : Sentence legal chain) :
    Sentence legal (.connective .not :: chain) := by
  cases sentence with
  | term term => exact .term (.not term)
  | join term junction sentence => exact .join (.not term) junction sentence

/-! ## Reading from left to right -/

/-- Where a reader of a chain stands. -/
inductive Place where
  /-- A term begins or goes on behind a NOT. -/
  | beforePredicate
  /-- A predicate has just been read. -/
  | behindPredicate

/-- What is left of a chain completes a sentence from a place on. -/
def Reads (legal : α → Prop) : Place → Chain α → Prop
  | .beforePredicate, .predicate p :: rest => legal p ∧ Reads legal .behindPredicate rest
  | .beforePredicate, .connective .not :: rest => Reads legal .beforePredicate rest
  | .behindPredicate, [] => True
  | .behindPredicate, .connective .and :: rest => Reads legal .beforePredicate rest
  | .behindPredicate, .connective .or :: rest => Reads legal .beforePredicate rest
  | _, _ => False

theorem reads_junction_cons (junction : Junction) (rest : Chain α) :
    Reads legal .behindPredicate (.connective junction.toConnective :: rest) ↔
      Reads legal .beforePredicate rest := by
  cases junction <;> exact Iff.rfl

theorem not_reads_junction_cons (junction : Junction) (rest : Chain α) :
    ¬ Reads legal .beforePredicate (.connective junction.toConnective :: rest) := by
  cases junction <;> exact id

/-- Behind a term a reader stands behind a predicate. -/
theorem Term.reads_append {first : Chain α} (term : Term legal first) (rest : Chain α) :
    Reads legal .beforePredicate (first ++ rest) ↔ Reads legal .behindPredicate rest := by
  induction term with
  | predicate allowed => exact and_iff_right allowed
  | not term ih => exact ih

theorem sentence_iff_reads {chain : Chain α} :
    Sentence legal chain ↔ Reads legal .beforePredicate chain := by
  constructor
  · intro sentence
    induction sentence with
    | @term chain term =>
        rw [← List.append_nil chain, term.reads_append]
        trivial
    | join term junction _ ih =>
        rw [term.reads_append, reads_junction_cons]
        exact ih
  · intro reads
    -- Behind a predicate nothing is left, or a junction and another sentence.
    have general : ∀ chain : Chain α,
        (Reads legal .beforePredicate chain → Sentence legal chain) ∧
        (Reads legal .behindPredicate chain → chain = [] ∨
          ∃ (junction : Junction) (rest : Chain α),
            chain = .connective junction.toConnective :: rest ∧ Sentence legal rest) := by
      intro chain
      induction chain with
      | nil => exact ⟨False.elim, fun _ => .inl rfl⟩
      | cons link rest ih =>
          obtain ⟨before, behind⟩ := ih
          rcases link with p | (_ | _ | _)
          · constructor
            · rintro ⟨allowed, reads⟩
              rcases behind reads with rfl | ⟨junction, later, rfl, sentence⟩
              · exact .term (.predicate allowed)
              · exact .join (.predicate allowed) junction sentence
            · exact False.elim
          · exact ⟨False.elim, fun reads => .inr ⟨.and, rest, rfl, before reads⟩⟩
          · exact ⟨False.elim, fun reads => .inr ⟨.or, rest, rfl, before reads⟩⟩
          · exact ⟨fun reads => (before reads).not, False.elim⟩
    exact (general chain).1 reads

/-! ## Connected chains -/

/-- A junction ends what stands in front of it and begins anew, wherever the
reader comes from. -/
theorem reads_append_junction (place : Place) (first : Chain α) (junction : Junction)
    (rest : Chain α) :
    Reads legal place (first ++ .connective junction.toConnective :: rest) ↔
      Reads legal place first ∧ Reads legal .beforePredicate rest := by
  induction first generalizing place with
  | nil =>
      cases place with
      | beforePredicate =>
          exact iff_of_false (not_reads_junction_cons junction rest) And.left
      | behindPredicate =>
          exact (reads_junction_cons junction rest).trans (and_iff_right trivial).symm
  | cons link links ih =>
      have stuck : False ↔ False ∧ Reads legal .beforePredicate rest :=
        iff_of_false id And.left
      cases place with
      | beforePredicate =>
          rcases link with p | (_ | _ | _)
          · exact (and_congr_right fun _ => ih .behindPredicate).trans and_assoc.symm
          · exact stuck
          · exact stuck
          · exact ih .beforePredicate
      | behindPredicate =>
          rcases link with p | (_ | _ | _)
          · exact stuck
          · exact ih .beforePredicate
          · exact ih .beforePredicate
          · exact stuck

/-- Connected chains form a sentence exactly if each of them is one. -/
theorem sentence_connected_iff (junction : Junction) {chains : List (Chain α)}
    (some_chain : chains ≠ []) :
    Sentence legal (connected junction chains) ↔
      ∀ chain ∈ chains, Sentence legal chain := by
  induction chains with
  | nil => contradiction
  | cons chain rest ih =>
      cases rest with
      | nil => rw [connected, List.intercalate_singleton, List.forall_mem_singleton]
      | cons next rest =>
          rw [connected_cons_cons, List.singleton_append, sentence_iff_reads,
            reads_append_junction, ← sentence_iff_reads, ← sentence_iff_reads,
            ih (List.cons_ne_nil _ _), List.forall_mem_cons (a := chain)]

end Chain

/-! ## Compiled statements -/

/-- The condition of a statement that compiles with a predicate is a sentence
exactly if each of its groups is one, without the connectives behind its last
predicate, and the condition ends in a predicate in any case. -/
theorem Statement.compile_grammatical {dialect : Dialect} {table : QualifiedName}
    {statement : Statement} {command : Command} {restriction : Restriction}
    (compiled : statement.compile dialect table = .ok command)
    (restricted : statement.restriction? = some restriction)
    (effective : restriction.isEffective = true) :
    command.HasCondition dialect table statement restriction.condition ∧
      (Chain.Sentence Decoder.Listed restriction.condition ↔
        ∀ chain ∈ restriction.chains, Chain.Sentence Decoder.Listed chain) ∧
      restriction.condition.EndsInPredicate := by
  have some_chain := Restriction.chains_ne_nil effective
  constructor
  · exact Statement.hasCondition_of_compile compiled restricted effective
  constructor
  · exact Chain.sentence_connected_iff restriction.junction some_chain
  · apply Chain.endsInPredicate_connected restriction.junction some_chain
    intro chain member
    exact Restriction.endsInPredicate_of_mem_chains member

/-- The groups of the sample are sentences, though two of them have a
connective at their end, and so its condition is one. -/
theorem Statement.compile_grammatical_sample :
    ∃ command, (Statement.update .sample).compile .postgres ⟨"s", "t"⟩ = .ok command ∧
      command.HasCondition .postgres ⟨"s", "t"⟩ (.update .sample)
        Restriction.sample.condition ∧
      Chain.Sentence Decoder.Listed Restriction.sample.condition ∧
      Restriction.sample.condition.EndsInPredicate := by
  obtain ⟨command, compiled⟩ :
      ∃ command, (Statement.update .sample).compile .postgres ⟨"s", "t"⟩ = .ok command :=
    ⟨_, rfl⟩
  have restricted : (Statement.update .sample).restriction? = some Restriction.sample := rfl
  obtain ⟨condition, grammatical, ends⟩ :=
    Statement.compile_grammatical compiled restricted rfl
  have groups : ∀ chain ∈ Restriction.sample.chains, Chain.Sentence Decoder.Listed chain := by
    intro chain member
    rw [Restriction.chains_sample] at member
    simp only [List.mem_cons, List.not_mem_nil, or_false] at member
    rcases member with rfl | rfl | rfl
    · exact .term (.predicate trivial)
    · exact .term (.predicate (List.cons_ne_nil _ _))
    · exact .term (.not (.predicate trivial))
  exact ⟨command, compiled, condition, grammatical.mpr groups, ends⟩

end ParamSql

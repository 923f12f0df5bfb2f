import Mathlib.Data.List.Forall2
import ParamSql.Proofs.Application

/-!
# Runs of migrations go on where others ended

A run decides by the ledger what to apply, so it goes on where an earlier run
ended, be it with success or with a failure.  The main result has three parts:
two runs are one run of both lists, a run that is repeated only reads the
ledger, and a run after a failure does what is missing.
-/

namespace ParamSql

variable {δ : Type}

/-! ## What a store knows after a run -/

namespace Store

variable {store : Store δ}

theorem opened_of_present (ledger : Ledger) (present : store.recorded.isSome = true) :
    store.opened ledger = store := by
  rcases store with ⟨_ | recorded, data⟩
  · cases present
  · rfl

/-- The names that a store is extended by come last. -/
theorem names_extended (names : List String) (data : δ) :
    (store.extended names data).names = store.names ++ names := by
  rw [Store.names, extended, Option.getD_some, List.reduceOption_append, Store.names]
  congr 1
  induction names with
  | nil => rfl
  | cons name rest ih => rw [List.map_cons, List.reduceOption_cons_of_some, ih]

end Store

namespace Migration

theorem unapplied_self (recorded : List String) (migrations : List Migration) :
    unapplied (recorded ++ (unapplied recorded migrations).map Migration.name) migrations = [] := by
  refine unapplied_eq_nil_iff.mpr fun m member => ?_
  rw [map_name_unapplied, List.mem_append, List.mem_eraseDups, List.mem_filter]
  by_cases known : m.name ∈ recorded
  · exact .inl known
  · exact .inr ⟨List.mem_map_of_mem member, by simpa using known⟩

/-- What is to be applied up to a migration is what is to be applied of the
list up to it. -/
theorem exists_of_unapplied_eq_append {recorded : List String}
    {migrations before after : List Migration} {m : Migration}
    (split : unapplied recorded migrations = before ++ m :: after) :
    ∃ front back, migrations = front ++ m :: back ∧ unapplied recorded front = before := by
  induction migrations generalizing recorded before with
  | nil => cases before <;> cases split
  | cons first rest ih =>
      by_cases known : first.name ∈ recorded
      · rw [unapplied_cons_of_mem known] at split
        obtain ⟨front, back, rfl, equal⟩ := ih split
        exact ⟨first :: front, back, rfl, (unapplied_cons_of_mem known front).trans equal⟩
      · rw [unapplied_cons_of_not_mem known] at split
        cases before with
        | nil =>
            cases split
            exact ⟨[], rest, rfl, rfl⟩
        | cons next later =>
            obtain ⟨rfl, remaining⟩ := List.cons_eq_cons.mp split
            obtain ⟨front, back, rfl, equal⟩ := ih remaining
            refine ⟨first :: front, back, rfl, ?_⟩
            rw [unapplied_cons_of_not_mem known, equal]

/-- Migrations of one name that do the same, each in its world. -/
def SameEffect (world world' : Backend δ) (m m' : Migration) : Prop :=
  m.name = m'.name ∧ m.effect world = m'.effect world'

variable {world world' : Backend δ} {migrations migrations' : List Migration}

theorem forall₂_unapplied (recorded : List String)
    (same : List.Forall₂ (SameEffect world world') migrations migrations') :
    List.Forall₂ (SameEffect world world') (unapplied recorded migrations)
      (unapplied recorded migrations') := by
  induction same generalizing recorded with
  | nil => exact .nil
  | @cons m m' _ _ first later ih =>
      by_cases known : m.name ∈ recorded
      · rw [unapplied_cons_of_mem known, unapplied_cons_of_mem (first.1 ▸ known)]
        exact ih recorded
      · rw [unapplied_cons_of_not_mem known, unapplied_cons_of_not_mem (first.1 ▸ known),
          ← first.1]
        exact .cons first (ih _)

theorem map_name_eq (same : List.Forall₂ (SameEffect world world') migrations migrations') :
    migrations.map Migration.name = migrations'.map Migration.name := by
  induction same with
  | nil => rfl
  | cons first later ih => rw [List.map_cons, List.map_cons, first.1, ih]

theorem effects_eq (same : List.Forall₂ (SameEffect world world') migrations migrations') :
    effects world migrations = effects world' migrations' := by
  funext data
  induction same generalizing data with
  | nil => rfl
  | @cons m m' _ _ first later ih =>
      rw [effects, effects, List.foldlM_cons, List.foldlM_cons, first.2]
      cases m'.effect world' data with
      | error error => rfl
      | ok changed => exact ih changed

end Migration

/-! ## Runs one after the other -/

namespace Ledger

variable (ledger : Ledger) (world : Backend δ)

/-- What a run of migrations answers, and the connection after it. -/
def migrated (migrations : List Migration) (connection : Connection δ) :
    Except Error (List String) × Connection δ :=
  (ledger.migrate migrations).outcome (ledger.server world) connection

variable {ledger world} {store : Store δ}

theorem migrated_eq {migrations : List Migration} (alone : ∀ m ∈ migrations, m.LeavesAlone ledger)
    (store : Store δ) :
    ledger.migrated world migrations ⟨store, none⟩ =
      let advanced := (store.opened ledger).advance world
        (Migration.unapplied (store.opened ledger).names migrations)
      (advanced.1, ⟨advanced.2, none⟩) :=
  outcome_migrate ledger world alone store

theorem migrated_of_present {migrations : List Migration}
    (alone : ∀ m ∈ migrations, m.LeavesAlone ledger) (present : store.recorded.isSome = true) :
    ledger.migrated world migrations ⟨store, none⟩ =
      let advanced := store.advance world (Migration.unapplied store.names migrations)
      (advanced.1, ⟨advanced.2, none⟩) := by
  rw [migrated_eq alone, Store.opened_of_present ledger present]

/-- A run that succeeds extends the store by what was to be applied. -/
theorem extended_of_migrated {migrations : List Migration}
    (alone : ∀ m ∈ migrations, m.LeavesAlone ledger) {names : List String}
    {final : Connection δ}
    (run : ledger.migrated world migrations ⟨store, none⟩ = (.ok names, final)) :
    names = (Migration.unapplied (store.opened ledger).names migrations).map Migration.name ∧
      ∃ data, Migration.effects world
          (Migration.unapplied (store.opened ledger).names migrations) store.data = .ok data ∧
        final = ⟨(store.opened ledger).extended names data, none⟩ := by
  have present : (store.opened ledger).recorded.isSome = true := rfl
  rw [migrated_eq alone] at run
  rcases Migration.effects_cases world
      (Migration.unapplied (store.opened ledger).names migrations) store.data with
    ⟨data, applied⟩ | ⟨before, failing, after, data, error, split, applied, failed⟩
  · rw [Store.advance_of_effects present applied] at run
    cases run
    exact ⟨rfl, data, applied, rfl⟩
  · rw [split, Store.advance_of_failure present after applied failed] at run
    cases run

/-- A list that begins with migrations of which all have been applied to a
store: the store goes on with the rest. -/
theorem migrated_append {first second : List Migration}
    (alone : ∀ m ∈ first ++ second, m.LeavesAlone ledger) {data : δ}
    (applied : Migration.effects world
      (Migration.unapplied (store.opened ledger).names first) store.data = .ok data) :
    let names := (Migration.unapplied (store.opened ledger).names first).map Migration.name
    let between := (store.opened ledger).extended names data
    ledger.migrated world (first ++ second) ⟨store, none⟩ =
      let (answer, final) := between.advance world (Migration.unapplied between.names second)
      (answer.map (names ++ ·), ⟨final, none⟩) := by
  intro names between
  have present : (store.opened ledger).recorded.isSome = true := rfl
  rw [migrated_eq alone, Migration.unapplied_append, Store.advance_append,
    Store.advance_of_effects present applied, Store.names_extended]

theorem applyNew_of_recorded {seen : List String} {migrations : List Migration}
    (known : ∀ m ∈ migrations, m.name ∈ seen) :
    applyNew ledger seen migrations = .done (.ok []) := by
  induction migrations with
  | nil => rfl
  | cons m rest ih =>
      obtain ⟨first, others⟩ := List.forall_mem_cons.mp known
      rw [applyNew, if_pos first, ih others]

/-- A run that finds all names recorded only reads them. -/
theorem exchanges_of_recorded (present : store.recorded.isSome = true)
    {migrations : List Migration} (known : ∀ m ∈ migrations, m.name ∈ store.names) :
    (ledger.migrate migrations).exchanges (ledger.server world) ⟨store, none⟩ =
      [⟨.query ledger.namesText [], store.read⟩] := by
  rcases store with ⟨_ | recorded, data⟩
  · cases present
  have read : ledger.read.exchanges (ledger.server world) ⟨⟨some recorded, data⟩, none⟩ =
      [⟨.query ledger.namesText [], Store.read ⟨some recorded, data⟩⟩] := by
    rw [read_eq, Session.exchanges]
    simp only [answer_query_idle, query_namesText]
    rfl
  have names : ledger.read.outcome (ledger.server world) ⟨⟨some recorded, data⟩, none⟩ =
      (.ok recorded.reduceOption, ⟨⟨some recorded, data⟩, none⟩) := by
    rw [outcome_read, ← Store.namesOf_rows]
    rfl
  have nothing : applyNew ledger recorded.reduceOption migrations = .done (.ok []) :=
    applyNew_of_recorded known
  rw [migrate, readOrCreate, Session.andThen, Session.bind_assoc, Session.exchanges_bind, read,
    names]
  simp only [Session.bind_done, nothing]
  rfl

/-- Runs of migrations go on where others ended.

Two runs, of which the first succeeds, are one run of both lists: the names are
those of both, and the store or the failure is that of the second.  A run that
is repeated after a success asks one request, which reads the ledger.

A run that fails names the first migration that could not be applied.  What it
committed are the new names before that migration.  A later run, in a world of
its own and with any rest of the list, goes on from there, if the migrations
before are the same and do the same: together the two do what one run of the
later list does. -/
theorem migrate_resumes (ledger : Ledger) (world : Backend δ) (store : Store δ) :
    (∀ first second : List Migration, (∀ m ∈ first ++ second, m.LeavesAlone ledger) →
      ∀ names between, ledger.migrated world first ⟨store, none⟩ = (.ok names, between) →
        ledger.migrated world (first ++ second) ⟨store, none⟩ =
          let (answer, final) := ledger.migrated world second between
          (answer.map (names ++ ·), final)) ∧
      (∀ migrations : List Migration, (∀ m ∈ migrations, m.LeavesAlone ledger) →
        ∀ names final, ledger.migrated world migrations ⟨store, none⟩ = (.ok names, final) →
          ledger.migrated world migrations final = (.ok [], final) ∧
            (ledger.migrate migrations).exchanges (ledger.server world) final =
              [⟨.query ledger.namesText [], final.committed.read⟩]) ∧
      ∀ migrations : List Migration, (∀ m ∈ migrations, m.LeavesAlone ledger) →
        ∀ error between, ledger.migrated world migrations ⟨store, none⟩ = (.error error, between) →
          ∃ before failing after reason names data, migrations = before ++ failing :: after ∧
            error = .migration failing.name reason ∧
            between = ⟨(store.opened ledger).extended names data, none⟩ ∧
            ∀ (later : Backend δ) (before' rest : List Migration),
              (∀ m ∈ before' ++ rest, m.LeavesAlone ledger) →
              List.Forall₂ (Migration.SameEffect world later) before before' →
                ledger.migrated later (before' ++ rest) ⟨store, none⟩ =
                  let (answer, final) := ledger.migrated later (before' ++ rest) between
                  (answer.map (names ++ ·), final) := by
  refine ⟨?_, ?_, ?_⟩
  · intro first second alone names between run
    obtain ⟨rfl, data, applied, rfl⟩ :=
      extended_of_migrated (fun m member => alone m (List.mem_append_left _ member)) run
    rw [migrated_append alone applied,
      migrated_of_present (fun m member => alone m (List.mem_append_right _ member)) rfl]
  · intro migrations alone names final run
    obtain ⟨rfl, data, applied, rfl⟩ := extended_of_migrated alone run
    have nothing := Migration.unapplied_self (store.opened ledger).names migrations
    rw [← Store.names_extended _ data] at nothing
    constructor
    · rw [migrated_of_present alone rfl, nothing]
      rfl
    · exact exchanges_of_recorded rfl (Migration.unapplied_eq_nil_iff.mp nothing)
  · intro migrations alone error between run
    have present : (store.opened ledger).recorded.isSome = true := rfl
    rw [migrated_eq alone] at run
    rcases Migration.effects_cases world
        (Migration.unapplied (store.opened ledger).names migrations) store.data with
      ⟨data, applied⟩ | ⟨applied, failing, unreached, data, reason, split, effects, failed⟩
    · rw [Store.advance_of_effects present applied] at run
      cases run
    rw [split, Store.advance_of_failure present unreached effects failed] at run
    dsimp only at run
    cases run
    obtain ⟨before, after, rfl, rfl⟩ := Migration.exists_of_unapplied_eq_append split
    refine ⟨before, failing, after, reason, _, data, rfl, rfl, rfl, ?_⟩
    intro later before' rest alone same
    -- The migrations before are done by the first run and skipped by the later one.
    have sameNew := Migration.forall₂_unapplied (store.opened ledger).names same
    have done : Migration.unapplied
        ((store.opened ledger).names ++
          (Migration.unapplied (store.opened ledger).names before').map Migration.name) before' =
        [] := Migration.unapplied_self _ _
    rw [Migration.effects_eq sameNew] at effects
    rw [migrated_append alone effects, migrated_of_present alone rfl,
      Migration.map_name_eq sameNew, Store.names_extended, Migration.unapplied_append, done,
      List.map_nil, List.append_nil, List.nil_append]

/-- Where the sample stops at a text that is refused, and what a later run with
another text makes of it: what one run of the later list makes.  After that run
there is nothing left to do, until further migrations are listed. -/
theorem migrate_resumes_sample :
    Ledger.migrated {} Backend.sample (Migration.sample "bad") ⟨⟨none, ["u"]⟩, none⟩ =
        (.error (.migration "b" (.other "refused")),
          ⟨⟨some [some "init_db", some "a"], ["u", "x"]⟩, none⟩) ∧
      Ledger.migrated {} Backend.sample (Migration.sample "w")
          ⟨⟨some [some "init_db", some "a"], ["u", "x"]⟩, none⟩ =
        (.ok ["b", "c"], ⟨⟨some [some "init_db", some "a", some "b", some "c"],
          ["u", "x", "w", "v"]⟩, none⟩) ∧
      Ledger.migrated {} Backend.sample (Migration.sample "w") ⟨⟨none, ["u"]⟩, none⟩ =
        (.ok ["a", "b", "c"], ⟨⟨some [some "init_db", some "a", some "b", some "c"],
          ["u", "x", "w", "v"]⟩, none⟩) ∧
      Ledger.migrated {} Backend.sample (Migration.sample "w")
          ⟨⟨some [some "init_db", some "a", some "b", some "c"], ["u", "x", "w", "v"]⟩, none⟩ =
        (.ok [], ⟨⟨some [some "init_db", some "a", some "b", some "c"],
          ["u", "x", "w", "v"]⟩, none⟩) ∧
      Ledger.migrated {} Backend.sample (Migration.sample "w" ++ [⟨"b", .sql "q"⟩, ⟨"d", .sql "t"⟩])
          ⟨⟨none, ["u"]⟩, none⟩ =
        (.ok ["a", "b", "c", "d"],
          ⟨⟨some [some "init_db", some "a", some "b", some "c", some "d"],
            ["u", "x", "w", "v", "t"]⟩, none⟩) := by
  have alone : ∀ last, last ≠ ({} : Ledger).creation → ∀ m ∈ Migration.sample last,
      m.LeavesAlone {} := fun _ => Migration.leavesAlone_sample
  have stopped : Ledger.migrated {} Backend.sample (Migration.sample "bad")
      ⟨⟨none, ["u"]⟩, none⟩ = (.error (.migration "b" (.other "refused")),
        ⟨⟨some [some "init_db", some "a"], ["u", "x"]⟩, none⟩) := by
    rw [migrated_eq (alone "bad" (by decide))]
    rfl
  have resumed : Ledger.migrated {} Backend.sample (Migration.sample "w")
      ⟨⟨some [some "init_db", some "a"], ["u", "x"]⟩, none⟩ =
        (.ok ["b", "c"], ⟨⟨some [some "init_db", some "a", some "b", some "c"],
          ["u", "x", "w", "v"]⟩, none⟩) := by
    rw [migrated_eq (alone "w" (by decide))]
    rfl
  obtain ⟨before, failing, after, reason, names, data, split, named, between, goesOn⟩ :=
    (migrate_resumes {} Backend.sample ⟨none, ["u"]⟩).2.2 _ (alone "bad" (by decide)) _ _ stopped
  have failingName : failing.name = "b" := (Error.migration.inj named).1.symm
  have places : ["a", "init_db", "a"] ++ "b" :: ["c"] =
      before.map Migration.name ++ "b" :: after.map Migration.name := by
    have listed := congrArg (List.map Migration.name) split
    rwa [List.map_append, List.map_cons, failingName] at listed
  have count : before.length = 3 := by
    have firsts := ((List.append_cons_inj_of_notMem (by decide) (by decide)).mp places).1
    rw [← List.length_map (f := Migration.name), ← firsts]
    rfl
  have front : before = (Migration.sample "bad").take 3 := by
    rw [split, ← count, List.take_left]
  have committed : names = ["a"] := by
    have recorded := congrArg (fun connection => connection.committed.recorded) between
    simpa [Store.opened, Store.extended] using recorded.symm
  have whole : Migration.sample "w" = before ++ [⟨"b", .sql "w"⟩, ⟨"c", .sql "v"⟩] := by
    rw [front]
    rfl
  have finished := goesOn Backend.sample before [⟨"b", .sql "w"⟩, ⟨"c", .sql "v"⟩]
    (whole ▸ alone "w" (by decide)) (List.forall₂_same.mpr fun _ _ => ⟨rfl, rfl⟩)
  rw [← whole, resumed, committed] at finished
  have further : ∀ m ∈ ([⟨"b", .sql "q"⟩, ⟨"d", .sql "t"⟩] : List Migration),
      m.LeavesAlone {} := by
    simp only [List.forall_mem_cons]
    exact ⟨Migration.leavesAlone_sql _ (by decide), Migration.leavesAlone_sql _ (by decide),
      List.forall_mem_nil _⟩
  have repeated :=
    (migrate_resumes {} Backend.sample ⟨none, ["u"]⟩).2.1 _ (alone "w" (by decide)) _ _ finished
  have continued := (migrate_resumes {} Backend.sample ⟨none, ["u"]⟩).1 _ _
    (List.forall_mem_append.mpr ⟨alone "w" (by decide), further⟩) _ _ finished
  refine ⟨stopped, resumed, finished, repeated.1, continued.trans ?_⟩
  rw [migrated_of_present further rfl]
  rfl

end Ledger

end ParamSql

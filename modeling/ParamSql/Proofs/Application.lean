import Mathlib.Data.List.ReduceOption
import ParamSql.Proofs.Store

/-!
# Migrations are applied once, in order

Of a list of migrations, a run is to apply those whose names are not in the
ledger, each name once, in the order of the list.  The main result says what a
run on a transactional store comes to: it goes through these migrations up to
the first that fails.  Those before it have been applied to the data and
entered, and the failing one has left no trace.
-/

namespace ParamSql

/-! ## Migrations that are to be applied -/

/-- The migrations whose names have not been recorded; of those with one name
the first. -/
def Migration.unapplied (recorded : List String) (migrations : List Migration) :
    List Migration :=
  (migrations.filter fun m => m.name ∉ recorded).eraseDupsBy fun m other => m.name = other.name

namespace Migration

variable {recorded : List String} {migration : Migration} {migrations : List Migration}

@[simp]
theorem unapplied_nil (recorded : List String) : unapplied recorded [] = [] :=
  rfl

theorem unapplied_cons_of_mem (known : migration.name ∈ recorded)
    (rest : List Migration) :
    unapplied recorded (migration :: rest) = unapplied recorded rest := by
  rw [unapplied, List.filter_cons_of_neg (by simpa using known), unapplied]

theorem unapplied_cons_of_not_mem (new : migration.name ∉ recorded) (rest : List Migration) :
    unapplied recorded (migration :: rest) =
      migration :: unapplied (migration.name :: recorded) rest := by
  rw [unapplied, List.filter_cons_of_pos (by simpa using new), List.eraseDupsBy_cons,
    List.filter_filter, unapplied]
  simp only [List.mem_cons, not_or, Bool.decide_and, decide_not, decide_eq_false_iff_not]

theorem unapplied_congr {other : List String} (same : ∀ name, name ∈ recorded ↔ name ∈ other)
    (migrations : List Migration) : unapplied recorded migrations = unapplied other migrations := by
  simp only [unapplied, same]

/-- The names of the migrations that are to be applied: the new ones in their
order, each at its first occurrence. -/
theorem map_name_unapplied (recorded : List String) (migrations : List Migration) :
    (unapplied recorded migrations).map Migration.name =
      ((migrations.map Migration.name).filter fun name => name ∉ recorded).eraseDups := by
  induction migrations generalizing recorded with
  | nil => rfl
  | cons migration rest ih =>
      by_cases known : migration.name ∈ recorded
      · rw [unapplied_cons_of_mem known, ih, List.map_cons,
          List.filter_cons_of_neg (by simpa using known)]
      · rw [unapplied_cons_of_not_mem known, List.map_cons, ih, List.map_cons,
          List.filter_cons_of_pos (by simpa using known), List.eraseDups_cons, List.filter_filter]
        simp only [List.mem_cons, not_or, Bool.decide_and, decide_not, beq_eq_decide]

/-- What is to be applied of two lists: of the second, what the first leaves
to be applied. -/
theorem unapplied_append (recorded : List String) (first second : List Migration) :
    unapplied recorded (first ++ second) =
      unapplied recorded first ++
        unapplied (recorded ++ (unapplied recorded first).map Migration.name) second := by
  induction first generalizing recorded with
  | nil => simp
  | cons migration rest ih =>
      by_cases known : migration.name ∈ recorded
      · rw [List.cons_append, unapplied_cons_of_mem known, unapplied_cons_of_mem known, ih]
      · rw [List.cons_append, unapplied_cons_of_not_mem known, unapplied_cons_of_not_mem known,
          ih, List.cons_append]
        congr 2
        refine unapplied_congr (fun name => ?_) second
        simp only [List.map_cons, List.mem_append, List.mem_cons, or_left_comm]

theorem unapplied_eq_nil_iff :
    unapplied recorded migrations = [] ↔ ∀ m ∈ migrations, m.name ∈ recorded := by
  induction migrations with
  | nil => simp
  | cons migration rest ih =>
      by_cases known : migration.name ∈ recorded
      · rw [unapplied_cons_of_mem known, ih]
        simp [known]
      · rw [unapplied_cons_of_not_mem known]
        simp [known]

end Migration

/-! ## Advancing a store -/

variable {δ : Type}

/-- Apply migrations to data one after the other, up to the first that
fails. -/
def Migration.effects (world : Backend δ) (migrations : List Migration) (data : δ) :
    Except Error δ :=
  migrations.foldlM (fun data m => m.effect world data) data

/-- Either all migrations can be applied, or those before one that fails. -/
theorem Migration.effects_cases (world : Backend δ) (migrations : List Migration) (data : δ) :
    (∃ changed, effects world migrations data = .ok changed) ∨
      ∃ before failing after changed error, migrations = before ++ failing :: after ∧
        effects world before data = .ok changed ∧
        failing.effect world changed = .error error := by
  induction migrations generalizing data with
  | nil => exact .inl ⟨data, rfl⟩
  | cons m rest ih =>
      cases applied : m.effect world data with
      | error error => exact .inr ⟨[], m, rest, data, error, rfl, rfl, applied⟩
      | ok next =>
          have first : ∀ list, effects world (m :: list) data = effects world list next := by
            intro list
            rw [effects, List.foldlM_cons, applied]
            rfl
          rcases ih next with ⟨changed, all⟩ | ⟨before, failing, after, changed, error, rfl,
            applied, failed⟩
          · exact .inl ⟨changed, (first rest).trans all⟩
          · exact .inr ⟨m :: before, failing, after, changed, error, rfl,
              (first before).trans applied, failed⟩

namespace Store

/-- A store whose ledger has further names and whose data are replaced. -/
def extended (store : Store δ) (names : List String) (data : δ) : Store δ where
  recorded := some (store.recorded.getD [] ++ names.map some)
  data := data

/-- Apply each of the migrations to a store and enter its name, up to the first
that fails. -/
def advance (world : Backend δ) (store : Store δ) :
    List Migration → Except Error (List String) × Store δ
  | [] => (.ok [], store)
  | m :: rest =>
      match m.effect world store.data with
      | .error error => (.error (.migration m.name error), store)
      | .ok data =>
          let (answer, final) := advance world (store.extended [m.name] data) rest
          (answer.map (m.name :: ·), final)

variable {world : Backend δ} {store : Store δ}

theorem advance_cons {m : Migration} {data : δ} (applied : m.effect world store.data = .ok data)
    (rest : List Migration) :
    store.advance world (m :: rest) =
      let (answer, final) := (store.extended [m.name] data).advance world rest
      (answer.map (m.name :: ·), final) := by
  rw [advance, applied]

theorem extended_extended (first second : List String) (data changed : δ) :
    (store.extended first data).extended second changed =
      store.extended (first ++ second) changed := by
  simp [extended]

theorem extended_nil (present : store.recorded.isSome = true) :
    store.extended [] store.data = store := by
  rcases store with ⟨_ | recorded, data⟩
  · cases present
  · simp [extended]

theorem advance_append (first second : List Migration) :
    store.advance world (first ++ second) =
      match store.advance world first with
      | (.error error, between) => (.error error, between)
      | (.ok names, between) =>
          let (answer, final) := between.advance world second
          (answer.map (names ++ ·), final) := by
  induction first generalizing store with
  | nil =>
      simp only [List.nil_append, advance]
      rcases store.advance world second with ⟨error | names, final⟩ <;> rfl
  | cons m rest ih =>
      rw [List.cons_append, advance, advance]
      cases m.effect world store.data with
      | error error => rfl
      | ok data =>
          dsimp only
          rw [ih]
          rcases (store.extended [m.name] data).advance world rest with ⟨error | names, between⟩
          · rfl
          · dsimp only [Except.map]
            rcases between.advance world second with ⟨error | others, final⟩ <;> rfl

/-- Migrations that can all be applied extend the store by their names. -/
theorem advance_of_effects {store : Store δ} (present : store.recorded.isSome = true)
    {migrations : List Migration} {data : δ}
    (applied : Migration.effects world migrations store.data = .ok data) :
    store.advance world migrations =
      (.ok (migrations.map Migration.name),
        store.extended (migrations.map Migration.name) data) := by
  induction migrations generalizing store with
  | nil =>
      cases applied
      rw [advance, List.map_nil, extended_nil present]
  | cons m rest ih =>
      cases effect : m.effect world store.data with
      | error error =>
          rw [Migration.effects, List.foldlM_cons, effect] at applied
          cases applied
      | ok next =>
          rw [Migration.effects, List.foldlM_cons, effect] at applied
          have listed : (store.extended [m.name] next).recorded.isSome = true := rfl
          rw [advance_cons effect, ih listed applied, extended_extended]
          rfl

/-- The first migration that fails is named, and the store is extended by those
before it. -/
theorem advance_of_failure (present : store.recorded.isSome = true)
    {before : List Migration} {failing : Migration} (after : List Migration) {data : δ}
    {error : Error} (applied : Migration.effects world before store.data = .ok data)
    (failed : failing.effect world data = .error error) :
    store.advance world (before ++ failing :: after) =
      (.error (.migration failing.name error),
        store.extended (before.map Migration.name) data) := by
  have failed : failing.effect world (store.extended (before.map Migration.name) data).data =
      .error error := failed
  rw [advance_append, advance_of_effects present applied]
  dsimp only
  rw [advance, failed]
  rfl

end Store

namespace Ledger

variable (ledger : Ledger) (world : Backend δ)

/-- Applying the new migrations of a list advances a store whose recorded names
are known. -/
theorem outcome_applyNew {seen : List String} {recorded : List (Option String)}
    (known : ∀ name, name ∈ seen ↔ some name ∈ recorded) (data : δ)
    {migrations : List Migration} (alone : ∀ m ∈ migrations, m.LeavesAlone ledger) :
    (applyNew ledger seen migrations).outcome (ledger.server world) ⟨⟨some recorded, data⟩, none⟩ =
      let advanced := Store.advance world ⟨some recorded, data⟩
        (Migration.unapplied seen migrations)
      (advanced.1, ⟨advanced.2, none⟩) := by
  induction migrations generalizing seen recorded data with
  | nil => rfl
  | cons migration rest ih =>
      obtain ⟨first, others⟩ := List.forall_mem_cons.mp alone
      by_cases old : migration.name ∈ seen
      · rw [applyNew, if_pos old, Migration.unapplied_cons_of_mem old]
        exact ih known data others
      have new : some migration.name ∉ recorded := fun member => old ((known _).mpr member)
      rw [applyNew, if_neg old, Migration.unapplied_cons_of_not_mem old, Session.outcome_bind,
        outcome_apply ledger world first new, Store.advance]
      cases migration.effect world data with
      | error error => rfl
      | ok changed =>
          have known : ∀ name, name ∈ migration.name :: seen ↔
              some name ∈ recorded ++ [some migration.name] := by
            intro name
            simp [known, or_comm]
          simp only [Session.outcome_notify, Session.outcome_andThen, ih known changed others,
            Store.extended, Option.getD_some, List.map_cons, List.map_nil]
          rcases Store.advance world ⟨some (recorded ++ [some migration.name]), changed⟩
            (Migration.unapplied (migration.name :: seen) rest) with ⟨error | names, final⟩ <;> rfl

/-- A run of migrations sees to the ledger and then advances the store by those
that are to be applied. -/
theorem outcome_migrate {migrations : List Migration}
    (alone : ∀ m ∈ migrations, m.LeavesAlone ledger) (store : Store δ) :
    (ledger.migrate migrations).outcome (ledger.server world) ⟨store, none⟩ =
      let advanced := (store.opened ledger).advance world
        (Migration.unapplied (store.opened ledger).names migrations)
      (advanced.1, ⟨advanced.2, none⟩) := by
  have known : ∀ name, name ∈ (store.opened ledger).names ↔
      some name ∈ store.recorded.getD [some ledger.initialName] := by
    intro name
    exact List.reduceOption_mem_iff
  rw [migrate, Session.outcome_andThen, outcome_readOrCreate]
  exact outcome_applyNew ledger world known store.data alone

/-- Migrations that can all be applied, each once and in order, are answered
with their names.  They are those whose names are not in the ledger, each at
its first occurrence, and their names are entered behind those that were
recorded.  Where one fails it is named, together with its error, and the store
is left as the migrations before it made it. -/
theorem migrate_applies_once {migrations : List Migration}
    (alone : ∀ m ∈ migrations, m.LeavesAlone ledger) (store : Store δ) :
    let start := store.opened ledger
    let new := Migration.unapplied start.names migrations
    let run := (ledger.migrate migrations).outcome (ledger.server world) ⟨store, none⟩
    (∀ names final, run = (.ok names, final) ↔
        names = ((migrations.map Migration.name).filter fun name => name ∉ start.names).eraseDups ∧
          ∃ data, Migration.effects world new store.data = .ok data ∧
            final = ⟨start.extended names data, none⟩) ∧
      ∀ before failing after data error, new = before ++ failing :: after →
        Migration.effects world before store.data = .ok data →
        failing.effect world data = .error error →
          run = (.error (.migration failing.name error),
            ⟨start.extended (before.map Migration.name) data, none⟩) := by
  intro start new run
  have present : start.recorded.isSome = true := rfl
  have course : run = ((start.advance world new).1, ⟨(start.advance world new).2, none⟩) :=
    outcome_migrate ledger world alone store
  have stops : ∀ before failing after data error, new = before ++ failing :: after →
      Migration.effects world before store.data = .ok data →
      failing.effect world data = .error error →
        run = (.error (.migration failing.name error),
          ⟨start.extended (before.map Migration.name) data, none⟩) := by
    intro before failing after data error split applied failed
    rw [course, split, Store.advance_of_failure present after applied failed]
  refine ⟨fun names final => ⟨fun returned => ?_, ?_⟩, stops⟩
  · rcases Migration.effects_cases world new store.data with ⟨data, applied⟩ |
      ⟨before, failing, after, data, error, split, applied, failed⟩
    · rw [course, Store.advance_of_effects present applied] at returned
      cases returned
      exact ⟨Migration.map_name_unapplied _ _, data, applied, rfl⟩
    · rw [stops before failing after data error split applied failed] at returned
      cases returned
  · rintro ⟨rfl, data, applied, rfl⟩
    rw [course, Store.advance_of_effects present applied,
      ← Migration.map_name_unapplied]

end Ledger

/-- Texts other than the ledger's own leave it alone. -/
theorem Migration.leavesAlone_sql {ledger : Ledger} (name : String) {text : String}
    (other : text ≠ ledger.creation) : (⟨name, .sql text⟩ : Migration).LeavesAlone ledger :=
  Session.Asks.andThen ⟨other, fun _ => trivial⟩ fun _ => trivial

/-- A world that keeps the texts it is given to run, but refuses one of them. -/
def Backend.sample : Backend (List String) where
  answer
    | .begin, texts => (.ok (), texts)
    | .commit, texts => (.ok (), texts)
    | .rollback, texts => (.ok (), texts)
    | .batch sql, texts =>
        if sql = "bad" then (.error (.other "refused"), texts) else (.ok (), texts ++ [sql])
    | .query _ _, texts => (.ok [], texts)
    | .execute _ _, texts => (.ok 0, texts)

/-- Migrations of which one has the name of the new ledger and one the name of
another. -/
def Migration.sample (last : String) : List Migration :=
  [⟨"a", .sql "x"⟩, ⟨"init_db", .sql "y"⟩, ⟨"a", .sql "z"⟩, ⟨"b", .sql last⟩, ⟨"c", .sql "v"⟩]

theorem Migration.leavesAlone_sample {last : String} (other : last ≠ ({} : Ledger).creation) :
    ∀ m ∈ sample last, m.LeavesAlone {} := by
  simp only [sample, List.forall_mem_cons]
  exact ⟨leavesAlone_sql _ (by decide), leavesAlone_sql _ (by decide),
    leavesAlone_sql _ (by decide), leavesAlone_sql _ other, leavesAlone_sql _ (by decide),
    List.forall_mem_nil _⟩

/-- On a store without a ledger three of the migrations are applied, or only
the one before a text that is refused. -/
theorem Ledger.migrate_applies_once_sample :
    (∀ m ∈ Migration.sample "w", m.LeavesAlone {}) ∧
      (Ledger.migrate {} (Migration.sample "w")).outcome (Ledger.server {} Backend.sample)
          ⟨⟨none, ["u"]⟩, none⟩ =
        (.ok ["a", "b", "c"], ⟨⟨some [some "init_db", some "a", some "b", some "c"],
          ["u", "x", "w", "v"]⟩, none⟩) ∧
      (Ledger.migrate {} (Migration.sample "bad")).outcome (Ledger.server {} Backend.sample)
          ⟨⟨none, ["u"]⟩, none⟩ =
        (.error (.migration "b" (.other "refused")),
          ⟨⟨some [some "init_db", some "a"], ["u", "x"]⟩, none⟩) := by
  have alone : ∀ m ∈ Migration.sample "w", m.LeavesAlone {} :=
    Migration.leavesAlone_sample (by decide)
  have aloneBad : ∀ m ∈ Migration.sample "bad", m.LeavesAlone {} :=
    Migration.leavesAlone_sample (by decide)
  refine ⟨alone, ?_, ?_⟩
  · exact ((Ledger.migrate_applies_once {} Backend.sample alone ⟨none, ["u"]⟩).1 _ _).mpr
      ⟨rfl, _, rfl, rfl⟩
  · exact (Ledger.migrate_applies_once {} Backend.sample aloneBad ⟨none, ["u"]⟩).2
      [⟨"a", .sql "x"⟩] ⟨"b", .sql "bad"⟩ [⟨"c", .sql "v"⟩] ["u", "x"] (.other "refused")
      rfl rfl rfl

end ParamSql

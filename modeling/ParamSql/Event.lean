import ParamSql.Keyword
import ParamSql.Outline
import ParamSql.Value

/-!
# Events

An event is something that is reported while statements are compiled and
migrations applied.  It has a level, comes from a part of the library and
carries fields.
-/

namespace ParamSql

/-! ## Levels and times -/

/-- How important an event is. -/
inductive Level where
  | error
  | warn
  | info
  | debug
  | trace
  deriving DecidableEq, Repr

instance : Keyword Level where
  all := [.error, .warn, .info, .debug, .trace]
  word
    | .error => "ERROR"
    | .warn => "WARN"
    | .info => "INFO"
    | .debug => "DEBUG"
    | .trace => "TRACE"
  label
    | .error => "Error"
    | .warn => "Warn"
    | .info => "Info"
    | .debug => "Debug"
    | .trace => "Trace"

/-- The parts of a level. -/
def Level.outline (level : Level) : Outline :=
  .call "Level" [.atom (Keyword.label level)]

/-- A span of time. -/
structure Duration where
  seconds : Nat
  nanoseconds : Nat
  deriving DecidableEq, Repr

namespace Duration

/-- No time. -/
def zero : Duration := ⟨0, 0⟩

/-- The whole microseconds, in a word of 64 bits. -/
def microseconds (d : Duration) : UInt64 :=
  UInt64.ofNat (d.seconds * 1000000 + d.nanoseconds / 1000)

end Duration

/-! ## Events -/

/-- Something that is reported. -/
inductive Event where
  | statementText (level : Level) (verb : Verb) (sql : String)
  | statementParams (level : Level) (verb : Verb) (params : List Value)
  | statementTiming (level : Level) (verb : Verb) (elapsed : Duration)
  /-- What a log hook reports. -/
  | statementExcerpt (level : Level) (paramCount : Nat) (elapsed : Duration) (excerpt : String)
  | creatingLedger (schema table : String)
  | migrationApplied (name : String)

/-- The content of a field of an event. -/
inductive EventField where
  | text (text : String)
  | number (n : Nat)

namespace Event

/-- The part of the library that an event comes from. -/
def target : Event → String
  | statementText .. | statementParams .. | statementTiming .. | statementExcerpt .. =>
      "sqmap::sql"
  | creatingLedger .. | migrationApplied .. => "sqmap::migrate"

/-- How important the event is. -/
def level : Event → Level
  | statementText level .. => level
  | statementParams level .. => level
  | statementTiming level .. => level
  | statementExcerpt level .. => level
  | creatingLedger .. => .info
  | migrationApplied .. => .info

/-- The fields of an event. -/
def fields : Event → List (String × EventField)
  | statementText _ verb sql =>
      [("kind", .text verb.word), ("sql", .text sql), ("message", .text "SQL query")]
  | statementParams _ verb params =>
      [("kind", .text verb.word), ("params", .text (Value.showAll params)),
        ("message", .text "Params")]
  | statementTiming _ verb elapsed =>
      [("kind", .text verb.word), ("elapsed_us", .number elapsed.microseconds.toNat),
        ("message", .text "Query was parsed and built")]
  | statementExcerpt _ paramCount elapsed excerpt =>
      [("param_count", .number paramCount),
        ("elapsed_us", .number elapsed.microseconds.toNat), ("sql", .text excerpt)]
  | creatingLedger schema table =>
      [("schema", .text schema), ("table", .text table),
        ("message", .text "Creating migrations table")]
  | migrationApplied name =>
      [("migration", .text name), ("message", .text "Migration was executed successfully")]

end Event

end ParamSql

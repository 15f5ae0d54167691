import EntryFilter.Language.Settings
import EntryFilter.Output.Format
import EntryFilter.Predicate.Evaluation
import EntryFilter.Schema.FieldSpec

/-! # Sessions

A session has a schema, settings, and perhaps loaded entries. A filter selects from the entries;
without them its store document is shown. A script runs one filter per line. -/

namespace EntryFilter

structure Session where
  schema : Schema
  entries : Option (List Entry)
  settings : Settings

/-- Why a request to a session fails. -/
inductive SessionError where
  | language (source : String) (error : LanguageError)
  | evaluation (error : EvaluationError)
  | fieldSpec (error : FieldSpecError)
  | schema (error : SchemaError)
  /-- A text that should describe entries does not. -/
  | notEntries
  | unreadable (path reason : String)
  | scriptFailed (failed total : Nat)

namespace SessionError

/-- The message for the user. What exactly is wrong with a JSON text is not said. -/
def message : SessionError → String
  | language source e => e.render source
  | evaluation (.invalidPattern e) => "invalid pattern: " ++ e.message
  | fieldSpec e => e.message
  | schema e => e.message
  | notEntries => "deserialization error: "
  | unreadable path reason => "cannot read " ++ path ++ ": " ++ reason
  | scriptFailed failed total =>
    toString failed ++ " of " ++ toString total ++ " filters failed"

end SessionError

namespace Session

/-- The loaded entries, of which there may be none. -/
def loaded (session : Session) : List Entry := session.entries.getD []

/-- The session with the type of a field declared. -/
def declare (session : Session) (spec : FieldSpec) : Session :=
  { session with schema := session.schema.insert spec.field spec.type }

/-- The session with strict compilation switched on or off. -/
def setStrict (session : Session) (strict : Bool) : Session :=
  { session with settings := { session.settings with strict := strict } }

/-- Compiles a filter and shows what it selects, or its store document. -/
def run [PatternEngine] (session : Session) (format : OutputFormat) (source : String) :
    Except SessionError String :=
  match compileSource session.settings session.schema source with
  | .error e => .error (.language source e)
  | .ok predicate =>
    match session.entries with
    | none => .ok (format.showPredicate predicate)
    | some entries =>
      match predicate.select entries with
      | .error e => .error (.evaluation e)
      | .ok selected => .ok (format.showEntries selected)

/-- Shows whether a filter parses. -/
def validate (session : Session) (format : OutputFormat) (source : String) : String :=
  format.showValidation (.ofSource session.settings.limits source)

/-- Runs a filter, or only validates it. -/
def runLine [PatternEngine] (session : Session) (format : OutputFormat) (validateOnly : Bool)
    (source : String) : Except SessionError String :=
  if validateOnly then .ok (session.validate format source) else session.run format source

/-- Shows what a change of type would do to the loaded entries. -/
def analyze (session : Session) (format : OutputFormat) (spec : String) :
    Except SessionError String :=
  match FieldSpec.read spec with
  | .error e => .error (.fieldSpec e)
  | .ok ⟨field, type⟩ => .ok (format.showReport (TypeChange.report session.loaded field type))

/-- A line that a script passes over: a blank one or a remark. -/
def isRemark (line : List Char) : Bool :=
  line.isEmpty || (Text.after? ['/', '/'] line).isSome || line.head? == some '#'

/-- The filters of a script, without the blanks around them. -/
def scriptFilters (script : String) : List String :=
  (((Text.lines script.toList).map Text.trim).filter (!isRemark ·)).map String.ofList

/-- What a script gives: each filter with its result. -/
def runScript [PatternEngine] (session : Session) (format : OutputFormat) (validateOnly : Bool)
    (script : String) : List (String × Except SessionError String) :=
  (scriptFilters script).map fun source => (source, session.runLine format validateOnly source)

/-- Whether a result is an error. -/
def hasFailed (result : String × Except SessionError String) : Bool :=
  match result.2 with
  | .ok _ => false
  | .error _ => true

/-- The error of a script in which some filters failed. -/
def scriptError? (results : List (String × Except SessionError String)) : Option SessionError :=
  let failed := (results.filter hasFailed).length
  if failed = 0 then none else some (.scriptFailed failed results.length)

end Session

end EntryFilter

import EntryFilter.Json.Token

/-! # Reading JSON

The reader takes the tokens one after the other and keeps a stack of the arrays and objects that
are still open. Its states say what may come next, so each token is looked at once. -/

namespace EntryFilter

namespace Json

/-- An array or object that is still open, with the parts read so far, the latest first. -/
inductive Frame where
  | items (done : List Json)
  | members (done : List (String × Json)) (name : String)

/-- What the reader waits for. -/
inductive ReaderState where
  /-- A value. -/
  | value (frames : List Frame)
  /-- The first item of an array, or its end. -/
  | firstItem (frames : List Frame)
  /-- The first name of an object, or its end. -/
  | firstName (frames : List Frame)
  /-- A further name of an object. -/
  | name (done : List (String × Json)) (frames : List Frame)
  /-- The colon behind a name. -/
  | colon (done : List (String × Json)) (name : String) (frames : List Frame)
  /-- What may follow a finished value. -/
  | finished (value : Json) (frames : List Frame)

/-- The state after the first token of a value. -/
def ReaderState.onValue (frames : List Frame) : Token → Option ReaderState
  | .null => some (.finished .null frames)
  | .bool b => some (.finished (.bool b) frames)
  | .number numeral => some (.finished numeral.toJson frames)
  | .string text => some (.finished (.string text) frames)
  | .beginArray => some (.firstItem frames)
  | .beginObject => some (.firstName frames)
  | _ => none

/-- The state after one more token. -/
def ReaderState.step : ReaderState → Token → Option ReaderState
  | value frames, t => onValue frames t
  | firstItem frames, .endArray => some (.finished (.array []) frames)
  | firstItem frames, t => onValue (.items [] :: frames) t
  | firstName frames, .endObject => some (.finished (.object []) frames)
  | firstName frames, .string text => some (.colon [] text frames)
  | firstName _, _ => none
  | name done frames, .string text => some (.colon done text frames)
  | name _ _, _ => none
  | colon done text frames, .colon => some (.value (.members done text :: frames))
  | colon _ _ _, _ => none
  | finished item (.items done :: frames), .comma =>
    some (.value (.items (item :: done) :: frames))
  | finished item (.items done :: frames), .endArray =>
    some (.finished (.array (item :: done).reverse) frames)
  | finished item (.members done text :: frames), .comma =>
    some (.name ((text, item) :: done) frames)
  | finished item (.members done text :: frames), .endObject =>
    some (.finished (.object ((text, item) :: done).reverse) frames)
  | finished _ _, _ => none

/-- The state after all tokens. -/
def ReaderState.run : ReaderState → List Token → Option ReaderState
  | state, [] => some state
  | state, t :: rest => (state.step t).bind fun next => run next rest

/-- The tree that a row of tokens spells. -/
def ofTokens? (tokens : List Token) : Option Json :=
  match (ReaderState.value []).run tokens with
  | some (.finished value []) => some value
  | _ => none

/-- The tree of a text, if the text is JSON. Limits on numbers and nesting are left to `fits`. -/
def ofText? (text : String) : Option Json := (tokens? text.toList).bind ofTokens?

end Json

end EntryFilter

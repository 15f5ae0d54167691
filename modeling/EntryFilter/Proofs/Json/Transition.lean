import EntryFilter.Json.Reader

/-! # Transitions of the JSON reader

A reader that waits for a value takes the first token of one; in every other state it takes the few
tokens that may come next. What all runs preserve follows from what these transitions preserve. -/

namespace EntryFilter.Json.ReaderState

variable {state next : ReaderState} {frames : List Frame} {t : Token}

/-- The token begins a value in front of the open arrays and objects, and leads to the state. -/
inductive Opens (frames : List Frame) : Token → ReaderState → Prop where
  | null : Opens frames .null (.finished .null frames)
  | bool (b : Bool) : Opens frames (.bool b) (.finished (.bool b) frames)
  | number (n : Numeral) : Opens frames (.number n) (.finished n.toJson frames)
  | string (text : String) : Opens frames (.string text) (.finished (.string text) frames)
  | array : Opens frames .beginArray (.firstItem frames)
  | object : Opens frames .beginObject (.firstName frames)

/-- The token leads from one state to the other. -/
inductive Moves : ReaderState → Token → ReaderState → Prop where
  | value {frames : List Frame} {t : Token} {next : ReaderState} : Opens frames t next →
      Moves (.value frames) t next
  | firstItem {frames : List Frame} {t : Token} {next : ReaderState} :
      Opens (.items [] :: frames) t next → Moves (.firstItem frames) t next
  | noItems (frames : List Frame) :
      Moves (.firstItem frames) .endArray (.finished (.array []) frames)
  | nextItem (item : Json) (done : List Json) (frames : List Frame) :
      Moves (.finished item (.items done :: frames)) .comma
        (.value (.items (item :: done) :: frames))
  | endArray (item : Json) (done : List Json) (frames : List Frame) :
      Moves (.finished item (.items done :: frames)) .endArray
        (.finished (.array (item :: done).reverse) frames)
  | firstName (text : String) (frames : List Frame) :
      Moves (.firstName frames) (.string text) (.colon [] text frames)
  | noMembers (frames : List Frame) :
      Moves (.firstName frames) .endObject (.finished (.object []) frames)
  | name (done : List (String × Json)) (text : String) (frames : List Frame) :
      Moves (.name done frames) (.string text) (.colon done text frames)
  | colon (done : List (String × Json)) (text : String) (frames : List Frame) :
      Moves (.colon done text frames) .colon (.value (.members done text :: frames))
  | nextMember (value : Json) (done : List (String × Json)) (text : String) (frames : List Frame) :
      Moves (.finished value (.members done text :: frames)) .comma
        (.name ((text, value) :: done) frames)
  | endObject (value : Json) (done : List (String × Json)) (text : String) (frames : List Frame) :
      Moves (.finished value (.members done text :: frames)) .endObject
        (.finished (.object ((text, value) :: done).reverse) frames)

theorem opens_of_onValue (h : onValue frames t = some next) : Opens frames t next := by
  cases t with
  | null =>
      obtain rfl := Option.some.inj h
      exact .null
  | bool b =>
      obtain rfl := Option.some.inj h
      exact .bool b
  | number n =>
      obtain rfl := Option.some.inj h
      exact .number n
  | string text =>
      obtain rfl := Option.some.inj h
      exact .string text
  | beginArray =>
      obtain rfl := Option.some.inj h
      exact .array
  | beginObject =>
      obtain rfl := Option.some.inj h
      exact .object
  | _ => cases h

/-- Every step of the reader is one of the transitions. -/
theorem moves_of_step (h : state.step t = some next) : Moves state t next := by
  cases state with
  | value frames => exact .value (opens_of_onValue h)
  | firstItem frames =>
      by_cases hend : t = .endArray
      · subst hend
        obtain rfl := Option.some.inj h
        exact .noItems frames
      · rw [step.eq_3 t frames hend] at h
        exact .firstItem (opens_of_onValue h)
  | firstName frames =>
      cases t with
      | endObject =>
          obtain rfl := Option.some.inj h
          exact .noMembers frames
      | string text =>
          obtain rfl := Option.some.inj h
          exact .firstName text frames
      | _ => cases h
  | name done frames =>
      cases t with
      | string text =>
          obtain rfl := Option.some.inj h
          exact .name done text frames
      | _ => cases h
  | colon done text frames =>
      cases t with
      | colon =>
          obtain rfl := Option.some.inj h
          exact .colon done text frames
      | _ => cases h
  | finished json frames =>
      cases frames with
      | nil => cases t <;> cases h
      | cons frame frames =>
          cases frame with
          | items done =>
              cases t with
              | comma =>
                  obtain rfl := Option.some.inj h
                  exact .nextItem json done frames
              | endArray =>
                  obtain rfl := Option.some.inj h
                  exact .endArray json done frames
              | _ => cases h
          | members done text =>
              cases t with
              | comma =>
                  obtain rfl := Option.some.inj h
                  exact .nextMember json done text frames
              | endObject =>
                  obtain rfl := Option.some.inj h
                  exact .endObject json done text frames
              | _ => cases h

end EntryFilter.Json.ReaderState

import EntryFilter.Language.Parser

/-! # Parsing without places

The places of tokens go into the spans of errors and into the advice on an open group. Apart from
them the result is the same wherever the tokens stand, because each step commutes with taking the
places away. -/

namespace EntryFilter

/-! ## Taking places away -/

def Expected.unplaced : Expected → Expected
  | .operator field _ => .operator field (.point 0)
  | expected => expected

def OpenGroup.unplaced (group : OpenGroup) : OpenGroup := ⟨0, group.outer⟩

def PlacedToken.unplaced (token : PlacedToken) : PlacedToken := ⟨token.token, .point 0⟩

def ParserState.unplaced (state : ParserState) : ParserState :=
  ⟨state.groups.map OpenGroup.unplaced, state.chain, state.conditions, state.expected.unplaced⟩

def SyntaxFault.unplaced : SyntaxFault → SyntaxFault
  | unclosedGroup _ => unclosedGroup 0
  | fault => fault

def SyntaxError.unplaced (e : SyntaxError) : SyntaxError := ⟨e.fault.unplaced, .point 0⟩

@[simp] theorem SyntaxError.message_unplaced (e : SyntaxError) : e.unplaced.message = e.message := by
  obtain ⟨fault, span⟩ := e
  cases fault <;> rfl

namespace ParserState

variable {limits : Limits}

/-! ## One step -/

theorem beginCondition_unplaced (state : ParserState) (span : Span) (t : Token) :
    state.unplaced.beginCondition limits (.point 0) t =
      ((state.beginCondition limits span t).map unplaced).mapError SyntaxFault.unplaced := by
  cases t with
  | opening =>
      have hgroups : state.unplaced.groups.length = state.groups.length := List.length_map _
      simp only [beginCondition, hgroups]
      split <;> rfl
  | field name =>
      have hconditions : state.unplaced.conditions = state.conditions := rfl
      simp only [beginCondition, hconditions]
      split <;> rfl
  | _ => rfl

theorem connect_unplaced (state : ParserState) (last : Filter) (t : Token) :
    state.unplaced.connect last t =
      ((state.connect last t).map unplaced).mapError SyntaxFault.unplaced := by
  obtain ⟨groups, chain, n, expected⟩ := state
  cases groups <;> cases t <;> rfl

/-- Where a fault is found is taken away together with the place in it. -/
theorem mapError_unplaced {result erased : Except SyntaxFault ParserState} (span : Span)
    (h : erased = (result.map unplaced).mapError SyntaxFault.unplaced) :
    erased.mapError (fun fault => (⟨fault, .point 0⟩ : SyntaxError)) =
      ((result.mapError fun fault => ⟨fault, span⟩).map unplaced).mapError SyntaxError.unplaced := by
  subst h
  cases result <;> rfl

/-- A step commutes with taking places away. -/
theorem step_unplaced (state : ParserState) (token : PlacedToken) :
    state.unplaced.step limits token.unplaced =
      ((state.step limits token).map unplaced).mapError SyntaxError.unplaced := by
  obtain ⟨groups, chain, n, expected⟩ := state
  obtain ⟨t, span⟩ := token
  cases expected with
  | condition =>
      exact mapError_unplaced span (beginCondition_unplaced ⟨groups, chain, n, .condition⟩ span t)
  | connective last =>
      exact mapError_unplaced span (connect_unplaced ⟨groups, chain, n, .connective last⟩ last t)
  | _ =>
      cases t with
      | keyword k => cases k <;> rfl
      | _ => rfl

theorem finish_unplaced (state : ParserState) (span : Span) :
    state.unplaced.finish (.point 0) = (state.finish span).mapError SyntaxError.unplaced := by
  obtain ⟨groups, chain, n, expected⟩ := state
  cases expected with
  | condition =>
      cases groups with
      | nil =>
          cases hempty : chain.isEmpty <;>
            simp [finish, unplaced, Expected.unplaced, hempty] <;> rfl
      | cons group groups => rfl
  | _ => cases groups <;> rfl

/-! ## The run -/

theorem run_unplaced (limits : Limits) (state : ParserState) (stop : Nat) (row : List PlacedToken) :
    state.unplaced.run limits 0 (row.map PlacedToken.unplaced) =
      (state.run limits stop row).mapError SyntaxError.unplaced := by
  induction row generalizing state stop with
  | nil => exact finish_unplaced state _
  | cons token row ih =>
      rw [List.map_cons, run, run]
      by_cases hdone : token.token = .done
      · rw [if_pos hdone, if_pos (show token.unplaced.token = .done from hdone)]
        exact finish_unplaced state token.span
      · rw [if_neg hdone, if_neg (show ¬ token.unplaced.token = .done from hdone), step_unplaced]
        cases state.step limits token with
        | error e => rfl
        | ok next => exact ih next token.span.stop

end ParserState

/-- Rows of the same tokens spell the same filter or fail with the same message. -/
theorem Filter.ofTokens_eq_of_tokens_eq {limits : Limits} {row row' : List PlacedToken}
    (h : row.map PlacedToken.token = row'.map PlacedToken.token) :
    (Filter.ofTokens limits row).mapError SyntaxError.message =
      (Filter.ofTokens limits row').mapError SyntaxError.message := by
  have hplaces (row : List PlacedToken) : row.map PlacedToken.unplaced =
      (row.map PlacedToken.token).map fun t => ⟨t, .point 0⟩ := by
    rw [List.map_map]
    rfl
  have hmessage (result : Except SyntaxError Filter) : result.mapError SyntaxError.message =
      (result.mapError SyntaxError.unplaced).mapError SyntaxError.message := by
    cases result with
    | ok f => rfl
    | error e => exact congrArg Except.error e.message_unplaced.symm
  have hrun (row : List PlacedToken) := ParserState.initial.run_unplaced limits 0 row
  rw [hmessage, hmessage (Filter.ofTokens limits row'), Filter.ofTokens, Filter.ofTokens, ← hrun,
    ← hrun, hplaces, h, hplaces row']

end EntryFilter

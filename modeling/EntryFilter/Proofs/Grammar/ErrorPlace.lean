import EntryFilter.Proofs.Grammar.Viability
import EntryFilter.Proofs.Lexer.TokenRow

/-! # Where an error points

Parsing stops at the first token with which a source can no longer become a filter within the
limits. The error covers this token, and if an operator is missing there, also the field in front
of it. A source that has no tokens is not parsed at all. -/

namespace EntryFilter

open Grammar

namespace Grammar

/-- The row is not the beginning of a sentence, or it is beyond a limit. -/
def Wrong (limits : Limits) (ts : List Token) : Prop :=
  ¬ BeginsSentence ts ∨ limits.depth < unclosed ts ∨ limits.conditions < fieldCount ts

/-- The least index up to which the row is wrong. -/
structure FirstWrong (limits : Limits) (ts : List Token) (k : Nat) : Prop where
  wrong : Wrong limits (ts.take (k + 1))
  least : ∀ j < k, ¬ Wrong limits (ts.take (j + 1))

end Grammar

namespace ParserState

variable {limits : Limits} {state last next : ParserState} {e : SyntaxError}

/-! ## What has been read is not wrong -/

theorem Reached.not_wrong {ts front : List Token} (hr : Reached limits state ts)
    (hf : front <+: ts) : ¬ Wrong limits front := by
  rintro (hbegins | hdepth | hcount)
  · exact hbegins (hr.spells.beginsSentence.of_prefix hf)
  · have hopen : unclosed front ≤ limits.depth := hr.nests front hf
    omega
  · have hfields : fieldCount front ≤ fieldCount ts := hf.sublist.countP_le
    have hconditions := hr.conditions_eq
    have hlimit := hr.conditions_le
    omega

/-- A token for which the limits leave no room is one too many. -/
theorem Reached.wrong_of_no_room {ts : List Token} {t : Token} (hr : Reached limits state ts)
    (hroom : ¬ state.HasRoom limits t) : Wrong limits (ts ++ [t]) := by
  right
  cases t with
  | opening =>
      left
      have hopen : unclosed (ts ++ [.opening]) = state.groups.length + 1 := by
        rw [unclosed_concat, ← hr.groups_length, openAfter_opening]
      have hfull : limits.depth ≤ state.groups.length := Nat.le_of_not_lt hroom
      omega
  | field name =>
      right
      have hfields : fieldCount (ts ++ [.field name]) = state.conditions + 1 := by
        rw [fieldCount_append, ← hr.conditions_eq, fieldCount_cons, isField_field]
        simp
      have hfull : limits.conditions ≤ state.conditions := Nat.le_of_not_lt hroom
      omega
  | _ => exact absurd trivial hroom

/-! ## Which token is blamed -/

/-- The error covers the given span, and if an operator is missing also the field before it. -/
inductive Blames : ParserState → Span → SyntaxError → Prop where
  | field {groups chain n name place span} :
      Blames ⟨groups, chain, n, .operator name place⟩ span ⟨.noOperator name, place.merge span⟩
  | token {state span fault} : (∀ name, fault ≠ .noOperator name) →
      Blames state span ⟨fault, span⟩

theorem mapError_eq_error {α ε ε' : Type} {result : Except ε α} {f : ε → ε'} {e : ε'} :
    result.mapError f = .error e ↔ ∃ fault, result = .error fault ∧ f fault = e := by
  cases result with
  | error fault => simp [Except.mapError]
  | ok a => simp [Except.mapError]

theorem beginCondition_error_ne {span : Span} {t : Token} {fault : SyntaxFault}
    (h : state.beginCondition limits span t = .error fault) (name : String) :
    fault ≠ .noOperator name := by
  cases t <;> simp only [beginCondition] at h
  case opening =>
    split at h
    · cases h
      exact SyntaxFault.noConfusion
    · cases h
  case field =>
    split at h
    · cases h
      exact SyntaxFault.noConfusion
    · cases h
  all_goals
    cases h
    exact SyntaxFault.noConfusion

theorem connect_error_ne {last : Filter} {t : Token} {fault : SyntaxFault}
    (h : state.connect last t = .error fault) (name : String) : fault ≠ .noOperator name := by
  simp only [connect] at h
  split at h
  all_goals
    cases h
    try exact SyntaxFault.noConfusion

theorem step_blames {token : PlacedToken} (h : state.step limits token = .error e) :
    Blames state token.span e := by
  obtain ⟨groups, chain, n, expected⟩ := state
  cases expected with
  | condition =>
      obtain ⟨fault, hfault, rfl⟩ := mapError_eq_error.1 h
      exact .token (beginCondition_error_ne hfault)
  | operator field place =>
      simp only [step] at h
      split at h
      · cases h
      · cases h
        exact .field
  | value field operator =>
      simp only [step] at h
      split at h
      · cases h
      · cases h
        exact .token fun _ => SyntaxFault.noConfusion
  | check field =>
      simp only [step] at h
      split at h
      all_goals
        cases h
        try exact .token fun _ => SyntaxFault.noConfusion
  | negatedCheck field =>
      simp only [step] at h
      split at h
      all_goals
        cases h
        try exact .token fun _ => SyntaxFault.noConfusion
  | connective last =>
      obtain ⟨fault, hfault, rfl⟩ := mapError_eq_error.1 h
      exact .token (connect_error_ne hfault)

theorem finish_blames {span : Span} (h : state.finish span = .error e) : Blames state span e := by
  obtain ⟨groups, chain, n, expected⟩ := state
  cases expected with
  | condition =>
      cases groups with
      | nil =>
          simp only [finish] at h
          split at h
          · cases h
          · cases h
            exact .token fun _ => SyntaxFault.noConfusion
      | cons group groups =>
          cases h
          exact .token fun _ => SyntaxFault.noConfusion
  | connective last =>
      cases groups with
      | nil => cases h
      | cons group groups =>
          cases h
          exact .token fun _ => SyntaxFault.noConfusion
  | operator field place =>
      cases h
      exact .field
  | _ =>
      cases h
      exact .token fun _ => SyntaxFault.noConfusion

/-! ## The field before a missing operator -/

theorem Advances.eq_field {token : PlacedToken} {name : String} {place : Span}
    (h : Advances limits state token next) (hn : next.expected = .operator name place) :
    token = ⟨.field name, place⟩ := by
  cases h <;> cases hn
  rfl

theorem Reads.ends_with_field {front : List PlacedToken} {name : String} {place : Span}
    (h : Reads limits state front last) (hl : last.expected = .operator name place) :
    (front = [] ∧ state.expected = .operator name place) ∨
      ∃ before, front = before ++ [⟨.field name, place⟩] := by
  induction h with
  | nil => exact .inl ⟨rfl, hl⟩
  | @cons _ _ _ token _ hstep _ ih =>
      right
      rcases ih hl with ⟨rfl, hn⟩ | ⟨before, rfl⟩
      · exact ⟨[], by rw [hstep.eq_field hn, List.nil_append]⟩
      · exact ⟨token :: before, rfl⟩

/-! ## The run that fails -/

/-- The parser stops at a token: it refuses it, or the filter may not end there. -/
def StopsAt (limits : Limits) (state : ParserState) (token : PlacedToken) (e : SyntaxError) :
    Prop :=
  token.token = .done ∧ state.finish token.span = .error e ∨
    token.token ≠ .done ∧ state.step limits token = .error e

theorem exists_stop {tokens : List PlacedToken} {stop : Nat}
    (hdone : ∃ token ∈ tokens, token.token = .done) (h : state.run limits stop tokens = .error e) :
    ∃ front token rest last, tokens = front ++ token :: rest ∧ Reads limits state front last ∧
      StopsAt limits last token e := by
  induction tokens generalizing state stop with
  | nil => simp at hdone
  | cons token tokens ih =>
      rw [run] at h
      by_cases htoken : token.token = .done
      · rw [if_pos htoken] at h
        exact ⟨[], token, tokens, state, rfl, .nil state, .inl ⟨htoken, h⟩⟩
      · rw [if_neg htoken] at h
        split at h
        · rename_i next hnext
          have hdone : ∃ token ∈ tokens, token.token = .done := by
            obtain ⟨other, hother, hend⟩ := hdone
            rcases List.mem_cons.1 hother with rfl | hother
            · exact absurd hend htoken
            · exact ⟨other, hother, hend⟩
          obtain ⟨front, at', rest, last, rfl, hreads, hstop⟩ := ih hdone h
          exact ⟨token :: front, at', rest, last, rfl, .cons (advances_iff.2 hnext) hreads, hstop⟩
        · rename_i e' hstep
          cases h
          exact ⟨[], token, tokens, state, rfl, .nil state, .inr ⟨htoken, hstep⟩⟩

theorem StopsAt.blames {token : PlacedToken} (h : StopsAt limits state token e) :
    Blames state token.span e := by
  rcases h with ⟨-, h⟩ | ⟨-, h⟩
  · exact finish_blames h
  · exact step_blames h

theorem StopsAt.wrong {front : List PlacedToken} {token : PlacedToken}
    (hreads : Reads limits initial front last) (h : StopsAt limits last token e) :
    Wrong limits (front.map PlacedToken.token ++ [token.token]) := by
  rcases h with ⟨hdone, h⟩ | ⟨hdone, h⟩
  · rw [hdone]
    exact .inl (hreads.not_beginsSentence_done h)
  · by_cases hroom : last.HasRoom limits token.token
    · exact .inl (hreads.not_beginsSentence hdone hroom h)
    · have hreached := hreads.reached reached_initial
      exact hreached.wrong_of_no_room hroom

end ParserState

open ParserState

variable {limits : Limits} {e : SyntaxError}

/-- Where the parser stops the tokens are wrong, and not before. -/
theorem firstWrong_of_stop {front rest : List PlacedToken} {token : PlacedToken}
    {last : ParserState} (hreads : Reads limits ParserState.initial front last)
    (h : StopsAt limits last token e) :
    FirstWrong limits ((front ++ token :: rest).map PlacedToken.token) front.length where
  wrong := by
    have hrow : (front ++ token :: rest).map PlacedToken.token =
        front.map PlacedToken.token ++ [token.token] ++ rest.map PlacedToken.token := by
      simp
    rw [hrow, List.take_left' (by simp)]
    exact h.wrong hreads
  least j hj := by
    have hreached : Reached limits last (front.map PlacedToken.token) :=
      hreads.reached reached_initial
    refine hreached.not_wrong ?_
    have htake : ((front ++ token :: rest).map PlacedToken.token).take (j + 1) =
        (front.map PlacedToken.token).take (j + 1) := by
      have hle : j + 1 ≤ (front.map PlacedToken.token).length := by
        rw [List.length_map]
        exact hj
      rw [List.map_append, List.take_append_of_le_length hle]
    rw [htake]
    exact List.take_prefix _ _

theorem Span.merge_of_apart {a b : Span} (ha : a.start ≤ a.stop) (hab : a.stop ≤ b.start)
    (hb : b.start ≤ b.stop) : a.merge b = ⟨a.start, b.stop⟩ := by
  simp only [Span.merge, Span.mk.injEq]
  omega

theorem Span.LiesIn.join {a b : Span} {source : List Char} (ha : a.LiesIn source)
    (hb : b.LiesIn source) (hab : a.stop ≤ b.start) :
    (Span.mk a.start b.stop).LiesIn source where
  start_le := ha.start_le.trans (hab.trans hb.start_le)
  stop_le := hb.stop_le
  start_boundary := ha.start_boundary
  stop_boundary := hb.stop_boundary

/-- The error covers the token with the given index and, if an operator is missing there, also the
field in front of it. -/
def PointsAt (e : SyntaxError) (tokens : List PlacedToken) (k : Nat) : Prop :=
  ∃ token, tokens[k]? = some token ∧
    ((∀ name, e.fault ≠ .noOperator name) ∧ e.span = token.span ∨
      ∃ name field j, e.fault = .noOperator name ∧ k = j + 1 ∧ tokens[j]? = some field ∧
        field.token = .field name ∧ e.span = ⟨field.span.start, token.span.stop⟩)

/-- If the tokens lie in a source one behind the other, the error points at the token at which the
parser stops. -/
theorem pointsAt_of_blames {source : List Char} {front rest : List PlacedToken}
    {token : PlacedToken} {last : ParserState}
    (hin : ∀ x ∈ front ++ token :: rest, x.span.LiesIn source)
    (hapart : (front ++ token :: rest).Pairwise fun x y => x.span.stop ≤ y.span.start)
    (hreads : Reads limits ParserState.initial front last) (h : Blames last token.span e) :
    PointsAt e (front ++ token :: rest) front.length ∧ e.span.LiesIn source := by
  have htoken : token.span.LiesIn source := hin token (by simp)
  have hget : (front ++ token :: rest)[front.length]? = some token := by simp
  cases h with
  | token hfault => exact ⟨⟨token, hget, .inl ⟨hfault, rfl⟩⟩, htoken⟩
  | @field _ _ _ name place =>
      rcases hreads.ends_with_field rfl with ⟨-, hinitial⟩ | ⟨before, rfl⟩
      · cases hinitial
      · have hfield : place.LiesIn source := hin ⟨.field name, place⟩ (by simp)
        have hbetween : place.stop ≤ token.span.start := by
          have hsides := (List.pairwise_append.1 hapart).2.2
          exact hsides ⟨.field name, place⟩ (by simp) token (by simp)
        rw [Span.merge_of_apart hfield.start_le hbetween htoken.start_le]
        refine ⟨⟨token, hget, .inr ⟨name, ⟨.field name, place⟩, before.length, rfl, ?_, ?_, rfl, rfl⟩⟩,
          hfield.join htoken hbetween⟩
        · simp
        · simp

/-- Where a filter is wrong. If the source has tokens, the error points at the first of them, the
end token included, with which they begin no filter or are beyond a limit. If it has none, the
error is the first one that the lexer comes to. It always covers whole characters of the source. -/
theorem parse_error_place (limits : Limits) (source : String) :
    (∀ tokens e, tokenize source = .ok tokens → Filter.parse limits source = .error e →
      ∃ k, FirstWrong limits (tokens.map PlacedToken.token) k ∧ PointsAt e tokens k) ∧
    (∀ e, tokenize source = .error e →
      Filter.parse limits source = .error e ∧ FirstLexicalError source e) ∧
    ∀ e, Filter.parse limits source = .error e → e.span.LiesIn source.toList := by
  have hplace {tokens : List PlacedToken} {e : SyntaxError} (htokens : tokenize source = .ok tokens)
      (h : Filter.parse limits source = .error e) :
      (∃ k, FirstWrong limits (tokens.map PlacedToken.token) k ∧ PointsAt e tokens k) ∧
        e.span.LiesIn source.toList := by
    rw [Filter.parse, htokens] at h
    obtain ⟨front, token, rest, last, rfl, hreads, hstop⟩ :=
      exists_stop (exists_done_of_tokenize htokens) h
    obtain ⟨hpoints, hin⟩ := pointsAt_of_blames (fun x hx => liesIn_of_tokenize htokens hx)
      (apart_of_tokenize htokens) hreads hstop.blames
    exact ⟨⟨front.length, firstWrong_of_stop hreads hstop, hpoints⟩, hin⟩
  have hlexical {e : SyntaxError} (h : tokenize source = .error e) :
      Filter.parse limits source = .error e := by
    rw [Filter.parse, h]
    rfl
  refine ⟨fun tokens e htokens h => (hplace htokens h).1, fun e h => ?_, fun e h => ?_⟩
  · exact ⟨hlexical h, (firstLexicalError_of_tokenize h).1⟩
  · cases htokens : tokenize source with
    | ok tokens => exact (hplace htokens h).2
    | error e' =>
        obtain rfl : e' = e := Except.error.inj ((hlexical htokens).symm.trans h)
        exact (firstLexicalError_of_tokenize htokens).2

/-- In `(a b` the second field is the first token that is wrong, and the error begins at the first
field, which has no operator. -/
theorem parse_error_place_of_two_fields : ∃ tokens e,
    tokenize "(a b" = .ok tokens ∧ Filter.parse .standard "(a b" = .error e ∧
      ∃ k, FirstWrong .standard (tokens.map PlacedToken.token) k ∧ PointsAt e tokens k := by
  have htokens : tokenize "(a b" = .ok [⟨.opening, ⟨0, 1⟩⟩, ⟨.field "a", ⟨1, 2⟩⟩,
      ⟨.field "b", ⟨3, 4⟩⟩, ⟨.done, ⟨4, 4⟩⟩] := by
    decide +kernel
  have hparse : Filter.parse .standard "(a b" = .error ⟨.noOperator "a", ⟨1, 4⟩⟩ := by
    decide +kernel
  exact ⟨_, _, htokens, hparse, (parse_error_place .standard "(a b").1 _ _ htokens hparse⟩

end EntryFilter

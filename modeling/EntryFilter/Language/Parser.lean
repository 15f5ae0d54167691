import EntryFilter.Filter.Basic
import EntryFilter.Language.Lexer
import EntryFilter.Language.Settings

/-! # Parsing filters

The parser takes the tokens one after the other. It keeps the groups that are open, and for the
innermost one the finished left sides of `or` and `and`; what it waits for tells which tokens may
come next. Conjunctions bind tighter than disjunctions, and both lean to the left. -/

namespace EntryFilter

/-- The finished left sides to which the next condition or group will be joined. -/
structure Chain where
  alternative : Option Filter
  conjunct : Option Filter

namespace Chain

/-- The chain at the start of a filter or group. -/
def empty : Chain := ⟨none, none⟩

def isEmpty (chain : Chain) : Bool := chain.alternative.isNone && chain.conjunct.isNone

/-- The conjunction that ends with the given filter. -/
def conjoin (chain : Chain) (last : Filter) : Filter :=
  match chain.conjunct with
  | some left => .and left last
  | none => last

/-- The whole of the chain, if it ends with the given filter. -/
def close (chain : Chain) (last : Filter) : Filter :=
  match chain.alternative with
  | some left => .or left (chain.conjoin last)
  | none => chain.conjoin last

/-- The chain behind the given filter and `and`. -/
def continueAnd (chain : Chain) (last : Filter) : Chain :=
  ⟨chain.alternative, some (chain.conjoin last)⟩

/-- The chain behind the given filter and `or`. -/
def continueOr (chain : Chain) (last : Filter) : Chain := ⟨some (chain.close last), none⟩

end Chain

/-- A group that is open: the offset of its parenthesis and the chain before it. -/
structure OpenGroup where
  offset : Nat
  outer : Chain

/-- What may come next. -/
inductive Expected where
  /-- A field, or a group. -/
  | condition
  /-- The operator behind a field. -/
  | operator (field : String) (span : Span)
  | value (field : String) (operator : Operator)
  /-- The rest of a check behind `is`. -/
  | check (field : String)
  /-- The rest of a check behind `is not`. -/
  | negatedCheck (field : String)
  /-- What follows a finished condition or group. -/
  | connective (last : Filter)

structure ParserState where
  groups : List OpenGroup
  chain : Chain
  conditions : Nat
  expected : Expected

namespace ParserState

/-- The state before the first token. -/
def initial : ParserState := ⟨[], .empty, 0, .condition⟩

/-- The state that waits for something else. -/
def await (state : ParserState) (expected : Expected) : ParserState :=
  { state with expected := expected }

/-- The state behind a finished condition. -/
def finishCondition (state : ParserState) (field : String) (operator : Operator)
    (operand : Option Literal) : ParserState :=
  state.await (.connective (.condition field operator operand))

/-- The state behind a field or a parenthesis with which a condition begins. -/
def beginCondition (limits : Limits) (state : ParserState) (span : Span) :
    Token → Except SyntaxFault ParserState
  | .opening =>
    if limits.depth < state.groups.length + 1 then .error (.tooDeep limits.depth)
    else .ok { state with groups := ⟨span.start, state.chain⟩ :: state.groups, chain := .empty }
  | .field name =>
    if limits.conditions < state.conditions + 1 then .error (.tooManyConditions limits.conditions)
    else .ok { state with conditions := state.conditions + 1, expected := .operator name span }
  | found => .error (.noCondition found)

/-- What follows a field and the given token, if the token is an operator or begins one. -/
def afterField? (field : String) : Token → Option Expected
  | .compare operator => some (.value field operator)
  | .keyword .contains => some (.value field .contains)
  | .keyword .startsWith => some (.value field .startsWith)
  | .keyword .endsWith => some (.value field .endsWith)
  | .keyword .is => some (.check field)
  | _ => none

/-- The literal of a token. -/
def literal? : Token → Option Literal
  | .text s => some (.text s)
  | .number x => some (.number x)
  | .bool b => some (.bool b)
  | _ => none

/-- The state behind a token that follows a finished condition or group. -/
def connect (state : ParserState) (last : Filter) (token : Token) :
    Except SyntaxFault ParserState :=
  match token, state.groups with
  | .and, _ => .ok { state with chain := state.chain.continueAnd last, expected := .condition }
  | .or, _ => .ok { state with chain := state.chain.continueOr last, expected := .condition }
  | .closing, group :: groups =>
    .ok { state with
      groups := groups, chain := group.outer, expected := .connective (state.chain.close last) }
  | _, group :: _ => .error (.unclosedGroup group.offset)
  | found, [] => .error (.unexpectedToken found)

/-- The state after one more token. The error of a missing operator begins at its field, all
others begin at the token. -/
def step (limits : Limits) (state : ParserState) (next : PlacedToken) :
    Except SyntaxError ParserState :=
  let here (result : Except SyntaxFault ParserState) : Except SyntaxError ParserState :=
    result.mapError fun fault => ⟨fault, next.span⟩
  match state.expected with
  | .condition => here (state.beginCondition limits next.span next.token)
  | .operator field span =>
    match afterField? field next.token with
    | some expected => .ok (state.await expected)
    | none => .error ⟨.noOperator field, span.merge next.span⟩
  | .value field operator =>
    match literal? next.token with
    | some literal => .ok (state.finishCondition field operator (some literal))
    | none => here (.error (.noValue next.token))
  | .check field =>
    match next.token with
    | .keyword .null => .ok (state.finishCondition field .isNull none)
    | .keyword .empty => .ok (state.finishCondition field .isEmpty none)
    | .keyword .not => .ok (state.await (.negatedCheck field))
    | _ => here (.error .incompleteCheck)
  | .negatedCheck field =>
    match next.token with
    | .keyword .null => .ok (state.finishCondition field .isNotNull none)
    | .keyword .empty => .ok (state.finishCondition field .isNotEmpty none)
    | _ => here (.error .incompleteNegatedCheck)
  | .connective last => here (state.connect last next.token)

/-- The filter that ends in a state, where the end of the source has the given span. -/
def finish (state : ParserState) (span : Span) : Except SyntaxError Filter :=
  let refuse (fault : SyntaxFault) : Except SyntaxError Filter := .error ⟨fault, span⟩
  match state.expected, state.groups with
  | .connective last, [] => .ok (state.chain.close last)
  | .connective _, group :: _ => refuse (.unclosedGroup group.offset)
  | .condition, [] => if state.chain.isEmpty then .ok .blank else refuse (.noCondition .done)
  | .condition, _ => refuse (.noCondition .done)
  | .operator field fieldSpan, _ => .error ⟨.noOperator field, fieldSpan.merge span⟩
  | .value _ _, _ => refuse (.noValue .done)
  | .check _, _ => refuse .incompleteCheck
  | .negatedCheck _, _ => refuse .incompleteNegatedCheck

/-- Parses tokens up to the first end token, or to the end of the list, which lies at the given
offset if the list is empty. -/
def run (limits : Limits) (state : ParserState) (stop : Nat) :
    List PlacedToken → Except SyntaxError Filter
  | [] => state.finish (.point stop)
  | next :: rest =>
    if next.token = .done then state.finish next.span
    else
      match state.step limits next with
      | .ok state => run limits state next.span.stop rest
      | .error e => .error e

end ParserState

/-- The filter that a row of tokens spells. -/
def Filter.ofTokens (limits : Limits) (tokens : List PlacedToken) : Except SyntaxError Filter :=
  ParserState.initial.run limits 0 tokens

/-- The filter that a source spells. -/
def Filter.parse (limits : Limits) (source : String) : Except SyntaxError Filter :=
  (tokenize source).bind (Filter.ofTokens limits)

end EntryFilter

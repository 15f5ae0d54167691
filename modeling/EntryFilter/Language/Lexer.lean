import EntryFilter.Language.SyntaxError
import EntryFilter.Number.Numeral
import EntryFilter.Text.Cut
import EntryFilter.Text.Letter
import EntryFilter.Text.Offset

/-! # Cutting a filter into tokens

Behind blanks the longest possible lexeme is taken from the source. A lexeme is never empty, so
every step makes progress, also one that ends in an error. -/

namespace EntryFilter

open EntryFilter.Text

/-- The kinds of lexeme. -/
inductive LexemeKind where
  | opening
  | closing
  | compare (comparison : Comparison)
  /-- A sign that is often mistaken for an operator. -/
  | misspelled
  /-- Text between two quotes. -/
  | quoted
  /-- A quote that is not closed, and all that follows it. -/
  | unclosed
  | number
  | word
  /-- A character with which no lexeme begins. -/
  | stray
  deriving DecidableEq

/-- A lexeme and the text behind it. -/
structure Lexeme where
  kind : LexemeKind
  text : List Char
  rest : List Char

namespace Lexeme

/-- A character with which a word begins. -/
def isWordStart (c : Char) : Bool := isLetter c || c = '_'

/-- A character inside a word. -/
def isWordPart (c : Char) : Bool :=
  isLetter c || isNumber c || c = '_' || c = '.' || c = '-'

/-- Text up to and including a quote, or all of it if the quote does not come. A backslash takes
the meaning off the next character. The truth value tells whether the quote came. -/
def untilQuote (quote : Char) : List Char → Bool × List Char × List Char
  | [] => (false, [], [])
  | '\\' :: c :: rest =>
    let (closed, text, after) := untilQuote quote rest
    (closed, '\\' :: c :: text, after)
  | c :: rest =>
    if c = quote then (true, [c], rest)
    else
      let (closed, text, after) := untilQuote quote rest
      (closed, c :: text, after)

/-- Digits, perhaps with a point and further digits behind them. -/
def numeral (cs : List Char) : List Char × List Char :=
  let whole := cs.takeWhile isAsciiDigit
  match cs.dropWhile isAsciiDigit with
  | '.' :: rest => (whole ++ '.' :: rest.takeWhile isAsciiDigit, rest.dropWhile isAsciiDigit)
  | rest => (whole, rest)

/-- The lexeme that begins with a quote. -/
def ofQuote (quote : Char) (rest : List Char) : Lexeme :=
  let (closed, text, after) := untilQuote quote rest
  ⟨if closed then .quoted else .unclosed, quote :: text, after⟩

/-- The lexeme that begins with a comparison sign, which an equals sign may make longer. -/
def ofSign (c : Char) (short long : LexemeKind) : List Char → Lexeme
  | '=' :: rest => ⟨long, [c, '='], rest⟩
  | rest => ⟨short, [c], rest⟩

/-- The lexeme that begins with a minus sign. -/
def ofMinus (rest : List Char) : Lexeme :=
  if rest.head?.any isAsciiDigit then
    ⟨.number, '-' :: (numeral rest).1, (numeral rest).2⟩
  else ⟨.stray, ['-'], rest⟩

/-- The longest lexeme at the front of a text. -/
def cut (c : Char) (rest : List Char) : Lexeme :=
  match c with
  | '(' => ⟨.opening, [c], rest⟩
  | ')' => ⟨.closing, [c], rest⟩
  | '=' => ofSign c (.compare .eq) .misspelled rest
  | '!' => ofSign c .misspelled (.compare .ne) rest
  | '>' => ofSign c (.compare .gt) (.compare .gte) rest
  | '<' => ofSign c (.compare .lt) (.compare .lte) rest
  | '"' => ofQuote c rest
  | '\'' => ofQuote c rest
  | '-' => ofMinus rest
  | _ =>
    if isAsciiDigit c then ⟨.number, (numeral (c :: rest)).1, (numeral (c :: rest)).2⟩
    else if isWordStart c then ⟨.word, c :: rest.takeWhile isWordPart, rest.dropWhile isWordPart⟩
    else ⟨.stray, [c], rest⟩

/-- Text without the backslashes that take the meaning off a character. -/
def unescape : List Char → List Char
  | '\\' :: c :: rest => c :: unescape rest
  | ['\\'] => []
  | c :: rest => c :: unescape rest
  | [] => []

/-- The token of a lexeme, or what is wrong with it. -/
def token (lexeme : Lexeme) : Except SyntaxFault Token :=
  match lexeme.kind with
  | .opening => .ok .opening
  | .closing => .ok .closing
  | .compare c => .ok (.compare (.compare c))
  | .misspelled => .error (.unknownOperator (String.ofList lexeme.text))
  | .quoted => .ok (.text (String.ofList (unescape lexeme.text.tail.dropLast)))
  | .unclosed => .error (.unterminatedText (lexeme.text.headD '"'))
  | .number =>
    match Binary64.read? lexeme.text with
    | some x => .ok (.number x)
    | none => .error (.invalidNumber (String.ofList lexeme.text))
  | .word => .ok (Token.ofWord lexeme.text)
  | .stray => .error (.unexpectedCharacter (lexeme.text.headD '?'))

theorem untilQuote_append (quote : Char) (cs : List Char) :
    (untilQuote quote cs).2.1 ++ (untilQuote quote cs).2.2 = cs := by
  fun_induction untilQuote with
  | case1 => rfl
  | case2 c rest closed text after h ih => simp_all
  | case3 => rfl
  | case4 c rest hc closed text after h ih => simp_all

theorem numeral_append (cs : List Char) : (numeral cs).1 ++ (numeral cs).2 = cs := by
  have h := List.takeWhile_append_dropWhile (p := isAsciiDigit) (l := cs)
  unfold numeral
  split
  · rename_i rest hrest
    rw [hrest] at h
    simpa [List.takeWhile_append_dropWhile] using h
  · exact h

/-- A lexeme and the text behind it make up the whole text. -/
theorem cut_append (c : Char) (rest : List Char) :
    (cut c rest).text ++ (cut c rest).rest = c :: rest := by
  have hsign (short long : LexemeKind) :
      (ofSign c short long rest).text ++ (ofSign c short long rest).rest = c :: rest := by
    unfold ofSign
    split <;> simp
  have hquote : (ofQuote c rest).text ++ (ofQuote c rest).rest = c :: rest := by
    simp [ofQuote, untilQuote_append]
  unfold cut
  split
  · rfl
  · rfl
  · exact hsign _ _
  · exact hsign _ _
  · exact hsign _ _
  · exact hsign _ _
  · exact hquote
  · exact hquote
  · unfold ofMinus
    split <;> simp [numeral_append]
  · split
    · exact numeral_append _
    · split <;> simp [List.takeWhile_append_dropWhile]

/-- A lexeme is never empty. -/
theorem cut_text_ne_nil (c : Char) (rest : List Char) : (cut c rest).text ≠ [] := by
  unfold cut
  split
  all_goals try simp
  any_goals (unfold ofSign; split <;> simp)
  · simp [ofQuote]
  · simp [ofQuote]
  · unfold ofMinus
    split <;> simp
  · split
    · rename_i h
      simp only [numeral, List.takeWhile_cons, h, if_true]
      split <;> simp
    · split <;> simp

theorem cut_rest_length (c : Char) (rest : List Char) :
    (cut c rest).rest.length < (c :: rest).length := by
  have happend := congrArg List.length (cut_append c rest)
  have htext := List.length_pos_iff.2 (cut_text_ne_nil c rest)
  rw [List.length_append] at happend
  omega

end Lexeme

/-- A place in a source: its byte offset and the text behind it. -/
structure Cursor where
  offset : Nat
  rest : List Char

namespace Cursor

/-- The start of a source. -/
def ofSource (source : String) : Cursor := ⟨0, source.toList⟩

/-- The place behind the blanks. -/
def skipBlanks (cursor : Cursor) : Cursor :=
  ⟨cursor.offset + byteLength (cursor.rest.takeWhile isBlank), trimStart cursor.rest⟩

/-- The token of a lexeme that begins at an offset. -/
def place (offset : Nat) (lexeme : Lexeme) : Except SyntaxError PlacedToken :=
  let span : Span := ⟨offset, offset + byteLength lexeme.text⟩
  match lexeme.token with
  | .ok token => .ok ⟨token, span⟩
  | .error fault => .error ⟨fault, span⟩

/-- The next token or error, and the place behind it. At the end of the source the final token
comes again and again. -/
def next (cursor : Cursor) : Except SyntaxError PlacedToken × Cursor :=
  let start := cursor.skipBlanks
  match start.rest with
  | [] => (.ok ⟨.done, .point start.offset⟩, start)
  | c :: rest =>
    let lexeme := Lexeme.cut c rest
    (place start.offset lexeme, ⟨start.offset + byteLength lexeme.text, lexeme.rest⟩)

/-- What a number of steps give, errors included. -/
def steps : Nat → Cursor → List (Except SyntaxError PlacedToken)
  | 0, _ => []
  | n + 1, cursor => cursor.next.1 :: steps n cursor.next.2

theorem trimStart_length (cs : List Char) : (trimStart cs).length ≤ cs.length := by
  induction cs with
  | nil => simp [trimStart]
  | cons c cs ih =>
      simp only [trimStart, List.dropWhile_cons] at ih ⊢
      split
      · exact Nat.le_succ_of_le ih
      · exact Nat.le_refl _

/-- All tokens up to the end of the source, or the first error. -/
def tokens (cursor : Cursor) : Except SyntaxError (List PlacedToken) :=
  let start := cursor.skipBlanks
  match _h : start.rest with
  | [] => .ok [⟨.done, .point start.offset⟩]
  | c :: rest =>
    let lexeme := Lexeme.cut c rest
    match place start.offset lexeme with
    | .error e => .error e
    | .ok token =>
      (tokens ⟨start.offset + byteLength lexeme.text, lexeme.rest⟩).map (token :: ·)
termination_by cursor.rest.length
decreasing_by
  have hskip : (trimStart cursor.rest).length ≤ cursor.rest.length := trimStart_length _
  have hrest : trimStart cursor.rest = c :: rest := _h
  have hcut := Lexeme.cut_rest_length c rest
  rw [hrest] at hskip
  exact Nat.lt_of_lt_of_le hcut hskip

end Cursor

/-- The tokens of a filter, of which the last marks its end, or the first error. -/
def tokenize (source : String) : Except SyntaxError (List PlacedToken) :=
  (Cursor.ofSource source).tokens

end EntryFilter

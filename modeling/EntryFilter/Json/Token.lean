import EntryFilter.Json.Numeral

/-! # JSON tokens

A JSON text is a row of tokens with blanks between them. `tokens?` gives the row, or nothing when
some part of the text is no token: an unknown word, a malformed number, an unfinished string, a
control character or an unpaired surrogate inside a string. -/

namespace EntryFilter

open EntryFilter.Text

namespace Json

inductive Token where
  | beginArray
  | endArray
  | beginObject
  | endObject
  | colon
  | comma
  | null
  | bool (value : Bool)
  | number (numeral : Numeral)
  | string (text : String)

/-- The four characters that may stand between tokens. -/
def isSpace (c : Char) : Bool := c = ' ' || c = '\n' || c = '\t' || c = '\r'

/-- The value of a hexadecimal digit. -/
def hexDigit? (c : Char) : Option Nat :=
  if '0' ≤ c ∧ c ≤ '9' then some (c.toNat - '0'.toNat)
  else if 'a' ≤ c ∧ c ≤ 'f' then some (c.toNat - 'a'.toNat + 10)
  else if 'A' ≤ c ∧ c ≤ 'F' then some (c.toNat - 'A'.toNat + 10)
  else none

/-- The value of four hexadecimal digits. -/
def hexUnit? (a b c d : Char) : Option Nat := do
  let a ← hexDigit? a
  let b ← hexDigit? b
  let c ← hexDigit? c
  let d ← hexDigit? d
  return ((a * 16 + b) * 16 + c) * 16 + d

/-- The character that a one-letter escape stands for. -/
def shortEscape? : Char → Option Char
  | '"' => some '"'
  | '\\' => some '\\'
  | '/' => some '/'
  | 'b' => some '\x08'
  | 'f' => some '\x0c'
  | 'n' => some '\n'
  | 'r' => some '\r'
  | 't' => some '\t'
  | _ => none

/-- First half of a surrogate pair. -/
def isHighSurrogate (unit : Nat) : Bool := 0xD800 ≤ unit && unit < 0xDC00

/-- Second half of a surrogate pair. -/
def isLowSurrogate (unit : Nat) : Bool := 0xDC00 ≤ unit && unit < 0xE000

/-- The character that a surrogate pair stands for. -/
def pairedChar (high low : Nat) : Char :=
  Char.ofNat (0x10000 + (high - 0xD800) * 0x400 + (low - 0xDC00))

/-- The content of a string, read behind its opening quote, and the text after the string. -/
def stringBody? : List Char → Option (List Char × List Char)
  | [] => none
  | '"' :: rest => some ([], rest)
  | '\\' :: 'u' :: a :: b :: c :: d :: '\\' :: 'u' :: e :: f :: g :: h :: rest =>
    match hexUnit? a b c d with
    | none => none
    | some unit =>
      if isLowSurrogate unit then none
      else if isHighSurrogate unit then
        match hexUnit? e f g h with
        | none => none
        | some low =>
          if isLowSurrogate low then
            (stringBody? rest).map fun (body, after) => (pairedChar unit low :: body, after)
          else none
      else
        (stringBody? ('\\' :: 'u' :: e :: f :: g :: h :: rest)).map fun (body, after) =>
          (Char.ofNat unit :: body, after)
  | '\\' :: 'u' :: a :: b :: c :: d :: rest =>
    match hexUnit? a b c d with
    | none => none
    | some unit =>
      if isLowSurrogate unit || isHighSurrogate unit then none
      else (stringBody? rest).map fun (body, after) => (Char.ofNat unit :: body, after)
  | '\\' :: letter :: rest =>
    match shortEscape? letter with
    | none => none
    | some c => (stringBody? rest).map fun (body, after) => (c :: body, after)
  | c :: rest =>
    if c = '\\' ∨ c.toNat < 0x20 then none
    else (stringBody? rest).map fun (body, after) => (c :: body, after)

/-- The digits at the front of a text, at least one, and the text after them. -/
def digits? (cs : List Char) : Option (List Char × List Char) :=
  match cs.takeWhile isAsciiDigit with
  | [] => none
  | digits => some (digits, cs.dropWhile isAsciiDigit)

/-- The digits before the point: a single zero, or a row that does not start with one. -/
def wholeDigits? (cs : List Char) : Option (List Char × List Char) :=
  match digits? cs with
  | some ('0' :: _ :: _, _) => none
  | result => result

/-- The point and the digits after it, if there is a point. -/
def fraction? : List Char → Option (Option (List Char) × List Char)
  | '.' :: rest => (digits? rest).map fun (digits, after) => (some digits, after)
  | cs => some (none, cs)

/-- The power of ten, if there is one. -/
def power? : List Char → Option (Option (Bool × List Char) × List Char)
  | [] => some (none, [])
  | c :: rest =>
    if c = 'e' ∨ c = 'E' then
      let signed := Decimal.takeSign rest
      (digits? signed.2).map fun (digits, after) => (some (signed.1, digits), after)
    else some (none, c :: rest)

/-- A number behind its sign, and the text after it. -/
def numeral? (negative : Bool) (cs : List Char) : Option (Numeral × List Char) := do
  let (whole, cs) ← wholeDigits? cs
  let (fraction, cs) ← fraction? cs
  let (power, cs) ← power? cs
  return (⟨negative, whole, fraction, power⟩, cs)

/-- The token at the front of a text, and the text after it. -/
def token? : List Char → Option (Token × List Char)
  | '[' :: rest => some (.beginArray, rest)
  | ']' :: rest => some (.endArray, rest)
  | '{' :: rest => some (.beginObject, rest)
  | '}' :: rest => some (.endObject, rest)
  | ':' :: rest => some (.colon, rest)
  | ',' :: rest => some (.comma, rest)
  | 'n' :: 'u' :: 'l' :: 'l' :: rest => some (.null, rest)
  | 't' :: 'r' :: 'u' :: 'e' :: rest => some (.bool true, rest)
  | 'f' :: 'a' :: 'l' :: 's' :: 'e' :: rest => some (.bool false, rest)
  | '"' :: rest => (stringBody? rest).map fun (body, after) => (.string (String.ofList body), after)
  | '-' :: rest => (numeral? true rest).map fun (numeral, after) => (.number numeral, after)
  | cs => (numeral? false cs).map fun (numeral, after) => (.number numeral, after)

/-- A string ends behind where it began. -/
theorem stringBody?_length {cs body rest : List Char} (h : stringBody? cs = some (body, rest)) :
    rest.length < cs.length := by
  fun_induction stringBody? cs generalizing body rest <;> simp_all <;> grind

theorem digits?_length {cs digits rest : List Char} (h : digits? cs = some (digits, rest)) :
    rest.length < cs.length := by
  unfold digits? at h
  split at h
  · simp at h
  · rename_i hne
    have hlen := congrArg List.length (List.takeWhile_append_dropWhile (p := isAsciiDigit) (l := cs))
    simp only [Option.some.injEq, Prod.mk.injEq] at h
    rw [List.length_append, h.1, h.2] at hlen
    have : digits ≠ [] := by
      rintro rfl
      exact hne h.1
    have := List.length_pos_iff.2 this
    omega

theorem wholeDigits?_length {cs digits rest : List Char}
    (h : wholeDigits? cs = some (digits, rest)) : rest.length < cs.length := by
  unfold wholeDigits? at h
  split at h
  · simp at h
  · exact digits?_length h

theorem fraction?_length {cs rest : List Char} {digits : Option (List Char)}
    (h : fraction? cs = some (digits, rest)) : rest.length ≤ cs.length := by
  unfold fraction? at h
  split at h
  · obtain ⟨⟨ds, after⟩, hd, he⟩ := Option.map_eq_some_iff.1 h
    have := digits?_length hd
    simp only [Prod.mk.injEq] at he
    simp only [List.length_cons, ← he.2]
    omega
  · simp_all

theorem power?_length {cs rest : List Char} {power : Option (Bool × List Char)}
    (h : power? cs = some (power, rest)) : rest.length ≤ cs.length := by
  unfold power? at h
  split at h
  · simp_all
  · rename_i c tail
    split at h
    · obtain ⟨⟨ds, after⟩, hd, he⟩ := Option.map_eq_some_iff.1 h
      have := digits?_length hd
      have := Decimal.takeSign_length tail
      simp only [Prod.mk.injEq] at he
      simp only [List.length_cons, ← he.2]
      omega
    · simp_all

theorem numeral?_length {negative : Bool} {cs rest : List Char} {n : Numeral}
    (h : numeral? negative cs = some (n, rest)) : rest.length < cs.length := by
  simp only [numeral?, Option.bind_eq_bind, Option.bind_eq_some_iff, Option.pure_def,
    Option.some.injEq, Prod.mk.injEq, Prod.exists] at h
  obtain ⟨_, _, hw, _, _, hf, _, _, hp, _, rfl⟩ := h
  have := wholeDigits?_length hw
  have := fraction?_length hf
  have := power?_length hp
  omega

/-- A token takes at least one character. -/
theorem token?_length {cs rest : List Char} {t : Token} (h : token? cs = some (t, rest)) :
    rest.length < cs.length := by
  unfold token? at h
  split at h
  case h_10 =>
    obtain ⟨⟨body, after⟩, hb, he⟩ := Option.map_eq_some_iff.1 h
    have := stringBody?_length hb
    simp only [Prod.mk.injEq] at he
    simp only [List.length_cons, ← he.2]
    omega
  case h_11 =>
    obtain ⟨⟨n, after⟩, hn, he⟩ := Option.map_eq_some_iff.1 h
    have := numeral?_length hn
    simp only [Prod.mk.injEq] at he
    simp only [List.length_cons, ← he.2]
    omega
  case h_12 =>
    obtain ⟨⟨n, after⟩, hn, he⟩ := Option.map_eq_some_iff.1 h
    have := numeral?_length hn
    simp only [Prod.mk.injEq] at he
    rw [← he.2]
    exact this
  all_goals
    simp only [Option.some.injEq, Prod.mk.injEq] at h
    rw [← h.2]
    simp only [List.length_cons]
    omega

/-- The tokens of a whole text. -/
def tokens? (cs : List Char) : Option (List Token) :=
  match cs with
  | [] => some []
  | c :: rest =>
    if isSpace c then tokens? rest
    else
      match _h : token? (c :: rest) with
      | none => none
      | some (t, after) => (tokens? after).map (t :: ·)
termination_by cs.length
decreasing_by
  · simp
  · exact token?_length ‹_›

end Json

end EntryFilter

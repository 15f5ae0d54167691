import EntryFilter.Proofs.Grammar.WrittenCondition
import EntryFilter.Proofs.Text.LowerCase

/-! # Reserved words

Eleven words are reserved, in any mixture of small and capital letters. Words are told apart in
lower case, where characters beyond ASCII may turn into letters from `a` to `z`: the Kelvin sign
becomes `k`, and `İ` becomes an `i` with a mark behind it. No reserved word has a `k` or a mark, so
none of them is met by such a word. -/

namespace EntryFilter

open EntryFilter.Text

/-- The reserved words in small letters with their tokens. -/
def reservedTokens : List (String × Token) := [
  ("and", .and), ("or", .or), ("true", .bool true), ("false", .bool false),
  ("contains", .keyword .contains), ("startswith", .keyword .startsWith),
  ("endswith", .keyword .endsWith), ("is", .keyword .is), ("not", .keyword .not),
  ("empty", .keyword .empty), ("null", .keyword .null)]

/-- A letter or an underscore with letters, digits, underscores, points and hyphens behind it. -/
def IsWord (word : List Char) : Prop :=
  ∃ c part, word = c :: part ∧ Lexeme.isWordStart c = true ∧
    ∀ d ∈ part, Lexeme.isWordPart d = true

/-- The token is a reserved one exactly for its own word in any ASCII letter case; for every other
word, such as one with a character beyond ASCII, it is a field of this name. -/
structure ReadsAs (word : List Char) (token : Token) : Prop where
  reserved : ∀ r ∈ reservedTokens, token = r.2 ↔ word.map Char.toLower = r.1.toList
  other : (∀ r ∈ reservedTokens, word.map Char.toLower ≠ r.1.toList) →
    token = .field (String.ofList word)
  beyond_ascii : (∃ c ∈ word, 128 ≤ c.toNat) → token = .field (String.ofList word)

/-! ## The token of a word -/

variable {word : List Char} {r : String × Token}

theorem reservedWords_eq : reservedWords = reservedTokens.map Prod.fst := rfl

theorem isPlainAscii_of_reserved (hr : r ∈ reservedTokens) : ∀ d ∈ r.1.toList, IsPlainAscii d := by
  have hchecked : ∀ r ∈ reservedTokens,
      r.1.toList.all (fun d => decide (IsPlainAscii d)) = true := by
    decide +kernel
  exact forall_mem_of_all (hchecked r hr)

theorem eq_of_reserved_token {r' : String × Token} (hr : r ∈ reservedTokens)
    (hr' : r' ∈ reservedTokens) (h : r.2 = r'.2) : r = r' := by
  have hchecked : ∀ r ∈ reservedTokens, ∀ r' ∈ reservedTokens, r.2 = r'.2 → r = r' := by
    decide +kernel
  exact hchecked r hr r' hr' h

theorem reserved_ne_field (hr : r ∈ reservedTokens) (name : String) : r.2 ≠ .field name := by
  rintro h
  simp only [reservedTokens, List.mem_cons, List.not_mem_nil, or_false] at hr
  rcases hr with rfl | rfl | rfl | rfl | rfl | rfl | rfl | rfl | rfl | rfl | rfl <;> cases h

/-- In lower case a word meets a reserved one only by its letters from `A` to `Z`. -/
theorem lower_eq_reserved_iff (hr : r ∈ reservedTokens) :
    String.ofList (lower word) = r.1 ↔ word.map Char.toLower = r.1.toList := by
  rw [← lower_eq_iff (isPlainAscii_of_reserved hr)]
  constructor
  · intro h
    rw [← h, String.toList_ofList]
  · intro h
    rw [h, String.ofList_toList]

theorem ofWord_of_reserved (hr : r ∈ reservedTokens) (h : String.ofList (lower word) = r.1) :
    Token.ofWord word = r.2 := by
  unfold Token.ofWord
  rw [h]
  simp only [reservedTokens, List.mem_cons, List.not_mem_nil, or_false] at hr
  rcases hr with rfl | rfl | rfl | rfl | rfl | rfl | rfl | rfl | rfl | rfl | rfl <;> rfl

theorem ofWord_of_other (h : ∀ r ∈ reservedTokens, word.map Char.toLower ≠ r.1.toList) :
    Token.ofWord word = .field (String.ofList word) := by
  refine Token.ofWord_of_not_reserved fun hmem => ?_
  rw [reservedWords_eq] at hmem
  obtain ⟨r, hr, hword⟩ := List.mem_map.1 hmem
  exact h r hr ((lower_eq_reserved_iff hr).1 hword.symm)

theorem readsAs_ofWord (word : List Char) : ReadsAs word (Token.ofWord word) where
  reserved r hr := by
    rw [← lower_eq_reserved_iff hr]
    refine ⟨fun htoken => ?_, ofWord_of_reserved hr⟩
    by_cases hmet : ∃ r' ∈ reservedTokens, String.ofList (lower word) = r'.1
    · obtain ⟨r', hr', hword⟩ := hmet
      have htokens := (ofWord_of_reserved hr' hword).symm.trans htoken
      rw [← eq_of_reserved_token hr' hr htokens, hword]
    · have hother : ∀ r' ∈ reservedTokens, word.map Char.toLower ≠ r'.1.toList :=
        fun r' hr' heq => hmet ⟨r', hr', (lower_eq_reserved_iff hr').2 heq⟩
      rw [ofWord_of_other hother] at htoken
      exact absurd htoken.symm (reserved_ne_field hr _)
  other := ofWord_of_other
  beyond_ascii := by
    rintro ⟨c, hc, hcode⟩
    refine ofWord_of_other fun r hr hword => ?_
    have hascii : ∀ d ∈ word.map Char.toLower, d.toNat < 128 := by
      rw [hword]
      exact fun d hd => (isPlainAscii_of_reserved hr d hd).1
    exact absurd (ascii_of_map_toLower hascii c hc) (by omega)

/-! ## Words in a source -/

/-- No other form begins like a word. -/
theorem LexemeForm.eq_ofWord {c : Char} {part : List Char} {outcome : Except SyntaxFault Token}
    (h : LexemeForm (c :: part) outcome) (hc : Lexeme.isWordStart c = true) :
    outcome = .ok (Token.ofWord (c :: part)) := by
  have hsigns : ∀ s ∈ signs, c ≠ s := fun s hs heq =>
    not_mem_signs_of_word hc (heq ▸ hs)
  generalize htext : c :: part = text at h ⊢
  cases h with
  | word => rfl
  | opening => exact absurd (List.cons.inj htext).1 (hsigns _ (by decide))
  | closing => exact absurd (List.cons.inj htext).1 (hsigns _ (by decide))
  | comparison o =>
      cases o with
      | _ => exact absurd (List.cons.inj htext).1 (hsigns _ (by decide))
  | misspelled hspelling =>
      rcases hspelling with rfl | rfl
      · exact absurd (List.cons.inj htext).1 (hsigns _ (by decide))
      · exact absurd (List.cons.inj htext).1 (hsigns _ (by decide))
  | quoted hq _ =>
      rcases hq with rfl | rfl
      · exact absurd (List.cons.inj htext).1 (hsigns _ (by decide))
      · exact absurd (List.cons.inj htext).1 (hsigns _ (by decide))
  | unclosed hq _ _ =>
      rcases hq with rfl | rfl
      · exact absurd (List.cons.inj htext).1 (hsigns _ (by decide))
      · exact absurd (List.cons.inj htext).1 (hsigns _ (by decide))
  | number hnegative hne hwhole _ =>
      rcases hnegative with ⟨rfl, -⟩ | ⟨rfl, -⟩
      · obtain ⟨d, whole, rfl⟩ := List.exists_cons_of_ne_nil hne
        obtain ⟨rfl, -⟩ := List.cons.inj htext
        exact absurd (hwhole c List.mem_cons_self) (not_isAsciiDigit_of_word hc)
      · exact absurd (List.cons.inj htext).1 (hsigns _ (by decide))

/-- Where a word is the longest lexeme, its token is found. -/
theorem Longest.eq_ofWord {text after : List Char} {outcome : Except SyntaxFault Token}
    (h : Longest text after outcome) (hword : IsWord text) :
    outcome = .ok (Token.ofWord text) := by
  obtain ⟨c, part, rfl, hc, hpart⟩ := hword
  cases h with
  | form hform _ => exact hform.eq_ofWord hc
  | stray hnone => exact absurd (List.prefix_append [c] after) (hnone _ _ (.word hc hpart))

/-- Every step of the lexer that comes to a word finds its token. -/
theorem eq_ofWord_of_step {source : String} {n : Nat} {x : Finding} (hword : IsWord word)
    (hx : x ∈ (Cursor.ofSource source).steps n)
    (hslice : slice? source.toList x.span.start x.span.stop = some word) :
    x = .ok ⟨Token.ofWord word, x.span⟩ := by
  obtain ⟨found, hfound⟩ := Cursor.exists_finds (Cursor.behind_ofSource source)
  rw [hfound.steps_eq] at hx
  rcases List.mem_append.1 hx with hx | hx
  · obtain ⟨before, text, after, hsource, htile⟩ := hfound.tiles.tile x (List.mem_of_mem_take hx)
    rw [htile.span_eq, hsource, slice_append] at hslice
    obtain rfl := Option.some.inj hslice
    have houtcome := htile.longest.eq_ofWord hword
    cases x with
    | error e => cases houtcome
    | ok token =>
        have htoken : token.token = Token.ofWord text := Except.ok.inj houtcome
        rw [← htoken]
        rfl
  · obtain rfl := List.eq_of_mem_replicate hx
    have hnothing := slice_append source.toList [] []
    rw [List.append_nil, List.append_nil] at hnothing
    obtain rfl : [] = word := Option.some.inj (hnothing.symm.trans hslice)
    obtain ⟨c, part, hnil, -⟩ := hword
    cases hnil

theorem tokenize_word (hword : IsWord word) :
    (tokenize (String.ofList word)).map (·.map PlacedToken.token) =
      .ok [Token.ofWord word, .done] := by
  obtain ⟨c, part, rfl, hc, hpart⟩ := hword
  have hlexes : Lexes (String.ofList (c :: part)).toList [Token.ofWord (c :: part)] [] := by
    have hend : ∀ d ∈ ([] : List Char).head?, Lexeme.isWordPart d = false := nofun
    have hword := lexes_ofWord hc hpart hend
    rw [List.append_nil] at hword
    rw [String.toList_ofList]
    exact hword
  obtain ⟨row, hrow, htokens⟩ := exists_row_of_lexes hlexes rfl
  rw [hrow]
  exact congrArg Except.ok htokens

/-- Reserved words are told in any ASCII letter case, and nothing else is reserved. For every word
there is one token that the lexer finds wherever it comes to the word, also if the word stands
alone. This is a reserved token exactly if the word is the reserved one up to the case of ASCII
letters, and the field of this name for all other words, such as those with a character beyond
ASCII. -/
theorem reserved_in_any_case (hword : IsWord word) :
    ∃ token, ReadsAs word token ∧
      (∀ (source : String) (n : Nat) (x : Finding), x ∈ (Cursor.ofSource source).steps n →
        slice? source.toList x.span.start x.span.stop = some word → x = .ok ⟨token, x.span⟩) ∧
      (tokenize (String.ofList word)).map (·.map PlacedToken.token) = .ok [token, .done] :=
  ⟨Token.ofWord word, readsAs_ofWord word,
    fun _ _ _ hx hslice => eq_ofWord_of_step hword hx hslice, tokenize_word hword⟩

/-- In lower case `İs` is the reserved word `is` but for a mark behind the `i`, and it names a
field. -/
theorem reserved_in_any_case_of_dotted :
    (tokenize (String.ofList "İs".toList)).map (·.map PlacedToken.token) =
      .ok [.field "İs", .done] := by
  have hword : IsWord "İs".toList :=
    ⟨'İ', ['s'], by decide, by decide +kernel, List.forall_mem_singleton.2 (by decide +kernel)⟩
  obtain ⟨token, hreads, -, htokens⟩ := reserved_in_any_case hword
  have hfield := hreads.beyond_ascii ⟨'İ', by decide, by decide⟩
  rw [htokens, hfield, String.ofList_toList]

end EntryFilter

import EntryFilter.Proofs.Grammar.WrittenCondition

/-! # Quoting

Every text can be written between quotes, with a backslash before the quotes and backslashes in it.
What stands there is a single token, so it takes no part in the structure of the filter around it:
another text in its place gives the same filter with another literal. -/

namespace EntryFilter

open Grammar EntryFilter.Text

/-! ## Quoted texts -/

/-- The text as it stands between quotes. A backslash goes before each backslash and each quote of
the same kind, and before any other character whose position is chosen. -/
def escapeText (quote : Char) : (Nat → Bool) → List Char → List Char
  | _, [] => []
  | chosen, c :: rest =>
    (if c = quote ∨ c = '\\' ∨ chosen 0 = true then ['\\', c] else [c]) ++
      escapeText quote (fun i => chosen (i + 1)) rest

/-- The text between quotes. -/
def quoteText (quote : Char) (chosen : Nat → Bool) (s : String) : String :=
  String.ofList (quote :: (escapeText quote chosen s.toList ++ [quote]))

theorem quotedBody_escapeText (quote : Char) (chosen : Nat → Bool) (s : List Char) :
    QuotedBody quote (escapeText quote chosen s) s := by
  induction s generalizing chosen with
  | nil => exact .nil
  | cons c rest ih =>
      rw [escapeText]
      split
      · exact .escaped (ih _)
      · rename_i hplain
        simp only [not_or] at hplain
        exact .plain hplain.1 hplain.2.1 (ih _)

variable {quote quote' : Char} {s s' : String}

theorem IsQuote.ne_backslash (h : IsQuote quote) : quote ≠ '\\' := by
  rcases h with rfl | rfl <;> decide

theorem IsQuote.isBlank_eq (h : IsQuote quote) : isBlank quote = false := by
  rcases h with rfl | rfl <;> decide

theorem IsQuote.separates (h : IsQuote quote) (after : List Char) : Separates (quote :: after) := by
  intro d hd
  obtain rfl : quote = d := Option.some.inj hd
  rcases h with rfl | rfl
  · exact ⟨by decide, by decide +kernel⟩
  · exact ⟨by decide, by decide +kernel⟩

theorem Lexeme.cut_quoted (h : IsQuote quote) {written meant : List Char}
    (hbody : QuotedBody quote written meant) (after : List Char) :
    cut quote (written ++ quote :: after) = ⟨.quoted, quote :: (written ++ [quote]), after⟩ := by
  rw [cut_quote h, ofQuote, untilQuote_closed hbody h.ne_backslash]
  rfl

theorem Lexeme.token_quoted {written meant : List Char}
    (hbody : QuotedBody quote written meant) (after : List Char) :
    token ⟨.quoted, quote :: (written ++ [quote]), after⟩ = .ok (.text (String.ofList meant)) := by
  simp [token, unescape_body hbody]

/-- Whatever follows a quoted text, it is cut off as one token. -/
theorem lexes_quoteText (h : IsQuote quote) (chosen : Nat → Bool) (s : String)
    (after : List Char) : Lexes ((quoteText quote chosen s).toList ++ after) [.text s] after := by
  have hbody := quotedBody_escapeText quote chosen s.toList
  have hcut := Lexeme.cut_quoted h hbody after
  have htoList : (quoteText quote chosen s).toList ++ after =
      quote :: (escapeText quote chosen s.toList ++ quote :: after) := by
    simp [quoteText]
  rw [htoList]
  refine .cons (trimStart_of_not_blank h.isBlank_eq _) ?_ ?_
  · rw [hcut, Lexeme.token_quoted hbody, String.ofList_toList]
  · rw [hcut]
    exact .nil after

/-- A quoted text is a source of one token and the end token. -/
theorem tokenize_quoteText (h : IsQuote quote) (chosen : Nat → Bool) (s : String) :
    tokenize (quoteText quote chosen s) =
      .ok [⟨.text s, ⟨0, byteLength (quoteText quote chosen s).toList⟩⟩,
        ⟨.done, .point (byteLength (quoteText quote chosen s).toList)⟩] := by
  have hbody := quotedBody_escapeText quote chosen s.toList
  have hcut := Lexeme.cut_quoted h hbody []
  have htoken := Lexeme.token_quoted hbody []
  have htoList : (quoteText quote chosen s).toList =
      quote :: (escapeText quote chosen s.toList ++ [quote]) := String.toList_ofList
  have hskip : (Cursor.ofSource (quoteText quote chosen s)).skipBlanks =
      ⟨0, quote :: (escapeText quote chosen s.toList ++ [quote])⟩ := by
    simp [Cursor.skipBlanks, Cursor.ofSource, htoList, trimStart, h.isBlank_eq]
  have hrest : trimStart (Cursor.ofSource (quoteText quote chosen s)).rest =
      quote :: (escapeText quote chosen s.toList ++ [quote]) := congrArg Cursor.rest hskip
  have hnext : (Cursor.ofSource (quoteText quote chosen s)).next =
      (.ok ⟨.text s, ⟨0, byteLength (quoteText quote chosen s).toList⟩⟩,
        ⟨byteLength (quoteText quote chosen s).toList, []⟩) := by
    simp only [Cursor.next, hskip, hcut, Cursor.place, htoken, htoList, Nat.zero_add,
      String.ofList_toList]
  have hbehind : Cursor.Behind (quoteText quote chosen s).toList (quoteText quote chosen s).toList
      ⟨byteLength (quoteText quote chosen s).toList, []⟩ := ⟨(List.append_nil _).symm, rfl⟩
  rw [tokenize, Cursor.tokens_of_ok hrest (congrArg Prod.fst hnext), hnext,
    Cursor.tokens_of_blank hbehind rfl]
  rfl

/-! ## Another text in the same place -/

/-- The filters differ in one literal, which is one text in the first and the other in the
second. -/
inductive Filter.Replaces (s s' : String) : Filter → Filter → Prop where
  | here (field operator) : Replaces s s' (.condition field operator (some (.text s)))
      (.condition field operator (some (.text s')))
  | andLeft {f f'} (g) : Replaces s s' f f' → Replaces s s' (.and f g) (.and f' g)
  | andRight {f f'} (g) : Replaces s s' f f' → Replaces s s' (.and g f) (.and g f')
  | orLeft {f f'} (g) : Replaces s s' f f' → Replaces s s' (.or f g) (.or f' g)
  | orRight {f f'} (g) : Replaces s s' f f' → Replaces s s' (.or g f) (.or g f')

namespace Grammar

/-- Of two different tokens in one row, each stands in front of the other or behind it. -/
theorem split_at_tokens {ts us front back : List Token} {t u : Token} (hne : t ≠ u)
    (h : ts ++ u :: us = front ++ t :: back) :
    (∃ middle, ts = front ++ t :: middle ∧ back = middle ++ u :: us) ∨
      ∃ middle, front = ts ++ u :: middle ∧ us = middle ++ t :: back := by
  rcases List.append_eq_append_iff.1 h with ⟨middle, rfl, hmiddle⟩ | ⟨middle, rfl, hmiddle⟩
  · cases middle with
    | nil => exact absurd (List.cons.inj hmiddle).1.symm hne
    | cons v middle =>
        obtain ⟨rfl, rfl⟩ := List.cons.inj hmiddle
        exact .inr ⟨middle, rfl, rfl⟩
  · cases middle with
    | nil => exact absurd (List.cons.inj hmiddle).1 hne
    | cons v middle =>
        obtain ⟨rfl, rfl⟩ := List.cons.inj hmiddle
        exact .inl ⟨middle, rfl, rfl⟩

theorem Checks.text_not_mem {tail : List Token} {operator : Operator} (h : Checks tail operator) :
    .text s ∉ tail := by
  cases h <;> simp

theorem TakesOperand.ne_text {sign : Token} {operator : Operator} (h : TakesOperand sign operator) :
    sign ≠ .text s := by
  cases h <;> exact Token.noConfusion

/-- The text of a comparison stands behind its field and sign. -/
theorem text_of_comparison {name : String} {sign word : Token} {operator : Operator}
    {front back : List Token} (hs : TakesOperand sign operator)
    (h : [.field name, sign, word] = front ++ .text s :: back) :
    front = [.field name, sign] ∧ word = .text s ∧ back = [] := by
  rcases front with _ | ⟨t, _ | ⟨u, _ | ⟨v, front⟩⟩⟩
  · cases (List.cons.inj h).1
  · obtain ⟨-, hsign⟩ := List.cons.inj h
    exact absurd (List.cons.inj hsign).1 hs.ne_text
  · simp only [List.cons_append, List.nil_append, List.cons.injEq] at h
    obtain ⟨rfl, rfl, rfl, rfl⟩ := h
    exact ⟨rfl, rfl, rfl⟩
  · simp at h

/-- The rows of a grammar rule let any text stand in the place of another. -/
theorem Derives.replace {rank : Rank} {ts : List Token} {f : Filter} (h : Derives rank ts f)
    {front back : List Token} (hts : ts = front ++ .text s :: back) :
    ∃ f', Derives rank (front ++ .text s' :: back) f' ∧ f.Replaces s s' f' := by
  induction h generalizing front back with
  | @comparison name sign word operator literal hs hw =>
      obtain ⟨rfl, rfl, rfl⟩ := text_of_comparison hs hts
      cases hw
      exact ⟨_, .comparison name hs (.text s'), .here name operator⟩
  | @check name tail operator hc =>
      have hmem : .text s ∈ Token.field name :: tail := by simp [hts]
      rcases List.mem_cons.1 hmem with hfield | htail
      · cases hfield
      · exact absurd htail hc.text_not_mem
  | @group ts f _ ih =>
      rw [List.cons_append] at hts
      have hrow : [] ++ .opening :: (ts ++ [.closing]) = front ++ .text s :: back := hts
      rcases split_at_tokens Token.noConfusion hrow with ⟨_, hnil, -⟩ | ⟨_, rfl, hinner⟩
      · simp at hnil
      rcases split_at_tokens Token.noConfusion hinner with ⟨middle, hleft, rfl⟩ | ⟨_, -, hnil⟩
      · obtain ⟨f', hf', hreplaces⟩ := ih hleft
        refine ⟨f', ?_, hreplaces⟩
        simpa using Derives.group hf'
      · simp at hnil
  | ofPrimary _ ih =>
      obtain ⟨f', hf', hreplaces⟩ := ih hts
      exact ⟨f', .ofPrimary hf', hreplaces⟩
  | @and ts us f g hl hr ihl ihr =>
      rcases split_at_tokens Token.noConfusion hts with ⟨middle, hleft, rfl⟩ | ⟨middle, rfl, hright⟩
      · obtain ⟨f', hf', hreplaces⟩ := ihl hleft
        refine ⟨.and f' g, ?_, .andLeft g hreplaces⟩
        simpa using Derives.and hf' hr
      · obtain ⟨g', hg', hreplaces⟩ := ihr hright
        refine ⟨.and f g', ?_, .andRight f hreplaces⟩
        simpa using Derives.and hl hg'
  | ofConjunction _ ih =>
      obtain ⟨f', hf', hreplaces⟩ := ih hts
      exact ⟨f', .ofConjunction hf', hreplaces⟩
  | @or ts us f g hl hr ihl ihr =>
      rcases split_at_tokens Token.noConfusion hts with ⟨middle, hleft, rfl⟩ | ⟨middle, rfl, hright⟩
      · obtain ⟨f', hf', hreplaces⟩ := ihl hleft
        refine ⟨.or f' g, ?_, .orLeft g hreplaces⟩
        simpa using Derives.or hf' hr
      · obtain ⟨g', hg', hreplaces⟩ := ihr hright
        refine ⟨.or f g', ?_, .orRight f hreplaces⟩
        simpa using Derives.or hl hg'

theorem fieldCount_replace (front back : List Token) :
    fieldCount (front ++ .text s' :: back) = fieldCount (front ++ .text s :: back) := by
  simp [isField]

theorem nestsWithin_replace {limit : Nat} (front back : List Token) :
    NestsWithin limit 0 (front ++ .text s' :: back) ↔
      NestsWithin limit 0 (front ++ .text s :: back) := by
  simp only [nestsWithin_append, nestsWithin_cons, openAfter]

/-- Within the same limits, another text gives a filter with another literal. -/
theorem Accepts.replace {limits : Limits} {front back : List Token} {f : Filter}
    (h : Accepts limits (front ++ .text s :: back) f) (s' : String) :
    ∃ f', Accepts limits (front ++ .text s' :: back) f' ∧ f.Replaces s s' f' := by
  rcases h with ⟨hnil, -⟩ | ⟨hf, hcount, hnests⟩
  · simp at hnil
  · obtain ⟨f', hf', hreplaces⟩ : ∃ f', Derives .disjunction (front ++ .text s' :: back) f' ∧
        f.Replaces s s' f' := hf.replace rfl
    rw [← fieldCount_replace] at hcount
    exact ⟨f', .inr ⟨hf', hcount, (nestsWithin_replace front back).2 hnests⟩, hreplaces⟩

end Grammar

/-! ## Quoted texts in a filter -/

/-- The tokens around a quoted text do not depend on it. -/
theorem lexes_around {front : String} {row : List PlacedToken} (hfront : tokenize front = .ok row)
    (hq : IsQuote quote) (chosen : Nat → Bool) (s back : String) {us : List Token}
    {left : List Char} (hback : Lexes back.toList us left) :
    Lexes (front ++ quoteText quote chosen s ++ back).toList (body row ++ .text s :: us) left := by
  obtain ⟨blanks, hrow, hblanks⟩ := exists_lexes_of_tokenize hfront
  have hquoted := (lexes_quoteText hq chosen s back.toList).append hback
  have hhead : Separates ((quoteText quote chosen s).toList ++ back.toList) := by
    rw [quoteText, String.toList_ofList]
    exact hq.separates _
  have hskip := hquoted.skip_blanks (List.dropWhile_eq_nil_iff.1 hblanks)
  have hall := (hrow.before_separator hhead).append hskip
  simpa [String.toList_append] using hall

/-- Another text between the quotes gives the same filter with another literal. -/
theorem parse_replace {limits : Limits} {front back : String} {row : List PlacedToken} {f : Filter}
    {chosen : Nat → Bool} (hfront : tokenize front = .ok row) (hq : IsQuote quote)
    (h : Filter.parse limits (front ++ quoteText quote chosen s ++ back) = .ok f)
    (hq' : IsQuote quote') (chosen' : Nat → Bool) (s' : String) :
    ∃ f', Filter.parse limits (front ++ quoteText quote' chosen' s' ++ back) = .ok f' ∧
      f.Replaces s s' f' := by
  obtain ⟨us, left, stop, hback, hstop⟩ := Lexes.exists_stop back.toList
  have hlexes := lexes_around hfront hq chosen s back hback
  have hlexes' := lexes_around hfront hq' chosen' s' back hback
  cases stop with
  | none =>
      obtain ⟨f', hf', hreplaces⟩ := ((parse_eq_ok_iff_of_lexes hlexes hstop).1 h).replace s'
      exact ⟨f', (parse_eq_ok_iff_of_lexes hlexes' hstop).2 hf', hreplaces⟩
  | some fault =>
      obtain ⟨e, he, -⟩ := exists_error_of_lexes hlexes hstop
      rw [Filter.parse, he] at h
      cases h

/-- Every text can be written between quotes of either kind, whichever of its other characters get
a backslash. It is then a source of one token that means the text, and the literal of a condition
on any field. Behind a text that is cut into tokens, and in front of any text at all, another text
between quotes changes the filter in this one literal only. -/
theorem quoting_complete_and_safe (s : String) (quote : Char) (hq : IsQuote quote)
    (chosen : Nat → Bool) :
    (tokenize (quoteText quote chosen s) =
      .ok [⟨.text s, ⟨0, byteLength (quoteText quote chosen s).toList⟩⟩,
        ⟨.done, .point (byteLength (quoteText quote chosen s).toList)⟩]) ∧
    (∀ (limits : Limits) (name front back : String), 0 < limits.conditions → NamesField name →
      (∀ b ∈ front.toList, isBlank b = true) → (∀ b ∈ back.toList, isBlank b = true) →
        Filter.parse limits (name ++ front ++ "=" ++ back ++ quoteText quote chosen s) =
          .ok (.condition name (.compare .eq) (some (.text s)))) ∧
    ∀ (limits : Limits) (front back : String) (row : List PlacedToken) (f : Filter),
      tokenize front = .ok row →
      Filter.parse limits (front ++ quoteText quote chosen s ++ back) = .ok f →
      ∀ (quote' : Char) (chosen' : Nat → Bool) (s' : String), IsQuote quote' →
        ∃ f', Filter.parse limits (front ++ quoteText quote' chosen' s' ++ back) = .ok f' ∧
          f.Replaces s s' f' := by
  refine ⟨tokenize_quoteText hq chosen s, ?_, ?_⟩
  · intro limits name front back hlimits hname hfront hback
    have hlexes := lexes_quoteText hq chosen s []
    have hhead : ∀ d ∈ (quoteText quote chosen s).toList.head?, d ≠ '=' := by
      rw [quoteText, String.toList_ofList]
      exact fun d hd => (hq.separates _ d hd).1
    rw [List.append_nil] at hlexes
    exact parse_condition hname .eq hfront hback hlexes hhead (.text s) hlimits
  · intro limits front back row f hfront h quote' chosen' s' hq'
    exact parse_replace hfront hq h hq' chosen' s'

/-- Quotes, backslashes and connectives in a text stay in its literal, also inside a group. -/
theorem quoting_of_connectives :
    Filter.parse .standard "name = \"a\\\" OR \\\\ (b = 'c\"" =
      .ok (.condition "name" (.compare .eq) (some (.text "a\" OR \\ (b = 'c"))) ∧
    ∃ f, Filter.parse .standard "(name = 'a\\') OR (b = \\'c')" = .ok f ∧
      Filter.Replaces "x" "a') OR (b = 'c"
        (.condition "name" (.compare .eq) (some (.text "x"))) f := by
  have hparts : ['a', 'm', 'e'].all Lexeme.isWordPart = true := by decide +kernel
  have hname : NamesField "name" :=
    ⟨⟨'n', ['a', 'm', 'e'], rfl, by decide +kernel, List.all_eq_true.1 hparts⟩, by decide +kernel⟩
  have hspace : " ".toList.all isBlank = true := by decide +kernel
  have hblank := List.all_eq_true.1 hspace
  have hfront : tokenize "(name = " = .ok [⟨.opening, ⟨0, 1⟩⟩, ⟨.field "name", ⟨1, 5⟩⟩,
      ⟨.compare (.compare .eq), ⟨6, 7⟩⟩, ⟨.done, ⟨8, 8⟩⟩] := by
    decide +kernel
  have hparse : Filter.parse .standard ("(name = " ++ quoteText '"' (fun _ => false) "x" ++ ")") =
      .ok (.condition "name" (.compare .eq) (some (.text "x"))) := by
    decide +kernel
  constructor
  · exact (quoting_complete_and_safe "a\" OR \\ (b = 'c" '"' (.inl rfl) fun _ => false).2.1
      .standard "name" " " " " (by decide) hname hblank hblank
  · exact (quoting_complete_and_safe "x" '"' (.inl rfl) fun _ => false).2.2 .standard "(name = " ")"
      _ _ hfront hparse '\'' (fun _ => false) "a') OR (b = 'c" (.inr rfl)

end EntryFilter

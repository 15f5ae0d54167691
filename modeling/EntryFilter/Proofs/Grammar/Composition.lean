import EntryFilter.Proofs.Grammar.Completeness
import EntryFilter.Proofs.Grammar.Places
import EntryFilter.Proofs.Lexer.Concatenation

/-! # Filters compose as text

Filters in parentheses can be joined by a connective as they stand: between the parentheses the
lexer cuts the tokens of each of them alone, and the parser makes groups of them. Blanks around a
filter change nothing but places. -/

namespace EntryFilter

open Grammar EntryFilter.Text

/-- Everywhere in the source fewer groups are open than the limit says. -/
def NestsBelow (limit : Nat) (source : String) : Prop :=
  ∃ tokens, tokenize source = .ok tokens ∧
    ∀ front, front <+: body tokens → unclosed front < limit

/-! ## From text to tokens and back -/

variable {limits : Limits} {source : String} {ts : List Token} {left : List Char}

theorem exists_row_of_lexes (h : Lexes source.toList ts left) (hstop : Stops left none) :
    ∃ row, tokenize source = .ok row ∧ row.map PlacedToken.token = ts ++ [.done] :=
  (Cursor.ofSource source).exists_tokens_of_lexes h hstop

theorem exists_error_of_lexes {fault : SyntaxFault} (h : Lexes source.toList ts left)
    (hstop : Stops left (some fault)) : ∃ e, tokenize source = .error e ∧ e.fault = fault :=
  (Cursor.ofSource source).exists_error_of_lexes h hstop

theorem body_of_map_token {row : List PlacedToken} (h : row.map PlacedToken.token = ts ++ [.done])
    (hdone : .done ∉ ts) : body row = ts := by
  have hkeep : ∀ t ∈ ts, decide (t ≠ .done) = true := by
    intro t ht
    exact decide_eq_true fun heq => hdone (heq ▸ ht)
  rw [body, h, List.takeWhile_append_of_pos hkeep]
  simp

/-- A source that has tokens is cut into them up to its end. -/
theorem exists_lexes_of_tokenize {row : List PlacedToken} (h : tokenize source = .ok row) :
    ∃ left, Lexes source.toList (body row) left ∧ Stops left none := by
  obtain ⟨ts, left, stop, hts, hstop⟩ := Lexes.exists_stop source.toList
  cases stop with
  | some fault =>
      obtain ⟨e, he, -⟩ := exists_error_of_lexes hts hstop
      rw [h] at he
      cases he
  | none =>
      obtain ⟨row', hrow, hwords⟩ := exists_row_of_lexes hts hstop
      obtain rfl : row = row' := Except.ok.inj (h.symm.trans hrow)
      rw [body_of_map_token hwords hts.done_not_mem]
      exact ⟨left, hts, hstop⟩

theorem parse_eq_ok_iff_of_lexes {f : Filter} (h : Lexes source.toList ts left)
    (hstop : Stops left none) : Filter.parse limits source = .ok f ↔ Accepts limits ts f := by
  obtain ⟨row, hrow, hwords⟩ := exists_row_of_lexes h hstop
  have hparse : Filter.parse limits source = Filter.ofTokens limits row := by
    rw [Filter.parse, hrow]
    rfl
  rw [hparse, Filter.ofTokens_eq_ok_iff, body_of_map_token hwords h.done_not_mem]

/-- A source that is parsed is cut into tokens up to its end, and these spell the filter. -/
theorem exists_lexes_of_parse {f : Filter} (h : Filter.parse limits source = .ok f) :
    ∃ ts left, Lexes source.toList ts left ∧ Stops left none ∧ Accepts limits ts f := by
  cases htokens : tokenize source with
  | error e =>
      rw [Filter.parse, htokens] at h
      cases h
  | ok row =>
      obtain ⟨left, hlexes, hstop⟩ := exists_lexes_of_tokenize htokens
      exact ⟨body row, left, hlexes, hstop, (parse_eq_ok_iff_of_lexes hlexes hstop).1 h⟩

/-- The tokens of a filter that is not blank derive it. -/
theorem exists_derives_of_parse {f : Filter} (h : Filter.parse limits source = .ok f)
    (hf : f ≠ .blank) {limit : Nat} (hnests : NestsBelow limit source) :
    ∃ ts left, Lexes source.toList ts left ∧ Stops left none ∧ Derives .disjunction ts f ∧
      ∀ front, front <+: ts → unclosed front < limit := by
  obtain ⟨row, hrow, hbelow⟩ := hnests
  obtain ⟨left, hts, hstop⟩ := exists_lexes_of_tokenize hrow
  rcases (parse_eq_ok_iff_of_lexes hts hstop).1 h with ⟨-, hblank⟩ | ⟨hderives, -, -⟩
  · exact absurd hblank hf
  · exact ⟨body row, left, hts, hstop, hderives, hbelow⟩

/-! ## Cutting a joined text -/

theorem lexes_opening (cs : List Char) : Lexes ('(' :: cs) [.opening] cs :=
  .cons (trimStart_of_not_blank (by decide) cs) rfl (.nil cs)

theorem lexes_closing {left : List Char} (h : Stops left none) (cs : List Char) :
    Lexes (left ++ ')' :: cs) [.closing] cs := by
  have htrim : trimStart (left ++ ')' :: cs) = ')' :: cs :=
    (trimStart_append_of_nil h _).trans (trimStart_of_not_blank (by decide) cs)
  exact .cons htrim rfl (.nil cs)

/-- A group is cut into its parentheses and the tokens between them. -/
theorem Lexes.group {cs left : List Char} {ts : List Token} (h : Lexes cs ts left)
    (hstop : Stops left none) (after : List Char) :
    Lexes ('(' :: (cs ++ ')' :: after)) (.opening :: ts ++ [.closing]) after := by
  have hinner := (h.before_separator (separates_closing after)).append (lexes_closing hstop after)
  exact (lexes_opening _).append hinner

/-- A word of one lexeme in front of a blank is cut into its token. -/
theorem lexes_word {c : Char} {rest : List Char} {t : Token} (hc : isBlank c = false)
    (htoken : (Lexeme.cut c rest).token = .ok t) (hrest : (Lexeme.cut c rest).rest = [])
    (after : List Char) : Lexes (c :: (rest ++ ' ' :: after)) [t] (' ' :: after) := by
  have hspace : Separates (' ' :: after) := by
    intro d hd
    obtain rfl : ' ' = d := Option.some.inj hd
    have hblank := separates_of_blank (b := ' ') (by decide)
    exact ⟨hblank.1, hblank.2.1⟩
  have hword : Lexes (c :: rest) [t] [] := by
    refine .cons (trimStart_of_not_blank hc rest) htoken ?_
    rw [hrest]
    exact .nil []
  exact hword.before_separator hspace

theorem lexes_and (after : List Char) :
    Lexes ('A' :: (['N', 'D'] ++ ' ' :: after)) [.and] (' ' :: after) :=
  lexes_word (by decide) (by decide +kernel) (by decide +kernel) after

theorem lexes_or (after : List Char) :
    Lexes ('O' :: (['R'] ++ ' ' :: after)) [.or] (' ' :: after) :=
  lexes_word (by decide) (by decide +kernel) (by decide +kernel) after

theorem Lexes.skip_blank {cs left : List Char} {t : Token} {ts : List Token}
    (h : Lexes cs (t :: ts) left) : Lexes (' ' :: cs) (t :: ts) left := by
  have hspace : ∀ b ∈ [' '], isBlank b = true := by
    intro b hb
    obtain rfl := List.mem_singleton.1 hb
    rfl
  exact h.skip_blanks hspace

/-- Two groups with a connective between them are cut into their tokens and its token. -/
theorem Lexes.join {cs ds left left' : List Char} {ts us : List Token} {word : List Char}
    {connective : Token} (hcs : Lexes cs ts left) (hleft : Stops left none)
    (hds : Lexes ds us left') (hleft' : Stops left' none)
    (hword : ∀ after, Lexes (word ++ ' ' :: after) [connective] (' ' :: after)) :
    Lexes ('(' :: (cs ++ ')' :: ' ' :: (word ++ ' ' :: '(' :: (ds ++ [')']))))
      ((.opening :: ts ++ [.closing]) ++ connective :: (.opening :: us ++ [.closing])) [] := by
  have hsecond := (hds.group hleft' []).skip_blank
  have hmiddle := (hword ('(' :: (ds ++ [')']))).skip_blank.append hsecond
  exact (hcs.group hleft _).append hmiddle

/-! ## Deriving a joined filter -/

/-- A filter that nests below the limit may stand in a group. -/
theorem nestsWithin_group {limit : Nat} {ts : List Token} {f : Filter}
    (hf : Derives .disjunction ts f) (h : ∀ front, front <+: ts → unclosed front < limit) :
    NestsWithin limit 0 (.opening :: ts ++ [.closing]) := by
  have hpositive : 0 < limit := h [] List.nil_prefix
  have hinner : NestsWithin limit 1 ts := by
    intro front hfront
    have hbelow := h front hfront
    have hone : front.foldl openAfter 1 ≤ unclosed front + 1 :=
      foldl_openAfter_le_succ front (Nat.le_refl 1)
    omega
  refine nestsWithin_cons.2 ⟨Nat.zero_le _, nestsWithin_append.2 ⟨hinner, ?_⟩⟩
  rw [openAfter_opening, hf.foldl_openAfter]
  exact nestsWithin_cons.2 ⟨hpositive, nestsWithin_nil.2 (Nat.zero_le _)⟩

/-- Two groups with a connective between them keep the limits if the filters in them do so. -/
theorem accepts_joined {ts us : List Token} {f g joined : Filter} {connective : Token}
    (hf : Derives .disjunction ts f) (hg : Derives .disjunction us g)
    (hts : ∀ front, front <+: ts → unclosed front < limits.depth)
    (hus : ∀ front, front <+: us → unclosed front < limits.depth)
    (hsize : f.size + g.size ≤ limits.conditions) (hconnective : ∀ n, openAfter n connective = n)
    (hfield : isField connective = false)
    (h : Derives .disjunction
      ((.opening :: ts ++ [.closing]) ++ connective :: (.opening :: us ++ [.closing])) joined) :
    Accepts limits
      ((.opening :: ts ++ [.closing]) ++ connective :: (.opening :: us ++ [.closing])) joined := by
  have hgroup := (Derives.group hf).foldl_openAfter 0
  refine .inr ⟨h, ?_, nestsWithin_append.2 ⟨nestsWithin_group hf hts, ?_⟩⟩
  · rw [hf.size_eq, hg.size_eq] at hsize
    simpa [hfield] using hsize
  · rw [hgroup]
    refine nestsWithin_cons.2 ⟨Nat.zero_le _, ?_⟩
    rw [hconnective]
    exact nestsWithin_group hg hus

/-! ## Joined filters and blanks -/

theorem toList_joined (s₁ s₂ word : String) :
    ("(" ++ s₁ ++ ") " ++ word ++ " (" ++ s₂ ++ ")").toList =
      '(' :: (s₁.toList ++ ')' :: ' ' :: (word.toList ++ ' ' :: '(' :: (s₂.toList ++ [')']))) := by
  simp [String.toList_append]

/-- Two filters in groups with a connective between them are parsed as this connective says. -/
theorem parse_joined (word : String) {s₁ s₂ : String} {f g joined : Filter} {connective : Token}
    (hs₁ : Filter.parse limits s₁ = .ok f) (hs₂ : Filter.parse limits s₂ = .ok g)
    (hf : f ≠ .blank) (hg : g ≠ .blank) (hbelow₁ : NestsBelow limits.depth s₁)
    (hbelow₂ : NestsBelow limits.depth s₂) (hsize : f.size + g.size ≤ limits.conditions)
    (hword : ∀ after, Lexes (word.toList ++ ' ' :: after) [connective] (' ' :: after))
    (hconnective : ∀ n, openAfter n connective = n) (hfield : isField connective = false)
    (hderives : ∀ {ts us}, Derives .primary ts f → Derives .primary us g →
      Derives .disjunction (ts ++ connective :: us) joined) :
    Filter.parse limits ("(" ++ s₁ ++ ") " ++ word ++ " (" ++ s₂ ++ ")") = .ok joined := by
  obtain ⟨ts, left, hts, hleft, hf', hnests₁⟩ := exists_derives_of_parse hs₁ hf hbelow₁
  obtain ⟨us, left', hus, hleft', hg', hnests₂⟩ := exists_derives_of_parse hs₂ hg hbelow₂
  have hlexes := hts.join hleft hus hleft' hword
  rw [← toList_joined] at hlexes
  have haccepts := accepts_joined hf' hg' hnests₁ hnests₂ hsize hconnective hfield
    (hderives (.group hf') (.group hg'))
  exact (parse_eq_ok_iff_of_lexes hlexes rfl).2 haccepts

/-- Blanks around a filter change neither the filter nor the message of its error. -/
theorem parse_between_blanks (limits : Limits) (source : String) {front back : String}
    (hfront : ∀ c ∈ front.toList, isBlank c = true) (hback : ∀ c ∈ back.toList, isBlank c = true) :
    (Filter.parse limits (front ++ source ++ back)).mapError SyntaxError.message =
      (Filter.parse limits source).mapError SyntaxError.message := by
  obtain ⟨ts, left, stop, hts, hstop⟩ := Lexes.exists_stop source.toList
  obtain ⟨left', hwide, hstop'⟩ := hts.between_blanks hstop hfront hback
  have htoList : front.toList ++ (source.toList ++ back.toList) =
      (front ++ source ++ back).toList := by
    simp [String.toList_append]
  rw [htoList] at hwide
  rw [Filter.parse, Filter.parse]
  cases stop with
  | none =>
      obtain ⟨row, hrow, hwords⟩ := exists_row_of_lexes hts hstop
      obtain ⟨row', hrow', hwords'⟩ := exists_row_of_lexes hwide hstop'
      rw [hrow, hrow']
      exact Filter.ofTokens_eq_of_tokens_eq (hwords'.trans hwords.symm)
  | some fault =>
      obtain ⟨e, he, hfault⟩ := exists_error_of_lexes hts hstop
      obtain ⟨e', he', hfault'⟩ := exists_error_of_lexes hwide hstop'
      have hmessage : e'.message = e.message := by
        rw [SyntaxError.message, SyntaxError.message, hfault', hfault]
      rw [he, he']
      exact congrArg Except.error hmessage

/-- Filters that are not blank can be joined as text. In parentheses and with a connective between
them they give the joined filter, if each leaves room for one more group and both together have no
more conditions than the limit. Blanks around any source only move the places of its errors. -/
theorem filters_compose (limits : Limits) :
    (∀ s₁ s₂ f g, Filter.parse limits s₁ = .ok f → Filter.parse limits s₂ = .ok g →
      f ≠ .blank → g ≠ .blank → NestsBelow limits.depth s₁ → NestsBelow limits.depth s₂ →
      f.size + g.size ≤ limits.conditions →
      Filter.parse limits ("(" ++ s₁ ++ ") AND (" ++ s₂ ++ ")") = .ok (.and f g) ∧
        Filter.parse limits ("(" ++ s₁ ++ ") OR (" ++ s₂ ++ ")") = .ok (.or f g)) ∧
    ∀ source front back : String, (∀ c ∈ front.toList, isBlank c = true) →
      (∀ c ∈ back.toList, isBlank c = true) →
      (Filter.parse limits (front ++ source ++ back)).mapError SyntaxError.message =
        (Filter.parse limits source).mapError SyntaxError.message := by
  refine ⟨?_, fun source front back hfront hback =>
    parse_between_blanks limits source hfront hback⟩
  intro s₁ s₂ f g hs₁ hs₂ hf hg hbelow₁ hbelow₂ hsize
  constructor
  · have hjoined := parse_joined "AND" hs₁ hs₂ hf hg hbelow₁ hbelow₂ hsize lexes_and
      (fun _ => rfl) rfl fun hts hus => .ofConjunction (.and (.ofPrimary hts) hus)
    simpa [String.append_assoc] using hjoined
  · have hjoined := parse_joined "OR" hs₁ hs₂ hf hg hbelow₁ hbelow₂ hsize lexes_or
      (fun _ => rfl) rfl fun hts hus => .or (.ofConjunction (.ofPrimary hts)) (.ofPrimary hus)
    simpa [String.append_assoc] using hjoined

/-- A check can be joined with itself. -/
theorem filters_compose_of_checks :
    Filter.parse .standard ("(" ++ "a IS NULL" ++ ") OR (" ++ "a IS NULL" ++ ")") =
      .ok (.or (.condition "a" .isNull none) (.condition "a" .isNull none)) := by
  have hparse : Filter.parse .standard "a IS NULL" = .ok (.condition "a" .isNull none) := by
    decide +kernel
  have htokens : tokenize "a IS NULL" = .ok [⟨.field "a", ⟨0, 1⟩⟩, ⟨.keyword .is, ⟨2, 4⟩⟩,
      ⟨.keyword .null, ⟨5, 9⟩⟩, ⟨.done, ⟨9, 9⟩⟩] := by
    decide +kernel
  have hnests : NestsBelow Limits.standard.depth "a IS NULL" := by
    refine ⟨_, htokens, fun front hfront => ?_⟩
    have hopen := foldl_openAfter_le front 0
    have hlength : front.length ≤ 3 := hfront.length_le
    have hdepth : 3 < Limits.standard.depth := by decide
    rw [unclosed]
    omega
  exact ((filters_compose .standard).1 _ _ _ _ hparse hparse nofun nofun hnests hnests
    (by decide)).2

end EntryFilter

import EntryFilter.Proofs.Grammar.Composition

/-! # Conditions as they are written

A condition is written as the name of a field, a comparison sign and a literal, with or without
blanks between them. It is cut into these three tokens and parsed as what they say. -/

namespace EntryFilter

open Grammar EntryFilter.Text

/-! ## Names of fields -/

/-- The words that are no names of fields, in small letters. -/
def reservedWords : List String := ["and", "or", "true", "false"] ++ Keyword.all.map Keyword.word

/-- The text is a word that the language leaves to the names of fields. -/
structure NamesField (name : String) : Prop where
  isWord : ∃ c part, name.toList = c :: part ∧ Lexeme.isWordStart c = true ∧
    ∀ d ∈ part, Lexeme.isWordPart d = true
  notReserved : String.ofList (lower name.toList) ∉ reservedWords

theorem Keyword.ofWord_eq_none {word : String} (h : word ∉ Keyword.all.map Keyword.word) :
    Keyword.ofWord? word = none := by
  refine List.find?_eq_none.2 fun k hk heq => h ?_
  exact List.mem_map.2 ⟨k, hk, eq_of_beq heq⟩

theorem Token.ofWord_of_not_reserved {word : List Char}
    (h : String.ofList (lower word) ∉ reservedWords) :
    Token.ofWord word = .field (String.ofList word) := by
  simp only [reservedWords, List.mem_append, not_or] at h
  obtain ⟨hother, hkeyword⟩ := h
  unfold ofWord
  split
  all_goals try simp_all
  rw [Keyword.ofWord_eq_none (by simpa using hkeyword)]

theorem Lexeme.isWordPart_of_isWordStart {c : Char} (h : isWordStart c = true) :
    isWordPart c = true := by
  simp only [isWordStart, Bool.or_eq_true] at h
  rcases h with h | h <;> simp [isWordPart, h]

theorem Lexeme.isBlank_of_isWordStart {c : Char} (h : isWordStart c = true) :
    isBlank c = false := by
  refine Bool.eq_false_iff.2 fun hblank => ?_
  have hpart := (separates_of_blank hblank).2.1
  rw [isWordPart_of_isWordStart h] at hpart
  cases hpart

/-! ## The tokens of a condition -/

/-- A word ends where no further character of a word follows. -/
theorem lexes_ofWord {c : Char} {part after : List Char} (hc : Lexeme.isWordStart c = true)
    (hpart : ∀ d ∈ part, Lexeme.isWordPart d = true)
    (hafter : ∀ d ∈ after.head?, Lexeme.isWordPart d = false) :
    Lexes (c :: part ++ after) [Token.ofWord (c :: part)] after := by
  obtain ⟨htake, hdrop⟩ := takeWhile_append_of_head part hafter
  rw [List.takeWhile_eq_self_iff.2 hpart] at htake
  rw [List.dropWhile_eq_nil_iff.2 hpart, List.nil_append] at hdrop
  have hcut : Lexeme.cut c (part ++ after) = ⟨.word, c :: part, after⟩ := by
    rw [Lexeme.cut_of_not_mem_signs (not_mem_signs_of_word hc),
      if_neg (not_isAsciiDigit_of_word hc), if_pos hc, htake, hdrop]
  rw [List.cons_append]
  refine .cons (trimStart_of_not_blank (Lexeme.isBlank_of_isWordStart hc) _) ?_ ?_
  · rw [hcut]
    rfl
  · rw [hcut]
    exact .nil after

theorem lexes_field {name : String} (h : NamesField name) {after : List Char}
    (hafter : ∀ d ∈ after.head?, Lexeme.isWordPart d = false) :
    Lexes (name.toList ++ after) [.field name] after := by
  obtain ⟨c, part, hname, hc, hpart⟩ := h.isWord
  have htoken : Token.ofWord (c :: part) = .field name := by
    rw [← hname, Token.ofWord_of_not_reserved h.notReserved, String.ofList_toList]
  have hlexes := lexes_ofWord hc hpart hafter
  rwa [htoken, ← hname] at hlexes

theorem Lexeme.ofSign_of_head (c : Char) (short long : LexemeKind) {after : List Char}
    (h : ∀ d ∈ after.head?, d ≠ '=') : ofSign c short long after = ⟨short, [c], after⟩ := by
  unfold ofSign
  split
  · exact absurd rfl (h '=' rfl)
  · rfl

/-- A comparison sign ends where no equals sign follows. -/
theorem lexes_comparison (c : Comparison) {after : List Char} (h : ∀ d ∈ after.head?, d ≠ '=') :
    Lexes (c.symbol.toList ++ after) [.compare (.compare c)] after := by
  have hshort {sign : Char} {long : LexemeKind} (hblank : isBlank sign = false)
      (hcut : Lexeme.cut sign after = Lexeme.ofSign sign (.compare c) long after) :
      Lexes (sign :: after) [.compare (.compare c)] after := by
    rw [Lexeme.ofSign_of_head _ _ _ h] at hcut
    refine .cons (trimStart_of_not_blank hblank after) ?_ ?_
    · rw [hcut]
      rfl
    · rw [hcut]
      exact .nil after
  have hlong {sign : Char} (hblank : isBlank sign = false)
      (hcut : Lexeme.cut sign ('=' :: after) = ⟨.compare c, [sign, '='], after⟩) :
      Lexes (sign :: '=' :: after) [.compare (.compare c)] after := by
    refine .cons (trimStart_of_not_blank hblank _) ?_ ?_
    · rw [hcut]
      rfl
    · rw [hcut]
      exact .nil after
  cases c with
  | eq => exact hshort (by decide) rfl
  | ne => exact hlong (by decide) rfl
  | gt => exact hshort (by decide) rfl
  | lt => exact hshort (by decide) rfl
  | gte => exact hlong (by decide) rfl
  | lte => exact hlong (by decide) rfl

variable {limits : Limits} {name : String} {c : Comparison}

theorem head_of_blanks_append {p : Char → Prop} {blanks back : List Char}
    (hblanks : ∀ b ∈ blanks, p b) (hback : ∀ d ∈ back.head?, p d) :
    ∀ d ∈ (blanks ++ back).head?, p d := by
  cases blanks with
  | nil => exact hback
  | cons b blanks =>
      intro d hd
      obtain rfl : b = d := Option.some.inj hd
      exact hblanks b List.mem_cons_self

theorem Comparison.head_symbol (c : Comparison) (after : List Char) :
    ∀ d ∈ (c.symbol.toList ++ after).head?, Lexeme.isWordPart d = false := by
  intro d hd
  cases c with
  | _ =>
      obtain rfl := Option.some.inj hd
      decide +kernel

/-- A written condition is cut into its three tokens. -/
theorem lexes_condition (hname : NamesField name) (c : Comparison) {front back text : List Char}
    {word : Token} (hfront : ∀ b ∈ front, isBlank b = true) (hback : ∀ b ∈ back, isBlank b = true)
    (htext : Lexes text [word] []) (hhead : ∀ d ∈ text.head?, d ≠ '=') :
    Lexes (name.toList ++ (front ++ (c.symbol.toList ++ (back ++ text))))
      [.field name, .compare (.compare c), word] [] := by
  have hsign := lexes_comparison c
    (head_of_blanks_append (fun b hb => (separates_of_blank (hback b hb)).1) hhead)
  have hrest := hsign.append (htext.skip_blanks hback)
  have hafter := head_of_blanks_append (fun b hb => (separates_of_blank (hfront b hb)).2.1)
    (c.head_symbol (back ++ text))
  exact (lexes_field hname hafter).append (hrest.skip_blanks hfront)

/-- A written condition is parsed as the condition that its tokens say. -/
theorem parse_condition (hname : NamesField name) (c : Comparison) {front back text : String}
    {word : Token} {literal : Literal} (hfront : ∀ b ∈ front.toList, isBlank b = true)
    (hback : ∀ b ∈ back.toList, isBlank b = true) (htext : Lexes text.toList [word] [])
    (hhead : ∀ d ∈ text.toList.head?, d ≠ '=') (hword : Denotes word literal)
    (hlimits : 0 < limits.conditions) :
    Filter.parse limits (name ++ front ++ c.symbol ++ back ++ text) =
      .ok (.condition name (.compare c) (some literal)) := by
  have hlexes := lexes_condition hname c hfront hback htext hhead
  have htoList : name.toList ++ (front.toList ++ (c.symbol.toList ++ (back.toList ++ text.toList)))
      = (name ++ front ++ c.symbol ++ back ++ text).toList := by
    simp [String.toList_append]
  rw [htoList] at hlexes
  refine (parse_eq_ok_iff_of_lexes hlexes rfl).2 (.inr ⟨?_, ?_, ?_⟩)
  · exact .ofConjunction (.ofPrimary (.comparison name (.sign _) hword))
  · have hcount : fieldCount [.field name, .compare (.compare c), word] = 1 := by
      simp [(TakesOperand.sign (.compare c)).isField_eq, hword.isField_eq]
    rw [hcount]
    exact hlimits
  · simp [nestsWithin_cons, nestsWithin_nil, (TakesOperand.sign (.compare c)).openAfter_eq,
      hword.openAfter_eq]

end EntryFilter

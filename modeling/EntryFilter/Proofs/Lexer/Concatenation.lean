import EntryFilter.Proofs.Lexer.Separation
import EntryFilter.Proofs.Lexer.TokenRow

/-! # Texts one behind the other

Cutting tokens from the front of a text is told as a relation between the text, the tokens and the
text that is left. It composes, and by what separates it can be carried over to a longer text. -/

namespace EntryFilter

open EntryFilter.Text

/-- The tokens are cut from the front of a text, and another text is left. -/
inductive Lexes : List Char → List Token → List Char → Prop where
  | nil (cs) : Lexes cs [] cs
  | cons {cs c rest t ts left} : trimStart cs = c :: rest → (Lexeme.cut c rest).token = .ok t →
      Lexes (Lexeme.cut c rest).rest ts left → Lexes cs (t :: ts) left

/-- What comes behind the tokens: the end of the text or a fault. -/
def Stops (cs : List Char) : Option SyntaxFault → Prop
  | none => trimStart cs = []
  | some fault => ∃ c rest, trimStart cs = c :: rest ∧ (Lexeme.cut c rest).token = .error fault

namespace Lexes

theorem append {cs middle left : List Char} {ts us : List Token} (h : Lexes cs ts middle)
    (h' : Lexes middle us left) : Lexes cs (ts ++ us) left := by
  induction h with
  | nil => exact h'
  | cons htrim htoken _ ih => exact .cons htrim htoken (ih h')

/-- Every text is cut into tokens up to its end or a fault. -/
theorem exists_stop (cs : List Char) : ∃ ts left stop, Lexes cs ts left ∧ Stops left stop := by
  generalize hn : cs.length = n
  induction n using Nat.strongRecOn generalizing cs with
  | _ n ih =>
      cases htrim : trimStart cs with
      | nil => exact ⟨[], cs, none, .nil cs, htrim⟩
      | cons c rest =>
          cases htoken : (Lexeme.cut c rest).token with
          | error fault => exact ⟨[], cs, some fault, .nil cs, c, rest, htrim, htoken⟩
          | ok t =>
              have hshorter : (Lexeme.cut c rest).rest.length < n := by
                have hcut := Lexeme.cut_rest_length c rest
                have hskip := Cursor.trimStart_length cs
                rw [htrim] at hskip
                omega
              obtain ⟨ts, left, stop, hts, hstop⟩ := ih _ hshorter _ rfl
              exact ⟨t :: ts, left, stop, .cons htrim htoken hts, hstop⟩

theorem done_not_mem {cs left : List Char} {ts : List Token} (h : Lexes cs ts left) :
    .done ∉ ts := by
  induction h with
  | nil => exact List.not_mem_nil
  | @cons _ c rest t _ _ _ htoken _ ih =>
      have ht : t ≠ .done := by
        rintro rfl
        exact (Lexeme.isLongest_cut c rest).ne_done htoken
      simp [ih, ht.symm]

end Lexes

/-! ## Tokens of a source -/

namespace Cursor

variable {cursor : Cursor}

theorem next_of_trimStart {c : Char} {rest : List Char}
    (h : trimStart cursor.rest = c :: rest) :
    cursor.next.2.rest = (Lexeme.cut c rest).rest ∧
      Finding.outcome cursor.next.1 = (Lexeme.cut c rest).token := by
  have hskip : cursor.skipBlanks.rest = c :: rest := h
  simp only [next, hskip, outcome_place, and_self]

theorem exists_tokens_of_trimStart_nil (h : trimStart cursor.rest = []) :
    ∃ span, cursor.tokens = .ok [⟨.done, span⟩] := by
  have hskip : cursor.skipBlanks.rest = [] := h
  rw [tokens]
  split
  · exact ⟨_, rfl⟩
  · rename_i hcons
    rw [hskip] at hcons
    cases hcons

/-- A text that is cut into tokens up to its end has these tokens and the end token. -/
theorem exists_tokens_of_lexes (cursor : Cursor) {ts : List Token} {left : List Char}
    (h : Lexes cursor.rest ts left) (hstop : Stops left none) :
    ∃ row, cursor.tokens = .ok row ∧ row.map PlacedToken.token = ts ++ [.done] := by
  generalize hcs : cursor.rest = cs at h
  induction h generalizing cursor with
  | nil =>
      subst hcs
      obtain ⟨span, htokens⟩ := exists_tokens_of_trimStart_nil hstop
      exact ⟨_, htokens, rfl⟩
  | @cons _ c rest t ts left htrim htoken _ ih =>
      subst hcs
      obtain ⟨hrest, houtcome⟩ := next_of_trimStart htrim
      obtain ⟨row, hrow, hwords⟩ := ih cursor.next.2 hstop hrest
      cases hnext : cursor.next.1 with
      | error e =>
          rw [hnext, htoken] at houtcome
          cases houtcome
      | ok token =>
          rw [hnext, htoken] at houtcome
          obtain rfl : token.token = t := Except.ok.inj houtcome
          refine ⟨token :: row, ?_, ?_⟩
          · rw [tokens_of_ok htrim hnext, hrow]
            rfl
          · rw [List.map_cons, hwords, List.cons_append]

/-- A text that is cut into tokens up to a fault has this fault for its error. -/
theorem exists_error_of_lexes (cursor : Cursor) {ts : List Token} {left : List Char} {fault : SyntaxFault}
    (h : Lexes cursor.rest ts left) (hstop : Stops left (some fault)) :
    ∃ e, cursor.tokens = .error e ∧ e.fault = fault := by
  generalize hcs : cursor.rest = cs at h
  induction h generalizing cursor with
  | nil =>
      subst hcs
      obtain ⟨c, rest, htrim, htoken⟩ := hstop
      obtain ⟨-, houtcome⟩ := next_of_trimStart htrim
      cases hnext : cursor.next.1 with
      | error e =>
          rw [hnext, htoken] at houtcome
          exact ⟨e, tokens_of_error htrim hnext, Except.error.inj houtcome⟩
      | ok token =>
          rw [hnext, htoken] at houtcome
          cases houtcome
  | @cons _ c rest t ts left htrim htoken _ ih =>
      subst hcs
      obtain ⟨hrest, houtcome⟩ := next_of_trimStart htrim
      obtain ⟨e, he, hfault⟩ := ih cursor.next.2 hstop hrest
      cases hnext : cursor.next.1 with
      | error e =>
          rw [hnext, htoken] at houtcome
          cases houtcome
      | ok token =>
          refine ⟨e, ?_, hfault⟩
          rw [tokens_of_ok htrim hnext, he]
          rfl

end Cursor

/-! ## More text behind and blanks in front -/

/-- A separator behind the text changes none of its tokens. -/
theorem Lexes.before_separator {cs left after : List Char} {ts : List Token}
    (h : Lexes cs ts left) (hafter : Separates after) : Lexes (cs ++ after) ts (left ++ after) := by
  induction h with
  | nil cs => exact .nil _
  | @cons cs c rest t ts left htrim htoken _ ih =>
      have hkind : (Lexeme.cut c rest).kind ≠ .unclosed := by
        intro hkind
        obtain ⟨quote, hquote⟩ := Lexeme.token_of_unclosed hkind
        rw [htoken] at hquote
        cases hquote
      have hcut := Lexeme.cut_append_of_separates hkind hafter
      refine .cons (trimStart_append_of_cons htrim after) ?_ ?_
      · rw [hcut, Lexeme.before_token, htoken]
      · rw [hcut, Lexeme.before_rest]
        exact ih

theorem Stops.append_blanks {cs blanks : List Char} {stop : Option SyntaxFault} (h : Stops cs stop)
    (hblanks : ∀ b ∈ blanks, isBlank b = true) : Stops (cs ++ blanks) stop := by
  cases stop with
  | none =>
      have htrim : trimStart (cs ++ blanks) = trimStart blanks := trimStart_append_of_nil h blanks
      exact htrim.trans (List.dropWhile_eq_nil_iff.2 hblanks)
  | some fault =>
      obtain ⟨c, rest, htrim, htoken⟩ := h
      refine ⟨c, rest ++ blanks, trimStart_append_of_cons htrim blanks, ?_⟩
      rw [Lexeme.token_append_blanks c rest hblanks, htoken]

theorem Lexes.skip_blanks {cs left blanks : List Char} {t : Token} {ts : List Token}
    (h : Lexes cs (t :: ts) left) (hblanks : ∀ b ∈ blanks, isBlank b = true) :
    Lexes (blanks ++ cs) (t :: ts) left := by
  cases h with
  | cons htrim htoken hts =>
      exact .cons ((trimStart_blanks_append hblanks cs).trans htrim) htoken hts

/-- Blanks in front of the text are skipped, with the first token or with what stops the lexer. -/
theorem Lexes.behind_blanks {cs left blanks : List Char} {ts : List Token}
    {stop : Option SyntaxFault} (h : Lexes cs ts left) (hstop : Stops left stop)
    (hblanks : ∀ b ∈ blanks, isBlank b = true) :
    ∃ left', Lexes (blanks ++ cs) ts left' ∧ Stops left' stop := by
  cases ts with
  | cons t ts => exact ⟨left, h.skip_blanks hblanks, hstop⟩
  | nil =>
      cases h
      have htrim := trimStart_blanks_append hblanks cs
      refine ⟨blanks ++ cs, .nil _, ?_⟩
      cases stop with
      | none => exact htrim.trans hstop
      | some fault =>
          obtain ⟨c, rest, hrest, htoken⟩ := hstop
          exact ⟨c, rest, htrim.trans hrest, htoken⟩

/-- Blanks around a text change neither its tokens nor its fault. -/
theorem Lexes.between_blanks {cs left front back : List Char} {ts : List Token}
    {stop : Option SyntaxFault} (h : Lexes cs ts left) (hstop : Stops left stop)
    (hfront : ∀ b ∈ front, isBlank b = true) (hback : ∀ b ∈ back, isBlank b = true) :
    ∃ left', Lexes (front ++ (cs ++ back)) ts left' ∧ Stops left' stop :=
  (h.before_separator (separates_blanks hback)).behind_blanks (hstop.append_blanks hback) hfront

end EntryFilter

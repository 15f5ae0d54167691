import EntryFilter.Proofs.Grammar.Completeness

/-! # Beginnings of filters

Whatever the parser has read without an error can be completed: the condition at hand, then the
chains of the open groups from the inside to the outside. A token that no limit forbids and that
the parser refuses all the same cannot be completed by any row of tokens, because the parser would
read the whole row under wider limits. -/

namespace EntryFilter

open Grammar

namespace Grammar

/-- The tokens of a whole source, its end token included. -/
def IsSentence (ts : List Token) : Prop :=
  ∃ words, ts = words ++ [.done] ∧ (words = [] ∨ ∃ f, Derives .disjunction words f)

/-- The tokens are the beginning of a sentence. -/
def BeginsSentence (ts : List Token) : Prop := ∃ rest, IsSentence (ts ++ rest)

theorem BeginsSentence.of_prefix {front ts : List Token} (h : BeginsSentence ts)
    (hf : front <+: ts) : BeginsSentence front := by
  obtain ⟨middle, rfl⟩ := hf
  obtain ⟨rest, hrest⟩ := h
  refine ⟨middle ++ rest, ?_⟩
  rwa [← List.append_assoc]

/-- A filter has no end token in it. -/
theorem Derives.done_not_mem {rank : Rank} {ts : List Token} {f : Filter}
    (h : Derives rank ts f) : .done ∉ ts := by
  induction h with
  | comparison name hs hw => cases hs <;> cases hw <;> simp
  | check name hc => cases hc <;> simp
  | group _ ih => simp [ih]
  | ofPrimary _ ih => exact ih
  | and _ _ ihl ihr => simp [ihl, ihr]
  | ofConjunction _ ih => exact ih
  | or _ _ ihl ihr => simp [ihl, ihr]

theorem exists_of_append_cons {front rest words : List Token} {t : Token}
    (h : front ++ t :: rest = words ++ [.done]) (ht : t ≠ .done) :
    ∃ us, words = front ++ t :: us := by
  rcases List.append_eq_append_iff.1 h with ⟨us, rfl, hus⟩ | ⟨us, rfl, hus⟩
  · cases us with
    | nil => exact absurd (List.cons.inj hus).1 ht
    | cons u us => exact ⟨us, by rw [(List.cons.inj hus).1]⟩
  · cases us with
    | nil => exact absurd (List.cons.inj hus).1.symm ht
    | cons u us => simp at hus

theorem eq_of_append_done {front rest words : List Token}
    (h : front ++ .done :: rest = words ++ [.done]) (hdone : .done ∉ words) : words = front := by
  rcases List.append_eq_append_iff.1 h with ⟨us, rfl, hus⟩ | ⟨us, rfl, hus⟩
  · cases us with
    | nil => exact List.append_nil front
    | cons u us => simp [(List.cons.inj hus).1] at hdone
  · cases us with
    | nil => exact (List.append_nil words).symm
    | cons u us => simp at hus

/-- Limits under which a row of tokens can be read in addition. -/
def widened (limits : Limits) (ts : List Token) : Limits :=
  ⟨limits.depth + ts.length, limits.conditions + ts.length⟩

theorem Derives.accepts_widened {ts : List Token} {f : Filter} (h : Derives .disjunction ts f)
    (limits : Limits) : Accepts (widened limits ts) ts f := by
  refine .inr ⟨h, ?_, ?_⟩
  · have hcount : fieldCount ts ≤ ts.length := List.countP_le_length
    exact Nat.le_add_left_of_le hcount
  · intro front hf
    have hopen := foldl_openAfter_le front 0
    have hlength := hf.length_le
    simp only [widened]
    omega

end Grammar

/-! ## Completing what has been read -/

theorem Expected.Spells.completes {expected : Expected} {es : List Token}
    (h : expected.Spells es) : ∃ rest f, Derives .primary (es ++ rest) f := by
  cases h with
  | condition => exact ⟨[.field "a", .keyword .is, .keyword .null], _, .check "a" .isNull⟩
  | operator => exact ⟨[.keyword .is, .keyword .null], _, .check _ .isNull⟩
  | value hs => exact ⟨[.bool true], _, .comparison _ hs (.bool true)⟩
  | check => exact ⟨[.keyword .null], _, .check _ .isNull⟩
  | negatedCheck => exact ⟨[.keyword .null], _, .check _ .isNotNull⟩
  | connective hf => exact ⟨[], _, by rwa [List.append_nil]⟩

/-- The open groups can be closed one after the other. -/
theorem GroupsSpell.completes {groups : List OpenGroup} {gs ts : List Token} {f : Filter}
    (hg : GroupsSpell groups gs) (hf : Derives .disjunction ts f) :
    ∃ rest g, Derives .disjunction (gs ++ ts ++ rest) g := by
  induction hg generalizing ts f with
  | nil => exact ⟨[], f, by simpa using hf⟩
  | cons _ hu ih =>
      obtain ⟨rest, g, hrest⟩ := ih (hu.derives_close (.group hf))
      exact ⟨.closing :: rest, g, by simpa using hrest⟩

namespace ParserState

variable {limits : Limits}

theorem Spells.beginsSentence {state : ParserState} {ts : List Token} (h : state.Spells ts) :
    BeginsSentence ts := by
  obtain ⟨gs, cs, es, rfl, hg, hc, he⟩ := h
  obtain ⟨inner, f, hf⟩ := he.completes
  obtain ⟨outer, g, hsentence⟩ := hg.completes (hc.derives_close hf)
  refine ⟨inner ++ outer ++ [.done], gs ++ (cs ++ (es ++ inner)) ++ outer, ?_, .inr ⟨g, hsentence⟩⟩
  simp

/-! ## Room under the limits -/

/-- The limits leave room for one more token. -/
def HasRoom (limits : Limits) (state : ParserState) : Token → Prop
  | .opening => state.groups.length < limits.depth
  | .field _ => state.conditions < limits.conditions
  | _ => True

theorem Advances.hasRoom {state next : ParserState} {token : PlacedToken}
    (h : Advances limits state token next) : state.HasRoom limits token.token := by
  cases h with
  | opening hd => exact hd
  | field hn => exact hn
  | operator hs => cases hs <;> trivial
  | value hw => cases hw <;> trivial
  | _ => trivial

/-- The limits matter only for the room that they leave. -/
theorem Advances.relimit {limits' : Limits} {state next : ParserState} {token : PlacedToken}
    (h : Advances limits state token next) (hroom : state.HasRoom limits' token.token) :
    Advances limits' state token next := by
  cases h with
  | opening => exact .opening hroom
  | field => exact .field hroom
  | operator hs => exact .operator hs
  | is => exact .is
  | value hw => exact .value hw
  | null => exact .null
  | empty => exact .empty
  | not => exact .not
  | notNull => exact .notNull
  | notEmpty => exact .notEmpty
  | and => exact .and
  | or => exact .or
  | closing => exact .closing

theorem HasRoom.widen {state : ParserState} {t : Token} (h : state.HasRoom limits t)
    (ts : List Token) : state.HasRoom (widened limits ts) t := by
  cases t with
  | opening => exact Nat.lt_add_right ts.length h
  | field name => exact Nat.lt_add_right ts.length h
  | _ => trivial

theorem Reads.widen {state last : ParserState} {tokens : List PlacedToken}
    (h : Reads limits state tokens last) (ts : List Token) :
    Reads (widened limits ts) state tokens last := by
  induction h with
  | nil state => exact .nil state
  | cons hstep _ ih => exact .cons (hstep.relimit (hstep.hasRoom.widen ts)) ih

theorem Reads.reached {state last : ParserState} {tokens : List PlacedToken} {ts : List Token}
    (h : Reads limits state tokens last) (hr : Reached limits state ts) :
    Reached limits last (ts ++ tokens.map PlacedToken.token) := by
  induction h generalizing ts with
  | nil => simpa using hr
  | cons hstep _ ih => simpa using ih (hstep.reached hr)

/-! ## Refused tokens -/

variable {last : ParserState} {front : List PlacedToken} {token : PlacedToken} {e : SyntaxError}

theorem body_map_place {ts : List Token} (h : .done ∉ ts) (span : Span) :
    body (ts.map fun t => ⟨t, span⟩) = ts := by
  induction ts with
  | nil => rfl
  | cons t ts ih =>
      obtain ⟨ht, hts⟩ := not_or.1 (mt List.mem_cons.2 h)
      have ht : (PlacedToken.mk t span).token ≠ .done := Ne.symm ht
      rw [List.map_cons, body_cons ht, ih hts]

theorem body_append_of_done_not_mem {front rest : List PlacedToken}
    (h : .done ∉ front.map PlacedToken.token) :
    body (front ++ rest) = front.map PlacedToken.token ++ body rest := by
  induction front with
  | nil => rfl
  | cons t front ih =>
      obtain ⟨ht, hfront⟩ := not_or.1 (mt List.mem_cons.2 h)
      rw [List.cons_append, body_cons (Ne.symm ht), ih hfront, List.map_cons, List.cons_append]

/-- If a filter goes on behind the tokens that have been read, the parser can go on, too. -/
theorem Reads.exists_advances {us : List Token} {f : Filter}
    (h : Reads limits initial front last)
    (hf : Derives .disjunction (front.map PlacedToken.token ++ token.token :: us) f) :
    ∃ limits' next, Advances limits' last token next := by
  have hdone := hf.done_not_mem
  simp only [List.mem_append, List.mem_cons, not_or] at hdone
  obtain ⟨hfront, htoken, hus⟩ := hdone
  have hbody : body (front ++ token :: us.map fun t => ⟨t, token.span⟩) =
      front.map PlacedToken.token ++ token.token :: us := by
    rw [body_append_of_done_not_mem hfront, body_cons (Ne.symm htoken), body_map_place hus]
  have hrun := (Filter.ofTokens_eq_ok_iff _ _ f).2 (hbody ▸ hf.accepts_widened limits)
  obtain ⟨place, hplace⟩ := (h.widen _).run_append 0 (token :: us.map fun t => ⟨t, token.span⟩)
  rw [Filter.ofTokens, hplace, run, if_neg (Ne.symm htoken)] at hrun
  split at hrun
  · rename_i next hnext
    exact ⟨_, next, advances_iff.2 hnext⟩
  · cases hrun

/-- If a filter ends with the tokens that have been read, the parser can stop. -/
theorem Reads.exists_finish {f : Filter} (h : Reads limits initial front last)
    (hf : Derives .disjunction (front.map PlacedToken.token) f) (span : Span) :
    last.finish span = .ok f := by
  have hbody : body (front ++ [⟨.done, span⟩]) = front.map PlacedToken.token := by
    rw [body_append_of_done_not_mem hf.done_not_mem, body_cons_done rfl, List.append_nil]
  have hrun := (Filter.ofTokens_eq_ok_iff _ _ f).2 (hbody ▸ hf.accepts_widened limits)
  obtain ⟨place, hplace⟩ := (h.widen _).run_append 0 [⟨.done, span⟩]
  rwa [Filter.ofTokens, hplace, run, if_pos rfl] at hrun

/-- A token for which there is room and that is refused all the same continues no sentence. -/
theorem Reads.not_beginsSentence {next : PlacedToken} (h : Reads limits initial front last)
    (hnext : next.token ≠ .done) (hroom : last.HasRoom limits next.token)
    (he : last.step limits next = .error e) :
    ¬ BeginsSentence (front.map PlacedToken.token ++ [next.token]) := by
  rintro ⟨rest, words, hwords, hsentence⟩
  rw [List.append_assoc, List.singleton_append] at hwords
  obtain ⟨us, rfl⟩ := exists_of_append_cons hwords hnext
  rcases hsentence with hnil | ⟨f, hf⟩
  · simp at hnil
  · obtain ⟨limits', state, hstate⟩ := h.exists_advances hf
    have hok := (hstate.relimit hroom).execution
    rw [he] at hok
    cases hok

/-- Where the parser cannot stop no sentence ends. -/
theorem Reads.not_beginsSentence_done {span : Span} (h : Reads limits initial front last)
    (he : last.finish span = .error e) :
    ¬ BeginsSentence (front.map PlacedToken.token ++ [.done]) := by
  rintro ⟨rest, words, hwords, hsentence⟩
  have hdone : .done ∉ words := by
    rcases hsentence with rfl | ⟨f, hf⟩
    · exact List.not_mem_nil
    · exact hf.done_not_mem
  rw [List.append_assoc, List.singleton_append] at hwords
  obtain rfl := eq_of_append_done hwords hdone
  rcases hsentence with hnil | ⟨f, hf⟩
  · rw [List.map_eq_nil_iff] at hnil
    subst hnil
    cases h
    cases he
  · rw [h.exists_finish hf] at he
    cases he

end ParserState

end EntryFilter

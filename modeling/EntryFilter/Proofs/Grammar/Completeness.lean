import EntryFilter.Proofs.Grammar.Soundness

/-! # The parser accepts every filter

A derivation guides the parser: it reads the tokens of a filter one after the other, with the
groups as before in the end, and gets the filter of the derivation. Together with soundness the
parser accepts exactly the rows of tokens that spell a filter within the limits. -/

namespace EntryFilter

open Grammar

namespace ParserState

variable {limits : Limits}

/-- The parser goes from one state to another over a row of tokens. -/
inductive Reads (limits : Limits) : ParserState → List PlacedToken → ParserState → Prop where
  | nil (state) : Reads limits state [] state
  | cons {state next last token tokens} : Advances limits state token next →
      Reads limits next tokens last → Reads limits state (token :: tokens) last

theorem Reads.append {first middle last : ParserState} {front rest : List PlacedToken}
    (hf : Reads limits first front middle) (hr : Reads limits middle rest last) :
    Reads limits first (front ++ rest) last := by
  induction hf with
  | nil => exact hr
  | cons h _ ih => exact .cons h (ih hr)

theorem Advances.single {state next : ParserState} {token : PlacedToken}
    (h : Advances limits state token next) : Reads limits state [token] next :=
  .cons h (.nil next)

theorem Advances.token_ne_done {state next : ParserState} {token : PlacedToken}
    (h : Advances limits state token next) : token.token ≠ .done := by
  cases h with
  | operator hs => cases hs <;> exact Token.noConfusion
  | value hw => cases hw <;> exact Token.noConfusion
  | _ => exact Token.noConfusion

theorem Reads.run_append {state last : ParserState} {tokens : List PlacedToken}
    (h : Reads limits state tokens last) (stop : Nat) (rest : List PlacedToken) :
    ∃ place, state.run limits stop (tokens ++ rest) = last.run limits place rest := by
  induction h generalizing stop with
  | nil => exact ⟨stop, rfl⟩
  | @cons state next last token tokens hstep _ ih =>
      obtain ⟨place, hplace⟩ := ih token.span.stop
      refine ⟨place, ?_⟩
      rw [List.cons_append, run, if_neg hstep.token_ne_done, hstep.execution]
      exact hplace

end ParserState

namespace Grammar

open ParserState

variable {limits : Limits}

/-- The chains in which a row of the given rank may begin. -/
def Rank.Opens : Rank → Chain → Prop
  | .primary, _ => True
  | .conjunction, chain => chain.conjunct = none
  | .disjunction, chain => chain = .empty

/-- How a row of the given rank, which spells `f`, leaves a chain with its last primary. -/
def Rank.Leaves : Rank → Chain → Chain → Filter → Filter → Prop
  | .primary, before, after, last, f => after = before ∧ last = f
  | .conjunction, before, after, last, f =>
    after.alternative = before.alternative ∧ after.conjoin last = f
  | .disjunction, _, after, last, f => after.close last = f

theorem conjoin_of_none {chain : Chain} (h : chain.conjunct = none) (last : Filter) :
    chain.conjoin last = last := by
  simp [Chain.conjoin, h]

theorem close_of_none {chain : Chain} (h : chain.alternative = none) (last : Filter) :
    chain.close last = chain.conjoin last := by
  simp [Chain.close, h]

theorem close_of_some {chain : Chain} {left : Filter} (h : chain.alternative = some left)
    (last : Filter) : chain.close last = .or left (chain.conjoin last) := by
  simp [Chain.close, h]

/-- A check is read behind its field. -/
theorem Checks.reads {tail : List Token} {operator : Operator} (h : Checks tail operator)
    {tokens : List PlacedToken} (htokens : tokens.map PlacedToken.token = tail)
    {groups : List OpenGroup} {chain : Chain} {n : Nat} {name : String} {place : Span} :
    Reads limits ⟨groups, chain, n, .operator name place⟩ tokens
      ⟨groups, chain, n, .connective (.condition name operator none)⟩ := by
  cases h <;> simp only [List.map_eq_cons_iff, List.map_eq_nil_iff] at htokens
  case isNull =>
    obtain ⟨⟨_, _⟩, _, rfl, rfl, ⟨_, _⟩, _, rfl, rfl, rfl⟩ := htokens
    exact .cons .is Advances.null.single
  case isEmpty =>
    obtain ⟨⟨_, _⟩, _, rfl, rfl, ⟨_, _⟩, _, rfl, rfl, rfl⟩ := htokens
    exact .cons .is Advances.empty.single
  case isNotNull =>
    obtain ⟨⟨_, _⟩, _, rfl, rfl, ⟨_, _⟩, _, rfl, rfl, ⟨_, _⟩, _, rfl, rfl, rfl⟩ := htokens
    exact .cons .is (.cons .not Advances.notNull.single)
  case isNotEmpty =>
    obtain ⟨⟨_, _⟩, _, rfl, rfl, ⟨_, _⟩, _, rfl, rfl, ⟨_, _⟩, _, rfl, rfl, rfl⟩ := htokens
    exact .cons .is (.cons .not Advances.notEmpty.single)

theorem exists_split {tokens : List PlacedToken} {ts us : List Token} {t : Token}
    (h : tokens.map PlacedToken.token = ts ++ t :: us) :
    ∃ left span right, tokens = left ++ ⟨t, span⟩ :: right ∧ left.map PlacedToken.token = ts ∧
      right.map PlacedToken.token = us := by
  obtain ⟨left, rest, rfl, hleft, hrest⟩ := List.map_eq_append_iff.1 h
  obtain ⟨⟨_, span⟩, right, rfl, rfl, hright⟩ := List.map_eq_cons_iff.1 hrest
  exact ⟨left, span, right, rfl, hleft, hright⟩

/-- The right side of a connective is nested as deep as the left one. -/
theorem Derives.nestsWithin_sides {rank : Rank} {ts us : List Token} {f : Filter}
    (h : Derives rank ts f) {t : Token} {limit n : Nat} (ht : openAfter n t = n)
    (hd : NestsWithin limit n (ts ++ t :: us)) :
    NestsWithin limit n ts ∧ NestsWithin limit n us := by
  obtain ⟨hleft, hright⟩ := nestsWithin_append.1 hd
  rw [h.foldl_openAfter] at hright
  obtain ⟨-, hright⟩ := nestsWithin_cons.1 hright
  rw [ht] at hright
  exact ⟨hleft, hright⟩

/-- The tokens of a derivation can be read wherever the limits leave room for them. -/
theorem Derives.reads {rank : Rank} {ts : List Token} {f : Filter} (h : Derives rank ts f) :
    ∀ (tokens : List PlacedToken) (groups : List OpenGroup) (chain : Chain) (n : Nat),
      tokens.map PlacedToken.token = ts → rank.Opens chain →
      n + fieldCount ts ≤ limits.conditions → NestsWithin limits.depth groups.length ts →
      ∃ after last, rank.Leaves chain after last f ∧
        Reads limits ⟨groups, chain, n, .condition⟩ tokens
          ⟨groups, after, n + fieldCount ts, .connective last⟩ := by
  induction h with
  | @comparison name sign word operator literal hs hw =>
      intro tokens groups chain n htokens _ hn _
      have hcount : fieldCount [.field name, sign, word] = 1 := by
        simp [hs.isField_eq, hw.isField_eq]
      simp only [List.map_eq_cons_iff, List.map_eq_nil_iff] at htokens
      obtain ⟨⟨_, _⟩, _, rfl, rfl, ⟨_, _⟩, _, rfl, rfl, ⟨_, _⟩, _, rfl, rfl, rfl⟩ := htokens
      rw [hcount] at hn ⊢
      exact ⟨chain, _, ⟨rfl, rfl⟩,
        .cons (.field hn) (.cons (.operator hs) (Advances.value hw).single)⟩
  | @check name tail operator hc =>
      intro tokens groups chain n htokens _ hn _
      have hcount : fieldCount (.field name :: tail) = 1 := by cases hc <;> rfl
      obtain ⟨⟨_, span⟩, rest, rfl, rfl, hrest⟩ := List.map_eq_cons_iff.1 htokens
      rw [hcount] at hn ⊢
      refine ⟨chain, _, ⟨rfl, rfl⟩, .cons (.field hn) (hc.reads hrest)⟩
  | @group ts f hf ih =>
      intro tokens groups chain n htokens _ hn hd
      obtain ⟨⟨_, span⟩, rest, rfl, rfl, hrest⟩ := List.map_eq_cons_iff.1 htokens
      obtain ⟨inner, _, _, rfl, hinner, hnil⟩ := exists_split hrest
      obtain rfl := List.map_eq_nil_iff.1 hnil
      have hcount : fieldCount (.opening :: ts ++ [.closing]) = fieldCount ts := by simp
      obtain ⟨-, hd⟩ := nestsWithin_cons.1 hd
      obtain ⟨hd, -⟩ := nestsWithin_append.1 hd
      rw [hcount] at hn ⊢
      obtain ⟨after, last, hlast, hreads⟩ :=
        ih inner (⟨span.start, chain⟩ :: groups) .empty n hinner rfl hn hd
      have hroom : groups.length < limits.depth := hd [] List.nil_prefix
      refine ⟨chain, f, ⟨rfl, rfl⟩, .cons (.opening hroom) (hreads.append ?_)⟩
      exact (show after.close last = f from hlast) ▸ Advances.closing.single
  | @ofPrimary ts f _ ih =>
      intro tokens groups chain n htokens hopen hn hd
      obtain ⟨after, last, ⟨rfl, rfl⟩, hreads⟩ := ih tokens groups chain n htokens trivial hn hd
      exact ⟨after, last, ⟨rfl, conjoin_of_none hopen last⟩, hreads⟩
  | @and ts us f g hl _ ihl ihr =>
      intro tokens groups chain n htokens hopen hn hd
      obtain ⟨left, _, right, rfl, hleft, hright⟩ := exists_split htokens
      obtain ⟨hdl, hdr⟩ := hl.nestsWithin_sides rfl hd
      have hcount : fieldCount (ts ++ .and :: us) = fieldCount ts + fieldCount us := by
        simp
      rw [hcount, ← Nat.add_assoc] at hn ⊢
      obtain ⟨middle, first, ⟨halt, hconj⟩, hreadl⟩ :=
        ihl left groups chain n hleft hopen (by omega) hdl
      obtain ⟨after, last, ⟨rfl, rfl⟩, hreadr⟩ :=
        ihr right groups (middle.continueAnd first) (n + fieldCount ts) hright trivial hn hdr
      have hjoin : (middle.continueAnd first).conjoin last = .and f last :=
        congrArg (Filter.and · last) hconj
      exact ⟨middle.continueAnd first, last, ⟨halt, hjoin⟩, hreadl.append (.cons .and hreadr)⟩
  | @ofConjunction ts f _ ih =>
      intro tokens groups chain n htokens hopen hn hd
      obtain rfl : chain = .empty := hopen
      obtain ⟨after, last, ⟨halt, hconj⟩, hreads⟩ := ih tokens groups .empty n htokens rfl hn hd
      exact ⟨after, last, (close_of_none halt last).trans hconj, hreads⟩
  | @or ts us f g hl _ ihl ihr =>
      intro tokens groups chain n htokens hopen hn hd
      obtain ⟨left, _, right, rfl, hleft, hright⟩ := exists_split htokens
      obtain ⟨hdl, hdr⟩ := hl.nestsWithin_sides rfl hd
      have hcount : fieldCount (ts ++ .or :: us) = fieldCount ts + fieldCount us := by
        simp
      rw [hcount, ← Nat.add_assoc] at hn ⊢
      obtain ⟨middle, first, hclose, hreadl⟩ :=
        ihl left groups chain n hleft hopen (by omega) hdl
      obtain ⟨after, last, ⟨halt, hconj⟩, hreadr⟩ :=
        ihr right groups (middle.continueOr first) (n + fieldCount ts) hright rfl hn hdr
      refine ⟨after, last, ?_, hreadl.append (.cons .or hreadr)⟩
      have hleft : after.alternative = some f := halt.trans (congrArg some hclose)
      exact (close_of_some hleft last).trans (congrArg (Filter.or f) hconj)

/-- The parser stops with the filter of a derivation. -/
theorem Accepts.run {ts : List Token} {f : Filter} (h : Accepts limits ts f)
    {tokens : List PlacedToken} (htokens : tokens.map PlacedToken.token = ts) (stop : Nat)
    (rest : List PlacedToken) (hrest : body rest = []) :
    ParserState.initial.run limits stop (tokens ++ rest) = .ok f := by
  have hstop {last : ParserState} (hlast : ∀ span, last.finish span = .ok f) (place : Nat) :
      last.run limits place rest = .ok f := by
    cases rest with
    | nil => exact hlast _
    | cons token rest =>
        have hdone : token.token = .done :=
          Decidable.byContradiction fun hne => by simp [body_cons hne] at hrest
        rw [ParserState.run, if_pos hdone]
        exact hlast _
  rcases h with ⟨rfl, rfl⟩ | ⟨hf, hn, hd⟩
  · obtain rfl := List.map_eq_nil_iff.1 htokens
    exact hstop (fun _ => rfl) stop
  · obtain ⟨after, last, hlast, hreads⟩ :=
      hf.reads tokens [] .empty 0 htokens rfl (by simpa using hn) hd
    obtain ⟨place, hplace⟩ := hreads.run_append stop rest
    have hfinish (span : Span) :
        ParserState.finish ⟨[], after, 0 + fieldCount ts, .connective last⟩ span = .ok f :=
      congrArg Except.ok hlast
    rw [ParserState.initial, hplace]
    exact hstop hfinish place

end Grammar

/-- The parser gives a filter exactly for the rows of tokens that spell it within the limits. -/
theorem Filter.ofTokens_eq_ok_iff (limits : Limits) (tokens : List PlacedToken) (f : Filter) :
    Filter.ofTokens limits tokens = .ok f ↔ Accepts limits (body tokens) f := by
  constructor
  · intro h
    simpa using ParserState.reached_initial.run_accepted h
  · intro h
    obtain ⟨front, rest, rfl, hfront, hrest⟩ := exists_body_append tokens
    exact h.run hfront 0 rest hrest

/-- Whatever tokens the parser is given, it yields the filter that the tokens in front of the first
end token spell, if there are none or if the grammar derives them and they keep both limits. In
every other case it fails. -/
theorem Filter.ofTokens_iff_derives (limits : Limits) (tokens : List PlacedToken) :
    (∀ f, Filter.ofTokens limits tokens = .ok f ↔
      (body tokens = [] ∧ f = .blank) ∨
        (Derives .disjunction (body tokens) f ∧ fieldCount (body tokens) ≤ limits.conditions ∧
          ∀ front, front <+: body tokens → unclosed front ≤ limits.depth)) ∧
      ((∃ f, Accepts limits (body tokens) f) ∨ ∃ e, Filter.ofTokens limits tokens = .error e) := by
  refine ⟨Filter.ofTokens_eq_ok_iff limits tokens, ?_⟩
  cases h : Filter.ofTokens limits tokens with
  | ok f => exact .inl ⟨f, (Filter.ofTokens_eq_ok_iff limits tokens f).1 h⟩
  | error e => exact .inr ⟨e, rfl⟩

end EntryFilter

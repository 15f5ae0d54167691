import EntryFilter.Proofs.Grammar.Step

/-! # What the parser accepts is a filter

The state of the parser tells which tokens have been read: the groups that are open, the finished
left sides in the innermost one, and a condition that may be read in part. Every step keeps this
account, so the tokens behind a finished filter derive it. -/

namespace EntryFilter

open Grammar

/-! ## The account of a chain -/

/-- The finished left side of a connective, if there is one. -/
inductive LeftSide (rank : Rank) (connective : Token) : Option Filter → List Token → Prop where
  | none : LeftSide rank connective none []
  | some {ts f} : Derives rank ts f → LeftSide rank connective (some f) (ts ++ [connective])

/-- A chain holds the left side of an `or` and then the left side of an `and`. -/
def Chain.Spells (chain : Chain) (ts : List Token) : Prop :=
  ∃ as cs, ts = as ++ cs ∧ LeftSide .disjunction .or chain.alternative as ∧
    LeftSide .conjunction .and chain.conjunct cs

namespace Chain

theorem spells_empty : Chain.empty.Spells [] := ⟨[], [], rfl, .none, .none⟩

theorem isEmpty_iff {chain : Chain} : chain.isEmpty = true ↔ chain = .empty := by
  obtain ⟨alternative, conjunct⟩ := chain
  cases alternative <;> cases conjunct <;> simp [isEmpty, empty]

theorem Spells.eq_nil {ts : List Token} (h : Chain.empty.Spells ts) : ts = [] := by
  obtain ⟨as, cs, rfl, ha, hc⟩ := h
  cases ha
  cases hc
  rfl

theorem derives_conjoin {chain : Chain} {cs ts : List Token} {f : Filter}
    (hc : LeftSide .conjunction .and chain.conjunct cs) (hf : Derives .primary ts f) :
    Derives .conjunction (cs ++ ts) (chain.conjoin f) := by
  obtain ⟨alternative, conjunct⟩ := chain
  cases hc with
  | none => exact .ofPrimary hf
  | some hl => simpa [conjoin] using Derives.and hl hf

theorem Spells.derives_close {chain : Chain} {cs ts : List Token} {f : Filter}
    (hc : chain.Spells cs) (hf : Derives .primary ts f) :
    Derives .disjunction (cs ++ ts) (chain.close f) := by
  obtain ⟨as, cs, rfl, ha, hc⟩ := hc
  have hr := derives_conjoin hc hf
  obtain ⟨alternative, conjunct⟩ := chain
  cases ha with
  | none => exact .ofConjunction hr
  | some hl => simpa [close] using Derives.or hl hr

theorem Spells.continueAnd {chain : Chain} {cs ts : List Token} {f : Filter}
    (hc : chain.Spells cs) (hf : Derives .primary ts f) :
    (chain.continueAnd f).Spells (cs ++ ts ++ [.and]) := by
  obtain ⟨as, cs, rfl, ha, hc⟩ := hc
  exact ⟨as, cs ++ ts ++ [.and], by simp, ha, .some (derives_conjoin hc hf)⟩

theorem Spells.continueOr {chain : Chain} {cs ts : List Token} {f : Filter}
    (hc : chain.Spells cs) (hf : Derives .primary ts f) :
    (chain.continueOr f).Spells (cs ++ ts ++ [.or]) :=
  ⟨cs ++ ts ++ [.or], [], by simp, .some (hc.derives_close hf), .none⟩

end Chain

/-! ## The account of a state -/

/-- Each open group has the chain before it and its parenthesis; the innermost one comes first. -/
inductive GroupsSpell : List OpenGroup → List Token → Prop where
  | nil : GroupsSpell [] []
  | cons {group groups ts us} : GroupsSpell groups ts → group.outer.Spells us →
      GroupsSpell (group :: groups) (ts ++ us ++ [.opening])

/-- What has been read of the condition or group at hand. -/
inductive Expected.Spells : Expected → List Token → Prop where
  | condition : Spells .condition []
  | operator {name place} : Spells (.operator name place) [.field name]
  | value {name operator sign} : TakesOperand sign operator →
      Spells (.value name operator) [.field name, sign]
  | check {name} : Spells (.check name) [.field name, .keyword .is]
  | negatedCheck {name} : Spells (.negatedCheck name) [.field name, .keyword .is, .keyword .not]
  | connective {last ts} : Derives .primary ts last → Spells (.connective last) ts

namespace ParserState

/-- The tokens that lead to a state: open groups, then the chain, then what is read in part. -/
def Spells (state : ParserState) (ts : List Token) : Prop :=
  ∃ gs cs es, ts = gs ++ cs ++ es ∧ GroupsSpell state.groups gs ∧ state.chain.Spells cs ∧
    state.expected.Spells es

/-- The tokens lead to the state, the state counts them rightly, and they are within the limits. -/
structure Reached (limits : Limits) (state : ParserState) (ts : List Token) : Prop where
  spells : state.Spells ts
  conditions_eq : state.conditions = fieldCount ts
  conditions_le : state.conditions ≤ limits.conditions
  groups_length : state.groups.length = unclosed ts
  nests : NestsWithin limits.depth 0 ts

variable {limits : Limits}

theorem spells_initial : initial.Spells [] :=
  ⟨[], [], [], rfl, .nil, Chain.spells_empty, .condition⟩

theorem reached_initial : Reached limits initial [] where
  spells := spells_initial
  conditions_eq := rfl
  conditions_le := Nat.zero_le _
  groups_length := rfl
  nests := nestsWithin_nil.2 (Nat.zero_le _)

theorem Advances.spells {state next : ParserState} {token : PlacedToken} {ts : List Token}
    (h : Advances limits state token next) (hs : state.Spells ts) :
    next.Spells (ts ++ [token.token]) := by
  obtain ⟨gs, cs, es, rfl, hg, hc, he⟩ := hs
  cases h with
  | opening =>
      cases he
      exact ⟨gs ++ cs ++ [.opening], [], [], by simp, .cons hg hc, Chain.spells_empty, .condition⟩
  | field => cases he; exact ⟨gs, cs, [.field _], by simp, hg, hc, .operator⟩
  | operator hs => cases he; exact ⟨gs, cs, [.field _, _], by simp, hg, hc, .value hs⟩
  | is => cases he; exact ⟨gs, cs, [.field _, .keyword .is], by simp, hg, hc, .check⟩
  | value hw =>
      cases he with
      | value hs => exact ⟨gs, cs, _, by simp, hg, hc, .connective (.comparison _ hs hw)⟩
  | null => cases he; exact ⟨gs, cs, _, by simp, hg, hc, .connective (.check _ .isNull)⟩
  | empty => cases he; exact ⟨gs, cs, _, by simp, hg, hc, .connective (.check _ .isEmpty)⟩
  | not => cases he; exact ⟨gs, cs, _, by simp, hg, hc, .negatedCheck⟩
  | notNull => cases he; exact ⟨gs, cs, _, by simp, hg, hc, .connective (.check _ .isNotNull)⟩
  | notEmpty => cases he; exact ⟨gs, cs, _, by simp, hg, hc, .connective (.check _ .isNotEmpty)⟩
  | and =>
      cases he with
      | connective hf =>
          exact ⟨gs, cs ++ es ++ [.and], [], by simp, hg, hc.continueAnd hf, .condition⟩
  | or =>
      cases he with
      | connective hf =>
          exact ⟨gs, cs ++ es ++ [.or], [], by simp, hg, hc.continueOr hf, .condition⟩
  | closing =>
      cases he with
      | connective hf =>
          cases hg with
          | @cons _ _ gs us hg hu =>
              refine ⟨gs, us, .opening :: (cs ++ es) ++ [.closing], by simp, hg, hu, ?_⟩
              exact .connective (.group (hc.derives_close hf))

/-- A step keeps the account and both limits. -/
theorem Advances.reached {state next : ParserState} {token : PlacedToken} {ts : List Token}
    (h : Advances limits state token next) (hr : Reached limits state ts) :
    Reached limits next (ts ++ [token.token]) := by
  have hts : unclosed ts ≤ limits.depth := hr.nests ts (List.prefix_refl ts)
  have hopen : next.groups.length = unclosed (ts ++ [token.token]) := by
    rw [h.groups_length, hr.groups_length, unclosed_concat]
  refine ⟨h.spells hr.spells, ?_, h.conditions_le hr.conditions_le, hopen, ?_⟩
  · rw [h.conditions_eq, hr.conditions_eq, fieldCount_append]
  · refine nestsWithin_append.2 ⟨hr.nests, nestsWithin_cons.2 ⟨hts, nestsWithin_nil.2 ?_⟩⟩
    have hnext := h.groups_le (hr.groups_length ▸ hts)
    rwa [h.groups_length, hr.groups_length] at hnext

/-- A state in which the parser may stop has read nothing or a filter. -/
theorem Reached.accepted {state : ParserState} {ts : List Token} {span : Span} {f : Filter}
    (hr : Reached limits state ts) (h : state.finish span = .ok f) :
    Accepts limits ts f := by
  obtain ⟨groups, chain, n, expected⟩ := state
  obtain ⟨gs, cs, es, hts, hg, hc, he⟩ := hr.spells
  cases expected with
  | condition =>
      cases groups with
      | nil =>
          simp only [finish] at h
          split at h
          · rename_i hempty
            cases h
            cases hg
            cases he
            obtain rfl := Chain.isEmpty_iff.1 hempty
            left
            exact ⟨by rw [hts, hc.eq_nil]; rfl, rfl⟩
          · cases h
      | cons group groups => cases h
  | connective last =>
      cases groups with
      | nil =>
          cases h
          cases hg
          cases he with
          | connective hf =>
              right
              refine ⟨?_, hr.conditions_eq ▸ hr.conditions_le, hr.nests⟩
              rw [hts]
              exact hc.derives_close hf
      | cons group groups => cases h
  | _ => cases h

/-- A run that succeeds has read a filter, in front of the end token or of the end of the list. -/
theorem Reached.run_accepted {state : ParserState} {ts : List Token} {tokens : List PlacedToken}
    {stop : Nat} {f : Filter} (hr : Reached limits state ts)
    (h : state.run limits stop tokens = .ok f) : Accepts limits (ts ++ body tokens) f := by
  induction tokens generalizing state ts stop with
  | nil =>
      rw [body_nil, List.append_nil]
      exact hr.accepted h
  | cons token tokens ih =>
      rw [run] at h
      split at h
      · rename_i hdone
        rw [body_cons_done hdone, List.append_nil]
        exact hr.accepted h
      · rename_i hdone
        split at h
        · rename_i next hstep
          have hnext := (step_advances hstep).reached hr
          simpa [body_cons hdone] using ih hnext h
        · cases h

end ParserState

end EntryFilter

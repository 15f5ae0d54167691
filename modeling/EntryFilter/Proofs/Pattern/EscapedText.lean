import EntryFilter.Pattern.Meaning
import EntryFilter.Proofs.Pattern.Piece

/-! # Escaped text is read literally

In the pattern of an escaped text no character has a meaning of its own: what is read is one
literal for each character, in order. -/

namespace EntryFilter.Pattern

/-- A character as a part of a pattern. -/
def literalPart (c : Char) : PatternSyntax := .literal ⟨c, false⟩

theorem escape_cons (c : Char) (cs : List Char) :
    escape (c :: cs) = (if isMeta c then ['\\', c] else [c]) ++ escape cs := rfl

theorem length_le_escape (cs : List Char) : cs.length ≤ (escape cs).length := by
  induction cs with
  | nil => exact Nat.le_refl 0
  | cons c cs ih =>
      rw [escape_cons, List.length_append, List.length_cons]
      split <;> simp <;> omega

theorem escaped_meta {c : Char} (h : isMeta c = true) (rest : List Char) :
    escaped? (c :: rest) = some (.literal ⟨c, false⟩, rest) := by
  simp only [isMeta, List.contains_eq_mem, List.mem_cons, List.not_mem_nil, or_false,
    decide_eq_true_eq] at h
  rcases h with rfl | rfl | rfl | rfl | rfl | rfl | rfl | rfl | rfl | rfl | rfl | rfl | rfl |
    rfl | rfl | rfl | rfl | rfl <;> rfl

namespace ReaderState

theorem step_backslash (s : ReaderState) {c : Char} (h : isMeta c = true) (rest : List Char) :
    s.step? '\\' (c :: rest) = some (s.push (literalPart c), rest) := by
  simp [step?, escaped_meta h, Escaped.toSyntax, literalPart]

theorem step_plain (s : ReaderState) {c : Char} (h : isMeta c = false) (rest : List Char) :
    s.step? c rest = some (s.push (literalPart c), rest) := by
  unfold step?
  split
  any_goals simp [isMeta] at h
  rfl

theorem run_step {s next : ReaderState} {c : Char} {rest after : List Char}
    (hs : s.verbose = false) (h : s.step? c rest = some (next, after)) (fuel : Nat) :
    run? (fuel + 1) s (c :: rest) = run? fuel next after := by
  simp [run?, skipInvisible, hs, h]

/-- The state behind a piece of escaped text, and the steps that it takes. -/
theorem run_escape (cs tail : List Char) (fuel : Nat) {s : ReaderState} (hs : s.verbose = false) :
    run? (cs.length + fuel) s (escape cs ++ tail) =
      run? fuel { s with content := ⟨s.content.branches,
        (cs.map literalPart).reverse ++ s.content.parts⟩ } tail := by
  induction cs generalizing s with
  | nil =>
      rw [List.length_nil, Nat.zero_add]
      rfl
  | cons c cs ih =>
      have hfuel : (c :: cs).length + fuel = cs.length + fuel + 1 := by
        rw [List.length_cons]
        omega
      have hstep : run? (cs.length + fuel + 1) s (escape (c :: cs) ++ tail) =
          run? (cs.length + fuel) (s.push (literalPart c)) (escape cs ++ tail) := by
        rw [escape_cons]
        by_cases hc : isMeta c = true
        · rw [if_pos hc]
          exact run_step hs (step_backslash s hc _) _
        · rw [if_neg hc]
          exact run_step hs (step_plain s (Bool.eq_false_iff.2 hc) _) _
      rw [hfuel, hstep, ih (s := s.push (literalPart c)) hs]
      simp [push, GroupContent.push]

theorem run_nil {s : ReaderState} (hs : s.verbose = false) (fuel : Nat) :
    run? (fuel + 1) s [] = some s := by
  simp [run?, skipInvisible, hs]

end ReaderState

/-! ## Pieces at the start, at the end or anywhere -/

/-- The parts of the pattern of a piece. -/
def pieceParts (atStart atEnd : Bool) (cs : List Char) : List PatternSyntax :=
  (if atStart then [.anchor .caret] else []) ++
    (cs.map literalPart ++ if atEnd then [.anchor .dollar] else [])

/-- Parts one after the other; a single part stands for itself. -/
def join : List PatternSyntax → PatternSyntax
  | [] => .empty
  | [part] => part
  | parts => .concat parts

theorem branch_eq_join (parts : List PatternSyntax) :
    GroupContent.branch ⟨[], parts.reverse⟩ = join parts := by
  match parts with
  | [] => rfl
  | [part] => rfl
  | first :: second :: rest =>
      have hjoin : join (first :: second :: rest) = .concat (first :: second :: rest) := rfl
      unfold GroupContent.branch
      split
      · simp_all
      · rename_i part hpart
        have := congrArg List.length hpart
        simp at this
      · simp_all

theorem depthOfParts_append (ps qs : List PatternSyntax) :
    PatternSyntax.depthOfParts (ps ++ qs) =
      max (PatternSyntax.depthOfParts ps) (PatternSyntax.depthOfParts qs) := by
  induction ps with
  | nil => simp [PatternSyntax.depthOfParts]
  | cons p ps ih => simp [PatternSyntax.depthOfParts, ih, Nat.max_assoc]

theorem depthOfParts_literals (cs : List Char) :
    PatternSyntax.depthOfParts (cs.map literalPart) = 0 := by
  induction cs with
  | nil => rfl
  | cons c cs ih => simp [PatternSyntax.depthOfParts, PatternSyntax.depth, literalPart, ih]

theorem depth_join (parts : List PatternSyntax) :
    (join parts).depth ≤ PatternSyntax.depthOfParts parts + 1 := by
  unfold join
  split <;> simp [PatternSyntax.depth, PatternSyntax.depthOfParts]

theorem depth_pieceParts (atStart atEnd : Bool) (cs : List Char) :
    (join (pieceParts atStart atEnd cs)).depth ≤ maxDepth := by
  have hparts : PatternSyntax.depthOfParts (pieceParts atStart atEnd cs) = 0 := by
    simp only [pieceParts, depthOfParts_append, depthOfParts_literals]
    cases atStart <;> cases atEnd <;> rfl
  have hjoin := depth_join (pieceParts atStart atEnd cs)
  rw [hparts] at hjoin
  exact Nat.le_trans hjoin (by decide)

namespace ReaderState

theorem run_piecePattern (atStart atEnd : Bool) (cs : List Char) :
    run? ((piecePattern atStart atEnd cs).length + 1) ⟨.new, [], false, []⟩
        (piecePattern atStart atEnd cs) =
      some ⟨⟨[], (pieceParts atStart atEnd cs).reverse⟩, [], false, []⟩ := by
  obtain ⟨extra, hextra⟩ := Nat.exists_eq_add_of_le (length_le_escape cs)
  have hlead (fuel : Nat) : run? ((if atStart then 1 else 0) + fuel) ⟨.new, [], false, []⟩
      (piecePattern atStart atEnd cs) = run? fuel
        ⟨⟨[], if atStart then [.anchor .caret] else []⟩, [], false, []⟩
        (escape cs ++ if atEnd then ['$'] else []) := by
    cases atStart with
    | false =>
        rw [if_neg Bool.false_ne_true, Nat.zero_add]
        rfl
    | true =>
        rw [if_pos rfl, Nat.add_comm]
        exact run_step rfl rfl fuel
  have htail (s : ReaderState) (hs : s.verbose = false) :
      run? ((if atEnd then 1 else 0) + (extra + 1)) s (if atEnd then ['$'] else []) =
        some { s with content := ⟨s.content.branches,
          (if atEnd then [.anchor .dollar] else []) ++ s.content.parts⟩ } := by
    cases atEnd with
    | false => simpa using run_nil hs extra
    | true =>
        rw [if_pos rfl, if_pos rfl, Nat.add_comm]
        exact (run_step hs rfl (extra + 1)).trans (run_nil (s := s.push (.anchor .dollar)) hs extra)
  have hfuel : (piecePattern atStart atEnd cs).length + 1 =
      (if atStart then 1 else 0) + (cs.length + ((if atEnd then 1 else 0) + (extra + 1))) := by
    cases atStart <;> cases atEnd <;> simp [piecePattern, hextra] <;> omega
  rw [hfuel, hlead, run_escape _ _ _ rfl, htail _ rfl]
  cases atStart <;> cases atEnd <;> simp [pieceParts]

end ReaderState

theorem readSyntax_piecePattern (atStart atEnd : Bool) (cs : List Char) :
    readSyntax? (piecePattern atStart atEnd cs) = some (join (pieceParts atStart atEnd cs)) := by
  have hclose : GroupContent.close ⟨[], (pieceParts atStart atEnd cs).reverse⟩ =
      join (pieceParts atStart atEnd cs) := branch_eq_join _
  simp [readSyntax?, ReaderState.run_piecePattern, hclose, depth_pieceParts]

end EntryFilter.Pattern

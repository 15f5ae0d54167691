import EntryFilter.Proofs.Pattern.CaseAgreement
import EntryFilter.Proofs.Pattern.EscapedText

/-! # An escaped text matches itself up to case

A pattern moves a set of places through the text. For the pattern of an escaped text these are the
places behind the pieces that agree with the text up to case. So the text operators can rely on the
engine of the program. -/

namespace EntryFilter.Pattern

open EntryFilter.Text

/-! ## Sets of places -/

/-- The place at an index belongs to the set. -/
def Places.Has (places : Places) (i : Nat) : Prop := places[i]? = some true

theorem any_iff_has {places : Places} : places.any id = true ↔ ∃ i, places.Has i := by
  simp only [List.any_eq_true, id_eq, exists_eq_right, Places.Has]
  exact List.mem_iff_getElem?

theorem has_all {text : List Char} {i : Nat} :
    Places.Has (true :: text.map fun _ => true) i ↔ i ≤ text.length := by
  cases i with
  | zero => simp [Places.Has]
  | succ i =>
      rw [Places.Has, List.getElem?_cons_succ, List.getElem?_map, Option.map_eq_some_iff]
      constructor
      · rintro ⟨c, hc, -⟩
        exact (List.getElem?_eq_some_iff.1 hc).1
      · intro hi
        exact ⟨text[i], List.getElem?_eq_getElem hi, rfl⟩

theorem has_charPlaces {set : CharSet} {text : List Char} {places : Places} {j : Nat} :
    (charPlaces set text places).Has j ↔
      ∃ i c, j = i + 1 ∧ places.Has i ∧ text[i]? = some c ∧ set c = true := by
  cases j with
  | zero => simp [charPlaces, Places.Has]
  | succ j =>
      simp only [charPlaces, Places.Has, List.getElem?_cons_succ, List.getElem?_zipWith,
        Nat.add_right_cancel_iff]
      constructor
      · intro h
        split at h
        · rename_i here c hhere hc
          obtain ⟨rfl, hset⟩ : here = true ∧ set c = true := by simpa using h
          exact ⟨j, c, rfl, hhere, hc, hset⟩
        · cases h
      · rintro ⟨i, c, rfl, hhere, hc, hset⟩
        simp [hhere, hc, hset]

theorem anchorPlaces_textStart (before : Char) (text : List Char) (i : Nat) :
    (anchorPlaces .textStart (some before) text)[i]? ≠ some true := by
  induction text generalizing before i with
  | nil => cases i <;> simp [anchorPlaces, Anchor.holds]
  | cons c text ih =>
      cases i with
      | zero => simp [anchorPlaces, Anchor.holds]
      | succ i => simpa [anchorPlaces] using ih c i

theorem has_textStart {text : List Char} {i : Nat} :
    Places.Has (anchorPlaces .textStart none text) i ↔ i = 0 := by
  cases text with
  | nil => cases i <;> simp [anchorPlaces, Anchor.holds, Places.Has]
  | cons c text =>
      cases i with
      | zero => simp [anchorPlaces, Anchor.holds, Places.Has]
      | succ i => simpa [anchorPlaces, Places.Has] using anchorPlaces_textStart c text i

theorem has_textEnd {before : Option Char} {text : List Char} {i : Nat} :
    Places.Has (anchorPlaces .textEnd before text) i ↔ i = text.length := by
  induction text generalizing before i with
  | nil => cases i <;> simp [anchorPlaces, Anchor.holds, Places.Has]
  | cons c text ih =>
      cases i with
      | zero => simp [anchorPlaces, Anchor.holds, Places.Has]
      | succ i => simpa [anchorPlaces, Places.Has] using ih

theorem has_anchor {condition : Anchor} {text : List Char} {places : Places} {i : Nat} :
    (advance text (.anchor condition) places).Has i ↔
      places.Has i ∧ Places.Has (anchorPlaces condition none text) i := by
  simp only [advance, Places.Has, List.getElem?_zipWith]
  constructor
  · intro h
    split at h
    · rename_i a b ha hb
      obtain ⟨rfl, rfl⟩ : a = true ∧ b = true := by simpa using h
      exact ⟨ha, hb⟩
    · cases h
  · rintro ⟨ha, hb⟩
    simp [ha, hb]

/-! ## Patterns one after the other -/

/-- Moves places through patterns one after the other. -/
def advanceAll (text : List Char) (patterns : List Pattern) (places : Places) : Places :=
  patterns.foldl (fun places pattern => advance text pattern places) places

theorem advance_chain (text : List Char) (patterns : List Pattern) (places : Places) :
    advance text (patterns.foldr .seq .empty) places = advanceAll text patterns places := by
  induction patterns generalizing places with
  | nil => rfl
  | cons pattern patterns ih => exact ih (advance text pattern places)

theorem meaningOfParts_map {flags : Flags} {parts : List PatternSyntax} {patterns : List Pattern}
    (h : parts.map (meaning? flags) = patterns.map fun p => some (p, flags)) :
    meaningOfParts? flags parts = some (patterns.foldr .seq .empty, flags) := by
  induction parts generalizing patterns with
  | nil =>
      obtain rfl := List.map_eq_nil_iff.1 h.symm
      rfl
  | cons part parts ih =>
      cases patterns with
      | nil => cases h
      | cons pattern patterns =>
          obtain ⟨hpart, hparts⟩ := List.cons.inj h
          simp [meaningOfParts?, hpart, ih hparts]

/-- Joined parts mean what they mean one after the other. -/
theorem meaning_join {flags : Flags} {parts : List PatternSyntax} {patterns : List Pattern}
    (h : parts.map (meaning? flags) = patterns.map fun p => some (p, flags)) :
    ∃ pattern, meaning? flags (join parts) = some (pattern, flags) ∧
      ∀ text places, advance text pattern places = advanceAll text patterns places := by
  unfold join
  split
  · obtain rfl := List.map_eq_nil_iff.1 h.symm
    exact ⟨.empty, rfl, fun _ _ => rfl⟩
  · cases patterns with
    | nil => cases h
    | cons pattern patterns =>
        obtain ⟨hpart, hparts⟩ := List.cons.inj h
        obtain rfl := List.map_eq_nil_iff.1 hparts.symm
        exact ⟨pattern, hpart, fun _ _ => rfl⟩
  · exact ⟨_, meaningOfParts_map h, fun text => advance_chain text patterns⟩

/-! ## The pieces of a text -/

/-- The patterns that the parts of an escaped text mean when case does not count. -/
def piecePatterns (atStart atEnd : Bool) (cs : List Char) : List Pattern :=
  (if atStart then [.anchor .textStart] else []) ++
    ((cs.map fun c => .char (CharSet.single c).anyCase) ++
      if atEnd then [.anchor .textEnd] else [])

theorem map_meaning_pieceParts (atStart atEnd : Bool) (cs : List Char) :
    (pieceParts atStart atEnd cs).map (meaning? { ignoreCase := true }) =
      (piecePatterns atStart atEnd cs).map fun p => some (p, { ignoreCase := true }) := by
  have hliterals : (cs.map literalPart).map (meaning? { ignoreCase := true }) =
      (cs.map fun c => Pattern.char (CharSet.single c).anyCase).map
        fun p => some (p, { ignoreCase := true }) := by
    rw [List.map_map, List.map_map]
    exact List.map_congr_left fun c _ => rfl
  simp only [pieceParts, piecePatterns, List.map_append, hliterals]
  cases atStart <;> cases atEnd <;> rfl

theorem anyCase_single {c d : Char} :
    (CharSet.single c).anyCase d = true ↔ foldCase d = foldCase c := by
  simp only [CharSet.anyCase, CharSet.single, List.any_eq_true, beq_iff_eq, exists_eq_right]
  rw [mem_caseVariants]
  exact eq_comm

theorem sameUpToCase_take_cons {text cs : List Char} {c : Char} {i : Nat} :
    SameUpToCase ((text.drop i).take (cs.length + 1)) (c :: cs) ↔
      ∃ d, text[i]? = some d ∧ foldCase d = foldCase c ∧
        SameUpToCase ((text.drop (i + 1)).take cs.length) cs := by
  cases h : text[i]? with
  | none =>
      have hdrop : text.drop i = [] := List.drop_eq_nil_of_le (List.getElem?_eq_none_iff.1 h)
      simp [SameUpToCase, hdrop]
  | some d =>
      obtain ⟨hi, rfl⟩ := List.getElem?_eq_some_iff.1 h
      rw [List.drop_eq_getElem_cons hi]
      simp only [SameUpToCase, List.take_succ_cons, List.map_cons, List.cons.injEq,
        Option.some.injEq, exists_eq_left']

/-- Characters lead from a place to the place behind the piece that agrees with them. -/
theorem has_advanceAll_chars {text cs : List Char} {places : Places} {j : Nat} :
    (advanceAll text (cs.map fun c => .char (CharSet.single c).anyCase) places).Has j ↔
      ∃ i, places.Has i ∧ j = i + cs.length ∧ SameUpToCase ((text.drop i).take cs.length) cs := by
  induction cs generalizing places with
  | nil => simp [advanceAll, SameUpToCase]
  | cons c cs ih =>
      have hstep :
          advanceAll text ((c :: cs).map fun c => .char (CharSet.single c).anyCase) places =
            advanceAll text (cs.map fun c => .char (CharSet.single c).anyCase)
              (charPlaces (CharSet.single c).anyCase text places) := rfl
      rw [hstep, ih]
      simp only [has_charPlaces, anyCase_single, List.length_cons, sameUpToCase_take_cons]
      constructor
      · rintro ⟨_, ⟨i, d, rfl, hi, hd, hfold⟩, rfl, hsame⟩
        exact ⟨i, hi, by omega, d, hd, hfold, hsame⟩
      · rintro ⟨i, hi, rfl, d, hd, hfold, hsame⟩
        exact ⟨i + 1, ⟨i, d, rfl, hi, hd, hfold⟩, by omega, hsame⟩

theorem advanceAll_append (text : List Char) (ps qs : List Pattern) (places : Places) :
    advanceAll text (ps ++ qs) places = advanceAll text qs (advanceAll text ps places) :=
  List.foldl_append

theorem has_advanceAll_anchor {text : List Char} {present : Bool} {condition : Anchor} {i : Nat}
    {places : Places} :
    (advanceAll text (if present then [.anchor condition] else []) places).Has i ↔
      places.Has i ∧ (present = true → Places.Has (anchorPlaces condition none text) i) := by
  cases present with
  | false => simp [advanceAll]
  | true =>
      simp only [if_true, true_implies]
      exact has_anchor

/-- The pattern of an escaped text matches where the text has a piece that agrees with it. -/
theorem isMatch_piecePatterns {pattern : Pattern} {atStart atEnd : Bool} {cs text : List Char}
    (h : ∀ text places,
      advance text pattern places = advanceAll text (piecePatterns atStart atEnd cs) places) :
    pattern.isMatch text = true ↔
      ∃ piece, IsPiece atStart atEnd piece text ∧ SameUpToCase piece cs := by
  rw [isMatch, any_iff_has, h]
  simp only [piecePatterns, advanceAll_append, has_advanceAll_anchor, has_advanceAll_chars,
    has_all, has_textStart, has_textEnd]
  constructor
  · rintro ⟨_, ⟨i, ⟨hi, hstart⟩, rfl, hsame⟩, hend⟩
    have hlength : ((text.drop i).take cs.length).length = cs.length := by
      simpa using congrArg List.length hsame
    refine ⟨(text.drop i).take cs.length, ⟨text.take i, (text.drop i).drop cs.length, ?_,
      fun h => by simp [hstart h], fun h => ?_⟩, hsame⟩
    · rw [List.take_append_drop, List.take_append_drop]
    · rw [List.drop_drop, hend h, List.drop_length]
  · rintro ⟨piece, ⟨before, after, rfl, hstart, hend⟩, hsame⟩
    have hlength : piece.length = cs.length := by simpa using congrArg List.length hsame
    refine ⟨before.length + cs.length, ⟨before.length, ⟨by simp, fun h => by simp [hstart h]⟩, rfl,
      ?_⟩, fun h => by simp [hend h, hlength]⟩
    rw [List.drop_left, ← hlength, List.take_left]
    exact hsame

/-! ## The size of the machine -/

/-- The size of the machine for a row of characters when case does not count. -/
def textSize : List Char → Nat
  | [] => 0
  | c :: cs => PatternSyntax.literalSize true c + textSize cs

/-- The size of the machine for an escaped text. -/
def pieceSize (atStart atEnd : Bool) (cs : List Char) : Nat :=
  frameSize + ((if atStart then stateSize else 0) + textSize cs + if atEnd then stateSize else 0)

theorem machineSize_join (ignoreCase : Bool) (parts : List PatternSyntax) :
    (join parts).machineSize ignoreCase = PatternSyntax.machineSizeOfParts ignoreCase parts := by
  unfold join
  split <;> simp [PatternSyntax.machineSize, PatternSyntax.machineSizeOfParts]

theorem machineSizeOfParts_append (ignoreCase : Bool) (ps qs : List PatternSyntax) :
    PatternSyntax.machineSizeOfParts ignoreCase (ps ++ qs) =
      PatternSyntax.machineSizeOfParts ignoreCase ps +
        PatternSyntax.machineSizeOfParts ignoreCase qs := by
  induction ps with
  | nil => simp [PatternSyntax.machineSizeOfParts]
  | cons p ps ih => simp [PatternSyntax.machineSizeOfParts, ih, Nat.add_assoc]

theorem machineSizeOfParts_literals (cs : List Char) :
    PatternSyntax.machineSizeOfParts true (cs.map literalPart) = textSize cs := by
  induction cs with
  | nil => rfl
  | cons c cs ih =>
      simp [PatternSyntax.machineSizeOfParts, PatternSyntax.machineSize, literalPart, textSize, ih]

theorem machineSize_pieceParts (atStart atEnd : Bool) (cs : List Char) :
    frameSize + (join (pieceParts atStart atEnd cs)).machineSize true =
      pieceSize atStart atEnd cs := by
  rw [machineSize_join, pieceParts, machineSizeOfParts_append, machineSizeOfParts_append,
    machineSizeOfParts_literals, pieceSize]
  cases atStart <;> cases atEnd <;>
    simp [PatternSyntax.machineSizeOfParts, PatternSyntax.machineSize, Nat.add_assoc]

theorem textSize_replicate (n : Nat) (c : Char) :
    textSize (List.replicate n c) = n * PatternSyntax.literalSize true c := by
  induction n with
  | zero => simp [textSize]
  | succ n ih => rw [List.replicate_succ, textSize, ih, Nat.succ_mul, Nat.add_comm]

/-! ## Whole patterns -/

/-- The pattern of an escaped text is read, unless the machine for it is too large. -/
theorem read_piecePattern (atStart atEnd : Bool) (cs : List Char) :
    ∃ pattern : Pattern, (∀ text, pattern.isMatch text = true ↔
        ∃ piece, IsPiece atStart atEnd piece text ∧ SameUpToCase piece cs) ∧
      read true (piecePattern atStart atEnd cs) =
        if pieceSize atStart atEnd cs ≤ maxMachineSize then .ok pattern
        else .error (.tooLarge maxMachineSize) := by
  obtain ⟨pattern, hmeaning, hadvance⟩ := meaning_join (map_meaning_pieceParts atStart atEnd cs)
  refine ⟨pattern, fun text => isMatch_piecePatterns hadvance, ?_⟩
  simp [read, readSyntax_piecePattern, machineSize_pieceParts, hmeaning]

theorem engine_compile (ignoreCase : Bool) (cs : List Char) :
    engine.compile ignoreCase (String.ofList cs) =
      (read ignoreCase cs).map fun p text => p.isMatch text.toList := by
  change (read ignoreCase (String.ofList cs).toList).map _ = _
  rw [String.toList_ofList]

/-- The engine refuses an escaped text for nothing but its size. -/
theorem engine_compile_eq_error_iff {atStart atEnd : Bool} {cs : List Char} {e : PatternError} :
    engine.compile true (String.ofList (piecePattern atStart atEnd cs)) = .error e ↔
      e = .tooLarge maxMachineSize ∧ maxMachineSize < pieceSize atStart atEnd cs := by
  obtain ⟨pattern, -, hread⟩ := read_piecePattern atStart atEnd cs
  rw [engine_compile, hread]
  by_cases hsize : pieceSize atStart atEnd cs ≤ maxMachineSize
  · simp [hsize, Except.map]
  · simp [hsize, Except.map, Nat.lt_of_not_le hsize, eq_comm]

/-- The text operators can rely on this engine. -/
theorem engine_findsPieces : engine.FindsPieces where
  finds {atStart atEnd cs isMatch} h text := by
    obtain ⟨pattern, hmatch, hread⟩ := read_piecePattern atStart atEnd cs
    rw [engine_compile, hread] at h
    split at h
    · cases h
      exact hmatch text.toList
    · cases h
  refuses h := ⟨maxMachineSize, (engine_compile_eq_error_iff.1 h).1⟩

end EntryFilter.Pattern

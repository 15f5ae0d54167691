import EntryFilter.Json.Reader
import EntryFilter.Proofs.Json.WrittenNumber

/-! # Rows of tokens that spell trees

A text begins with a row of tokens when reading it yields these before anything else. A row spells
a tree if the reader builds the tree from it wherever it waits for a value. Both properties are
composed piece by piece, whatever stands behind the piece. -/

namespace EntryFilter.Json

/-! ## Texts that begin with tokens -/

/-- The text begins with the tokens, and the rest stands behind them. -/
def Begins (cs : List Char) (row : List Token) (rest : List Char) : Prop :=
  tokens? cs = (tokens? rest).map (row ++ ·)

theorem Begins.append {cs middle rest : List Char} {row row' : List Token}
    (h : Begins cs row middle) (h' : Begins middle row' rest) : Begins cs (row ++ row') rest := by
  rw [Begins, h, h', Option.map_map]
  congr 1
  funext more
  exact (List.append_assoc row row' more).symm

theorem begins_nil (cs : List Char) : Begins cs [] cs := by
  simp [Begins]

theorem Begins.cons_space {c : Char} {cs rest : List Char} {row : List Token}
    (hc : isSpace c = true) (h : Begins cs row rest) : Begins (c :: cs) row rest := by
  rw [Begins, tokens?, if_pos hc]
  exact h

/-- No token begins with a blank. -/
theorem isSpace_of_token? {c : Char} {cs rest : List Char} {t : Token}
    (h : token? (c :: cs) = some (t, rest)) : isSpace c = false := by
  refine Bool.eq_false_iff.2 fun hc => ?_
  simp only [isSpace, Bool.or_eq_true, decide_eq_true_eq] at hc
  rcases hc with ((rfl | rfl) | rfl) | rfl <;>
    simp [token?, numeral?, wholeDigits?, digits?, Text.isAsciiDigit] at h

theorem begins_token {cs rest : List Char} {t : Token} (h : token? cs = some (t, rest)) :
    Begins cs [t] rest := by
  cases cs with
  | nil => cases h
  | cons c cs =>
      have hc : ¬ isSpace c = true := Bool.eq_false_iff.1 (isSpace_of_token? h)
      rw [Begins, tokens?, if_neg hc]
      split
      · rename_i hnone
        rw [h] at hnone
        cases hnone
      · rename_i t' after hsome
        rw [h] at hsome
        obtain ⟨rfl, rfl⟩ := Prod.mk.inj (Option.some.inj hsome)
        rfl

/-- A new line and its indentation are blank. -/
theorem begins_newLine (level : Nat) (rest : List Char) :
    Begins (newLine level ++ rest) [] rest := by
  have hindent (n : Nat) : Begins (List.replicate n ' ' ++ rest) [] rest := by
    induction n with
    | zero => exact begins_nil rest
    | succ n ih => exact ih.cons_space (by decide)
  exact (hindent (2 * level)).cons_space (by decide)

/-! ## Strings -/

theorem hexUnit?_hexPair {n : Nat} (h : n < 0x20) :
    ∃ x y, hexPair n = [x, y] ∧ hexUnit? '0' '0' x y = some n := by
  have hall : ∀ n < 0x20, hexUnit? '0' '0' (Nat.digitChar (n / 16)) (Nat.digitChar (n % 16)) =
      some n := by
    decide
  exact ⟨_, _, rfl, hall n h⟩

/-- A character by its number is read as such, whether or not another one by its number follows. -/
theorem stringBody?_unicode {a b c d : Char} {unit : Nat} (h : hexUnit? a b c d = some unit)
    (hunit : unit < 0x20) (rest : List Char) :
    stringBody? ('\\' :: 'u' :: a :: b :: c :: d :: rest) =
      (stringBody? rest).map fun (body, after) => (Char.ofNat unit :: body, after) := by
  have hlow : isLowSurrogate unit = false := by
    simp [isLowSurrogate]
    omega
  have hhigh : isHighSurrogate unit = false := by
    simp [isHighSurrogate]
    omega
  by_cases hpair : ∃ e f g h tail, rest = '\\' :: 'u' :: e :: f :: g :: h :: tail
  · obtain ⟨_, _, _, _, _, rfl⟩ := hpair
    rw [stringBody?]
    simp [h, hlow, hhigh]
  · rw [stringBody?]
    · simp [h, hlow, hhigh]
    · intro e f g h tail heq
      exact hpair ⟨e, f, g, h, tail, heq⟩

/-- A written character is read as itself. -/
theorem stringBody?_stringChar (c : Char) (rest : List Char) :
    stringBody? (stringChar c ++ rest) =
      (stringBody? rest).map fun (body, after) => (c :: body, after) := by
  unfold stringChar
  split
  case h_8 hquote hslash _ _ _ _ _ =>
    split
    · rename_i hcontrol
      obtain ⟨x, y, hpair, hunit⟩ := hexUnit?_hexPair hcontrol
      rw [hpair]
      exact Char.ofNat_toNat c ▸ stringBody?_unicode hunit hcontrol rest
    · rename_i hcontrol
      have hplain : ¬ (c = '\\' ∨ c.toNat < 0x20) := not_or_intro hslash hcontrol
      rw [List.singleton_append, stringBody?, if_neg hplain]
      · exact hquote
      · exact fun _ _ _ _ _ _ _ _ _ hc _ => hslash hc
      · exact fun _ _ _ _ _ hc _ => hslash hc
      · exact fun _ _ hc _ => hslash hc
  all_goals simp [stringBody?, shortEscape?]

theorem stringBody?_written (cs rest : List Char) :
    stringBody? (cs.flatMap stringChar ++ '"' :: rest) = some (cs, rest) := by
  induction cs with
  | nil => simp [stringBody?]
  | cons c cs ih => simp [stringBody?_stringChar, ih]

theorem token?_stringText (text : String) (rest : List Char) :
    token? (stringText text ++ rest) = some (.string text, rest) := by
  simp [stringText, token?, stringBody?_written]

theorem begins_stringText (text : String) (rest : List Char) :
    Begins (stringText text ++ rest) [.string text] rest :=
  begins_token (token?_stringText text rest)

/-! ## Trees that rows of tokens spell -/

section Spelling

variable {row row' : List Token} {json item value : Json} {items more : List Json}
  {members others : List (String × Json)}

/-- A reader that waits for a value has read the tree behind the tokens. -/
def Spells (row : List Token) (json : Json) : Prop :=
  ∀ frames rest, (ReaderState.value frames).run (row ++ rest) =
    (ReaderState.finished json frames).run rest

/-- A reader that waits for an item has read all of the items behind the tokens. -/
def SpellsItems (row : List Token) (items : List Json) : Prop :=
  ∀ done frames rest,
    (ReaderState.value (.items done :: frames)).run (row ++ .endArray :: rest) =
      (ReaderState.finished (.array (done.reverse ++ items)) frames).run rest

/-- A reader that waits for a name has read all of the members behind the tokens. -/
def SpellsMembers (row : List Token) (members : List (String × Json)) : Prop :=
  ∀ done frames rest, (ReaderState.name done frames).run (row ++ .endObject :: rest) =
    (ReaderState.finished (.object (done.reverse ++ members)) frames).run rest

theorem spells_token {t : Token}
    (h : ∀ frames, ReaderState.onValue frames t = some (.finished json frames)) :
    Spells [t] json := by
  intro frames rest
  simp [ReaderState.run, ReaderState.step, h]

theorem Spells.single (h : Spells row item) : SpellsItems row [item] := by
  intro done frames rest
  rw [h]
  simp [ReaderState.run, ReaderState.step]

theorem Spells.cons (h : Spells row item) (h' : SpellsItems row' items) :
    SpellsItems (row ++ .comma :: row') (item :: items) := by
  intro done frames rest
  rw [List.append_assoc, h]
  simp [ReaderState.run, ReaderState.step, h' (item :: done) frames rest]

theorem Spells.member (h : Spells row value) (name : String) :
    SpellsMembers (.string name :: .colon :: row) [(name, value)] := by
  intro done frames rest
  simp [ReaderState.run, ReaderState.step, h (.members done name :: frames) (.endObject :: rest)]

theorem Spells.cons_member (h : Spells row value) (name : String)
    (h' : SpellsMembers row' members) :
    SpellsMembers (.string name :: .colon :: row ++ .comma :: row') ((name, value) :: members) := by
  intro done frames rest
  simp [ReaderState.run, ReaderState.step, h (.members done name :: frames)
    (.comma :: (row' ++ .endObject :: rest)), h' ((name, value) :: done) frames rest]

/-- The reader of an array takes its first item like any value: no item begins with the end of the
array. -/
theorem SpellsItems.array (h : SpellsItems row items) :
    Spells (.beginArray :: row ++ [.endArray]) (.array items) := by
  intro frames rest
  have hfirst : (ReaderState.firstItem frames).run (row ++ .endArray :: rest) =
      (ReaderState.value (.items [] :: frames)).run (row ++ .endArray :: rest) := by
    have hread := h [] [] []
    cases row with
    | nil => simp [ReaderState.run, ReaderState.step, ReaderState.onValue] at hread
    | cons t row =>
        cases t with
        | endArray => simp [ReaderState.run, ReaderState.step, ReaderState.onValue] at hread
        | _ => rfl
  simpa [ReaderState.run, ReaderState.step, ReaderState.onValue, hfirst] using h [] frames rest

theorem SpellsMembers.object (h : SpellsMembers row members) :
    Spells (.beginObject :: row ++ [.endObject]) (.object members) := by
  intro frames rest
  have hfirst : (ReaderState.firstName frames).run (row ++ .endObject :: rest) =
      (ReaderState.name [] frames).run (row ++ .endObject :: rest) := by
    have hread := h [] [] []
    cases row with
    | nil => simp [ReaderState.run, ReaderState.step] at hread
    | cons t row =>
        cases t with
        | endObject => simp [ReaderState.run, ReaderState.step] at hread
        | _ => rfl
  simpa [ReaderState.run, ReaderState.step, ReaderState.onValue, hfirst] using h [] frames rest

theorem spells_emptyArray : Spells [.beginArray, .endArray] (.array []) := fun _ _ => rfl

theorem spells_emptyObject : Spells [.beginObject, .endObject] (.object []) := fun _ _ => rfl

theorem Spells.ofTokens? (h : Spells row json) : Json.ofTokens? row = some json := by
  have hread := h [] []
  rw [List.append_nil] at hread
  rw [Json.ofTokens?, hread]
  rfl

end Spelling

end EntryFilter.Json

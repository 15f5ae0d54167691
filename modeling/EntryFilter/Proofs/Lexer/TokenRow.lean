import EntryFilter.Proofs.Lexer.Tiling

/-! # Rows of tokens

The tokens of a source lie in it one behind the other, and the end token lies behind all of them.
If a source has no tokens, the reason is the first error that the steps of the lexer come to. -/

namespace EntryFilter

open EntryFilter.Text

/-- The steps of the lexer in front of the error all give tokens. -/
def FirstLexicalError (source : String) (e : SyntaxError) : Prop :=
  ∃ front : List PlacedToken,
    (Cursor.ofSource source).steps (front.length + 1) = front.map .ok ++ [.error e]

/-- The offset falls between two characters or at an end of the source. -/
def IsBoundary (source : List Char) (offset : Nat) : Prop :=
  ∃ before after, source = before ++ after ∧ offset = byteLength before

/-- The span covers whole characters of the source, or none. -/
structure Span.LiesIn (span : Span) (source : List Char) : Prop where
  start_le : span.start ≤ span.stop
  stop_le : span.stop ≤ byteLength source
  start_boundary : IsBoundary source span.start
  stop_boundary : IsBoundary source span.stop

theorem IsTile.liesIn {before text after : List Char} {x : Finding}
    (h : IsTile before text after x) : x.span.LiesIn (before ++ (text ++ after)) := by
  rw [h.span_eq]
  refine ⟨Nat.le_add_right _ _, ?_, ⟨before, text ++ after, rfl, rfl⟩,
    ⟨before ++ text, after, by simp, by simp⟩⟩
  simp only [byteLength_append]
  omega

theorem liesIn_point_end (source : List Char) :
    (Span.point (byteLength source)).LiesIn source where
  start_le := Nat.le_refl _
  stop_le := Nat.le_refl _
  start_boundary := ⟨source, [], by simp, rfl⟩
  stop_boundary := ⟨source, [], by simp, rfl⟩

/-! ## Findings without an error -/

theorem mapM_id_eq_ok {found : List Finding} {row : List PlacedToken}
    (h : found.mapM id = .ok row) : found = row.map .ok := by
  induction found generalizing row with
  | nil =>
      obtain rfl : [] = row := Except.ok.inj h
      rfl
  | cons x found ih =>
      rw [List.mapM_cons] at h
      cases x with
      | error e => cases h
      | ok token =>
          cases hfound : found.mapM id with
          | error e => simp [hfound, bind, Except.bind] at h
          | ok rest =>
              rw [hfound] at h
              obtain rfl : token :: rest = row := Except.ok.inj h
              rw [List.map_cons, ← ih hfound]

theorem mapM_id_eq_error {found : List Finding} {e : SyntaxError}
    (h : found.mapM id = .error e) :
    ∃ (front : List PlacedToken) (rest : List Finding),
      found = front.map .ok ++ .error e :: rest := by
  induction found with
  | nil => cases h
  | cons x found ih =>
      rw [List.mapM_cons] at h
      cases x with
      | error e' =>
          obtain rfl : e' = e := Except.error.inj h
          exact ⟨[], found, rfl⟩
      | ok token =>
          cases hfound : found.mapM id with
          | ok rest => simp [hfound, bind, Except.bind, pure, Except.pure] at h
          | error e' =>
              rw [hfound] at h
              obtain rfl : e' = e := Except.error.inj h
              obtain ⟨front, rest, rfl⟩ := ih hfound
              exact ⟨token :: front, rest, rfl⟩

/-! ## Tokens and the first error -/

variable {source : String} {tokens : List PlacedToken} {e : SyntaxError}

/-- The tokens are the pieces that the lexer finds, and then the end. -/
theorem tiles_of_tokenize (h : tokenize source = .ok tokens) :
    ∃ row : List PlacedToken, Tiles source.toList 0 (row.map .ok) ∧
      tokens = row ++ [⟨.done, .point (byteLength source.toList)⟩] := by
  obtain ⟨found, hfound⟩ := Cursor.exists_finds (Cursor.behind_ofSource source)
  have htokens := hfound.tokens_eq.symm.trans h
  cases hrow : found.mapM id with
  | error e =>
      rw [hrow] at htokens
      cases htokens
  | ok row =>
      rw [hrow] at htokens
      have htiles := hfound.tiles
      rw [mapM_id_eq_ok hrow] at htiles
      exact ⟨row, htiles, (Except.ok.inj htokens).symm⟩

theorem exists_done_of_tokenize (h : tokenize source = .ok tokens) :
    ∃ token ∈ tokens, token.token = .done := by
  obtain ⟨row, -, rfl⟩ := tiles_of_tokenize h
  exact ⟨_, List.mem_append_right _ (List.mem_singleton_self _), rfl⟩

theorem liesIn_of_tokenize (h : tokenize source = .ok tokens) {token : PlacedToken}
    (htoken : token ∈ tokens) : token.span.LiesIn source.toList := by
  obtain ⟨row, htiles, rfl⟩ := tiles_of_tokenize h
  rcases List.mem_append.1 htoken with hrow | hend
  · obtain ⟨before, text, after, hsource, htile⟩ :=
      htiles.tile (.ok token) (List.mem_map_of_mem hrow)
    rw [hsource]
    exact htile.liesIn
  · obtain rfl := List.mem_singleton.1 hend
    exact liesIn_point_end source.toList

/-- No token begins before the end of another one in front of it. -/
theorem apart_of_tokenize (h : tokenize source = .ok tokens) :
    tokens.Pairwise fun x y => x.span.stop ≤ y.span.start := by
  have hin {token : PlacedToken} (htoken : token ∈ tokens) := liesIn_of_tokenize h htoken
  obtain ⟨row, htiles, rfl⟩ := tiles_of_tokenize h
  have hrow := List.pairwise_map.1 htiles.apart
  refine List.pairwise_append.2 ⟨hrow, List.pairwise_singleton _ _, ?_⟩
  intro x hx y hy
  obtain rfl := List.mem_singleton.1 hy
  exact (hin (List.mem_append_left _ hx)).stop_le

/-- In a source without tokens the lexer finds tokens up to the error, and perhaps more behind. -/
theorem exists_finds_error (h : tokenize source = .error e) :
    ∃ (front : List PlacedToken) (rest : List Finding),
      (Cursor.ofSource source).Finds source.toList (front.map .ok ++ .error e :: rest) := by
  obtain ⟨found, hfound⟩ := Cursor.exists_finds (Cursor.behind_ofSource source)
  have htokens := hfound.tokens_eq.symm.trans h
  cases hrow : found.mapM id with
  | ok row =>
      rw [hrow] at htokens
      cases htokens
  | error e' =>
      rw [hrow] at htokens
      obtain rfl : e' = e := Except.error.inj htokens
      obtain ⟨front, rest, rfl⟩ := mapM_id_eq_error hrow
      exact ⟨front, rest, hfound⟩

theorem exists_tile_of_tokenize_error (h : tokenize source = .error e) :
    ∃ before text after, source.toList = before ++ (text ++ after) ∧
      IsTile before text after (.error e) := by
  obtain ⟨front, rest, hfound⟩ := exists_finds_error h
  exact hfound.tiles.tile (.error e) (by simp)

/-- A source without tokens has a first error, and this is the one that is reported. -/
theorem firstLexicalError_of_tokenize (h : tokenize source = .error e) :
    FirstLexicalError source e ∧ e.span.LiesIn source.toList := by
  constructor
  · obtain ⟨front, rest, hfound⟩ := exists_finds_error h
    refine ⟨front, ?_⟩
    rw [hfound.steps_eq]
    have hlength : front.length + 1 - (front.map .ok ++ .error e :: rest :
        List Finding).length = 0 := by
      simp only [List.length_append, List.length_map, List.length_cons]
      omega
    have htake : (front.map Except.ok : List Finding).take (front.length + 1) =
        front.map .ok := List.take_of_length_le (by simp)
    rw [hlength, List.replicate_zero, List.append_nil, List.take_append, htake]
    simp
  · obtain ⟨before, text, after, hsource, htile⟩ := exists_tile_of_tokenize_error h
    rw [hsource]
    exact htile.liesIn

end EntryFilter

import EntryFilter.Proofs.Lexer.Tile

/-! # The lexer tiles its source

What is found, tokens and errors alike, lies in the source piece behind piece with nothing but
blanks between. One step finds the next piece; by induction on what is left of the source this
holds of any number of steps. -/

namespace EntryFilter

open EntryFilter.Text

/-- What is found in a source from an offset on. -/
structure Tiles (source : List Char) (start : Nat) (found : List Finding) : Prop where
  tile : ∀ x ∈ found, ∃ before text after,
    source = before ++ (text ++ after) ∧ IsTile before text after x
  from_start : ∀ x ∈ found, start ≤ x.span.start
  apart : found.Pairwise fun x y => x.span.stop ≤ y.span.start
  /-- A character that lies in no piece is blank. -/
  blank : ∀ before c after, source = before ++ c :: after → start ≤ byteLength before →
    (∃ x ∈ found, x.span.start ≤ byteLength before ∧
      byteLength before + c.utf8Size ≤ x.span.stop) ∨ isBlank c = true

namespace Cursor

variable {source before : List Char} {cursor : Cursor}

/-! ## Any number of steps -/

theorem steps_ending (source : List Char) (n : Nat) :
    steps n ⟨byteLength source, []⟩ = List.replicate n (Finding.ending source) := by
  induction n with
  | zero => rfl
  | succ n ih =>
      rw [List.replicate_succ, ← ih]
      rfl

theorem tokens_of_blank (h : cursor.Behind source before) (hrest : trimStart cursor.rest = []) :
    cursor.tokens = .ok [⟨.done, .point (byteLength source)⟩] := by
  have hnext := next_of_blank h hrest
  rw [tokens]
  split
  · rename_i hskip
    simp only [next, hskip, Prod.mk.injEq] at hnext
    rw [hnext.2]
  · rename_i hskip
    rw [show cursor.skipBlanks.rest = [] from hrest] at hskip
    cases hskip

theorem tokens_of_error {c : Char} {rest : List Char} {e : SyntaxError}
    (hrest : trimStart cursor.rest = c :: rest) (h : cursor.next.1 = .error e) :
    cursor.tokens = .error e := by
  have hskip : cursor.skipBlanks.rest = c :: rest := hrest
  simp only [next, hskip] at h
  rw [tokens]
  split
  · simp_all
  · rename_i d rest' hskip'
    obtain ⟨rfl, rfl⟩ := List.cons.inj (hskip.symm.trans hskip')
    simp only [h]

theorem tokens_of_ok {c : Char} {rest : List Char} {token : PlacedToken}
    (hrest : trimStart cursor.rest = c :: rest) (h : cursor.next.1 = .ok token) :
    cursor.tokens = cursor.next.2.tokens.map (token :: ·) := by
  have hskip : cursor.skipBlanks.rest = c :: rest := hrest
  simp only [next, hskip] at h
  rw [tokens]
  split
  · simp_all
  · rename_i d rest' hskip'
    obtain ⟨rfl, rfl⟩ := List.cons.inj (hskip.symm.trans hskip')
    simp only [h, next, hskip]

end Cursor

/-! ## Characters between two places -/

theorem split_behind {before rest pre post : List Char} (h : before ++ rest = pre ++ post)
    (hle : byteLength before ≤ byteLength pre) :
    ∃ mid, pre = before ++ mid ∧ rest = mid ++ post := by
  rcases List.append_eq_append_iff.1 h with ⟨mid, rfl, hrest⟩ | ⟨mid, rfl, hpost⟩
  · exact ⟨mid, rfl, hrest⟩
  · cases mid with
    | nil => exact ⟨[], by simp, hpost.symm⟩
    | cons d mid =>
        have := d.utf8Size_pos
        simp only [byteLength_append, byteLength_cons] at hle
        omega

theorem split_within {text after pre post : List Char} {c : Char}
    (h : text ++ after = pre ++ c :: post) (hlt : byteLength pre < byteLength text) :
    ∃ mid, text = pre ++ c :: mid := by
  rcases List.append_eq_append_iff.1 h with ⟨mid, rfl, -⟩ | ⟨mid, rfl, hpost⟩
  · rw [byteLength_append] at hlt
    omega
  · cases mid with
    | nil => simp at hlt
    | cons d mid =>
        obtain ⟨rfl, -⟩ := List.cons.inj hpost
        exact ⟨mid, rfl⟩

theorem Tiles.of_blank {source before rest : List Char} (hsource : source = before ++ rest)
    (hrest : ∀ c ∈ rest, isBlank c = true) : Tiles source (byteLength before) [] where
  tile _ h := nomatch h
  from_start _ h := nomatch h
  apart := .nil
  blank pre c post heq hstart := by
    obtain ⟨mid, -, rfl⟩ := split_behind (hsource.symm.trans heq) hstart
    exact .inr (hrest c (by simp))

theorem Tiles.cons {before blanks text after : List Char} {x : Finding} {found : List Finding}
    (hblanks : ∀ b ∈ blanks, isBlank b = true) (hx : IsTile (before ++ blanks) text after x)
    (h : Tiles (before ++ (blanks ++ (text ++ after))) (byteLength (before ++ (blanks ++ text)))
      found) :
    Tiles (before ++ (blanks ++ (text ++ after))) (byteLength before) (x :: found) where
  tile y hy := by
    rcases List.mem_cons.1 hy with rfl | hy
    · exact ⟨before ++ blanks, text, after, by simp, hx⟩
    · exact h.tile y hy
  from_start y hy := by
    rcases List.mem_cons.1 hy with rfl | hy
    · simp [hx.span_eq]
    · have := h.from_start y hy
      simp only [byteLength_append] at this
      omega
  apart := by
    refine .cons (fun y hy => ?_) h.apart
    have := h.from_start y hy
    simpa [hx.span_eq, Nat.add_assoc] using this
  blank pre c post heq hstart := by
    obtain ⟨mid, rfl, hrest⟩ := split_behind heq hstart
    by_cases hblank : byteLength mid < byteLength blanks
    · obtain ⟨tail, rfl⟩ := split_within hrest hblank
      exact .inr (hblanks c (by simp))
    obtain ⟨mid, rfl, hbehind⟩ := split_behind hrest (Nat.le_of_not_lt hblank)
    by_cases htext : byteLength mid < byteLength text
    · obtain ⟨tail, rfl⟩ := split_within hbehind htext
      refine .inl ⟨x, List.mem_cons_self, ?_⟩
      simp only [hx.span_eq, byteLength_append, byteLength_cons]
      omega
    · have hafter : byteLength (before ++ (blanks ++ text)) ≤
          byteLength (before ++ (blanks ++ mid)) := by
        simp only [byteLength_append]
        omega
      refine (h.blank _ c post heq hafter).imp_left ?_
      rintro ⟨y, hy, hwithin⟩
      exact ⟨y, List.mem_cons_of_mem x hy, hwithin⟩

/-- What the lexer finds from a place on, by any number of steps. -/
structure Cursor.Finds (cursor : Cursor) (source : List Char) (found : List Finding) : Prop where
  tiles : Tiles source cursor.offset found
  length_le : found.length + cursor.offset ≤ byteLength source
  steps_eq : ∀ n, cursor.steps n =
    found.take n ++ List.replicate (n - found.length) (Finding.ending source)
  tokens_eq : cursor.tokens =
    (found.mapM id).map (· ++ [⟨.done, .point (byteLength source)⟩])

namespace Cursor

variable {source before : List Char} {cursor : Cursor}

theorem finds_of_blank (h : cursor.Behind source before) (hrest : trimStart cursor.rest = []) :
    cursor.Finds source [] where
  tiles := by
    rw [h.2]
    exact .of_blank h.1 (List.dropWhile_eq_nil_iff.1 hrest)
  length_le := by simp [h.2, h.1]
  steps_eq n := by
    cases n with
    | zero => rfl
    | succ n =>
        simp only [steps, next_of_blank h hrest, steps_ending, List.take_nil, List.nil_append,
          List.length_nil, Nat.sub_zero, List.replicate_succ]
  tokens_eq := tokens_of_blank h hrest

theorem Finds.cons {c : Char} {rest : List Char} {found : List Finding}
    (h : cursor.Behind source before) (hrest : trimStart cursor.rest = c :: rest)
    (hfound : cursor.next.2.Finds source found) :
    cursor.Finds source (cursor.next.1 :: found) := by
  obtain ⟨blanks, text, after, hsplit, hblanks, htile, hbehind, hafter⟩ := next_of_lexeme h hrest
  have hsource : source = before ++ (blanks ++ (text ++ after)) := by rw [h.1, hsplit]
  have htext := byteLength_pos htile.longest.text_ne_nil
  have hlength := hfound.length_le
  have htiles := hfound.tiles
  rw [hbehind.2] at htiles hlength
  refine ⟨?_, ?_, ?_, ?_⟩
  · rw [h.2]
    subst hsource
    exact .cons hblanks htile htiles
  · rw [h.2, List.length_cons]
    simp only [byteLength_append] at hlength
    omega
  · intro n
    cases n with
    | zero => simp [steps]
    | succ n => simp [steps, hfound.steps_eq]
  · rw [List.mapM_cons]
    cases hnext : cursor.next.1 with
    | error e => exact tokens_of_error hrest hnext
    | ok token =>
        rw [tokens_of_ok hrest hnext, hfound.tokens_eq]
        cases found.mapM id <;> rfl

/-- From every place on the lexer finds a tiling of what is left. -/
theorem exists_finds (h : cursor.Behind source before) : ∃ found, cursor.Finds source found := by
  generalize hn : cursor.rest.length = n
  induction n using Nat.strongRecOn generalizing cursor before with
  | _ n ih =>
      cases hrest : trimStart cursor.rest with
      | nil => exact ⟨[], finds_of_blank h hrest⟩
      | cons c rest =>
          obtain ⟨blanks, text, after, hsplit, -, htile, hbehind, hafter⟩ := next_of_lexeme h hrest
          have htext := List.length_pos_iff.2 htile.longest.text_ne_nil
          have hlt : cursor.next.2.rest.length < n := by
            rw [hafter, ← hn, hsplit]
            simp only [List.length_append]
            omega
          obtain ⟨found, hfound⟩ := ih _ hlt hbehind rfl
          exact ⟨_, hfound.cons h hrest⟩

end Cursor

/-! ## Pieces of the source -/

/-- The pieces of the source from which tokens and errors are made lie within the source. -/
structure SlicesInRange (source : List Char) (x : Finding) : Prop where
  whole : ∃ text, slice? source x.span.start x.span.stop = some text
  body : ∀ value, x.outcome = .ok (.text value) →
    ∃ body, slice? source (x.span.start + 1) (x.span.stop - 1) = some body ∧
      value = String.ofList (Lexeme.unescape body)
  quote : ∀ quote, x.outcome = .error (.unterminatedText quote) →
    slice? source x.span.start (x.span.start + 1) = some [quote]
  stray : ∀ c, x.outcome = .error (.unexpectedCharacter c) →
    ∃ before after, cutAt? source x.span.start = some (before, c :: after)

theorem IsQuote.utf8Size {quote : Char} (h : IsQuote quote) : quote.utf8Size = 1 := by
  rcases h with rfl | rfl <;> rfl

theorem IsTile.slicesInRange {before text after : List Char} {x : Finding}
    (h : IsTile before text after x) : SlicesInRange (before ++ (text ++ after)) x := by
  have hlongest := h.longest
  refine ⟨⟨text, ?_⟩, fun value hvalue => ?_, fun quote hquote => ?_, fun c hc => ?_⟩
  · rw [h.span_eq]
    exact slice_append before text after
  · rw [hvalue] at hlongest
    obtain ⟨quote, written, meant, hq, hbody, rfl, rfl⟩ := hlongest.quoted
    have hslice := slice_append (before ++ [quote]) written ([quote] ++ after)
    refine ⟨written, ?_, by rw [Lexeme.unescape_body hbody]⟩
    have hstop : byteLength before + (1 + (byteLength written + 1)) - 1 =
        byteLength before + 1 + byteLength written := by omega
    simpa [h.span_eq, hq.utf8Size, hstop] using hslice
  · rw [hquote] at hlongest
    cases hlongest with
    | form hform _ =>
        cases hform with
        | @unclosed _ written _ last hq _ _ =>
            have hslice := slice_append before [quote] (written ++ last ++ after)
            simpa [h.span_eq, hq.utf8Size] using hslice
  · rw [hc] at hlongest
    cases hlongest with
    | form hform _ => cases hform
    | stray _ =>
        rw [h.span_eq]
        exact ⟨before, after, cutAt_append before (c :: after)⟩

/-- The lexer tiles its source by longest match. What it finds before the end, errors included,
are pieces one behind the other that leave out nothing but blanks; then it finds the end, however
many more steps it makes. Tokens are taken up to the first error. -/
theorem lexer_tiles_source (source : String) :
    ∃ found : List Finding, Tiles source.toList 0 found ∧
      (∀ x ∈ found, SlicesInRange source.toList x ∧ x.outcome ≠ .ok .done ∧
        ∀ numeral, x.outcome ≠ .error (.invalidNumber numeral)) ∧
      found.length ≤ byteLength source.toList ∧
      (∀ n, (Cursor.ofSource source).steps n =
        found.take n ++ List.replicate (n - found.length) (Finding.ending source.toList)) ∧
      tokenize source =
        (found.mapM id).map (· ++ [⟨.done, .point (byteLength source.toList)⟩]) := by
  obtain ⟨found, hfound⟩ := Cursor.exists_finds (Cursor.behind_ofSource source)
  refine ⟨found, hfound.tiles, fun x hx => ?_, hfound.length_le, hfound.steps_eq, hfound.tokens_eq⟩
  obtain ⟨before, text, after, hsource, htile⟩ := hfound.tiles.tile x hx
  rw [hsource]
  exact ⟨htile.slicesInRange, htile.longest.ne_done, htile.longest.ne_invalidNumber⟩

end EntryFilter

import EntryFilter.Proofs.Grammar.Composition
import EntryFilter.Proofs.Lexer.Separation
import EntryFilter.Proofs.Text.Cutting
import EntryFilter.Proofs.Text.Lines
import EntryFilter.Session
import EntryFilter.Shell.Command

/-! # Filters of a script

The lines of a script are filters, blank lines or remarks. No filter looks like a remark or like a
command of the shell, since neither `#`, `/` nor a point begins a token. So a script gives exactly
the filters that were written into it, without the blanks around them. -/

namespace EntryFilter

open Grammar EntryFilter.Text

/-! ## How a filter begins -/

theorem Lexeme.exists_token_error {c : Char} (h : c ∈ ['.', '#', '/']) (rest : List Char) :
    ∃ fault, (cut c rest).token = .error fault := by
  have hother : c ∉ signs ∧ ¬ isAsciiDigit c = true ∧ ¬ isWordStart c = true := by
    simp only [List.mem_cons, List.not_mem_nil, or_false] at h
    rcases h with rfl | rfl | rfl <;> decide +kernel
  rw [cut_of_not_mem_signs hother.1, if_neg hother.2.1, if_neg hother.2.2]
  exact ⟨_, rfl⟩

/-- A source that parses is a blank filter, or the first character behind its blanks begins a
token. -/
theorem Filter.exists_token_of_parse {limits : Limits} {source : String} {f : Filter}
    (h : Filter.parse limits source = .ok f) (hf : f ≠ .blank) :
    ∃ c rest token, trimStart source.toList = c :: rest ∧
      (Lexeme.cut c rest).token = .ok token := by
  obtain ⟨ts, left, hlexes, -, haccepts⟩ := exists_lexes_of_parse h
  cases hlexes with
  | nil =>
      rcases haccepts with ⟨-, hblank⟩ | ⟨hderives, -⟩
      · exact absurd hblank hf
      · exact absurd rfl hderives.ne_nil
  | cons hhead htoken _ => exact ⟨_, _, _, hhead, htoken⟩

/-- No filter begins with a point, a number sign or a slash. -/
theorem Filter.head_of_parse {limits : Limits} {source : String} {f : Filter}
    (h : Filter.parse limits source = .ok f) (hf : f ≠ .blank) {rest : List Char} {c : Char}
    (hhead : trimStart source.toList = c :: rest) : c ∉ ['.', '#', '/'] := by
  intro hc
  obtain ⟨c', rest', token, hhead', htoken⟩ := exists_token_of_parse h hf
  obtain ⟨rfl, rfl⟩ := List.cons.inj (hhead.symm.trans hhead')
  obtain ⟨fault, hfault⟩ := Lexeme.exists_token_error hc rest
  rw [htoken] at hfault
  cases hfault

/-! ## Lines -/

namespace Session

/-- A line that is blank or that has a remark behind `#` or `//`. -/
def IsPassedOver (line : String) : Prop :=
  ∃ blanks rest, line.toList = blanks ++ rest ∧ (∀ b ∈ blanks, isBlank b = true) ∧
    (rest = [] ∨ ['#'] <+: rest ∨ ['/', '/'] <+: rest)

/-- A text without the blanks around it. -/
def trimmed (text : String) : String := String.ofList (trim text.toList)

theorem isRemark_iff {line : List Char} :
    isRemark line = true ↔ line = [] ∨ ['#'] <+: line ∨ ['/', '/'] <+: line := by
  have hnumber : line.head? = some '#' ↔ ['#'] <+: line := by
    cases line <;> simp [eq_comm]
  have hslashes := after?_isSome_iff ['/', '/'] line
  simp only [isRemark, Bool.or_eq_true, List.isEmpty_iff, beq_iff_eq, hnumber, hslashes, or_assoc]
  exact or_congr_right or_comm

theorem isRemark_trim_iff {line : String} :
    isRemark (trim line.toList) = true ↔ IsPassedOver line := by
  rw [isRemark_iff]
  obtain ⟨front, back, hline, hfront, hback⟩ := exists_blanks_trim line.toList
  constructor
  · rintro (hnil | hnumber | hslashes)
    · exact ⟨line.toList, [], (List.append_nil _).symm, trim_eq_nil_iff.1 hnil, .inl rfl⟩
    · exact ⟨front, _, hline, hfront, .inr (.inl (hnumber.trans (List.prefix_append _ back)))⟩
    · exact ⟨front, _, hline, hfront, .inr (.inr (hslashes.trans (List.prefix_append _ back)))⟩
  · rintro ⟨blanks, rest, hsplit, hblanks, hrest⟩
    have hnumberSign : ∀ c ∈ ['#'], isBlank c = false := List.forall_mem_singleton.2 rfl
    have htwoSlashes : ∀ c ∈ ['/', '/'], isBlank c = false :=
      List.forall_mem_cons.2 ⟨rfl, List.forall_mem_singleton.2 rfl⟩
    rw [hsplit, trim_blanks_append hblanks]
    rcases hrest with rfl | hnumber | hslashes
    · exact .inl rfl
    · exact .inr (.inl (prefix_trim hnumberSign hnumber))
    · exact .inr (.inr (prefix_trim htwoSlashes hslashes))

instance (line : String) : Decidable (IsPassedOver line) :=
  decidable_of_iff _ isRemark_trim_iff

/-- A filter is no remark. -/
theorem not_isPassedOver_of_parse {limits : Limits} {source : String} {f : Filter}
    (h : Filter.parse limits source = .ok f) (hf : f ≠ .blank) : ¬ IsPassedOver source := by
  rintro ⟨blanks, rest, hsource, hblanks, hrest⟩
  have hstart : trimStart source.toList = trimStart rest := by
    rw [hsource, trimStart_blanks_append hblanks]
  rcases hrest with rfl | ⟨after, rfl⟩ | ⟨after, rfl⟩
  · obtain ⟨c, after, token, hhead, -⟩ := Filter.exists_token_of_parse h hf
    rw [hstart] at hhead
    cases hhead
  · exact Filter.head_of_parse h hf hstart (by decide)
  · exact Filter.head_of_parse h hf hstart (by decide)

/-- A filter is no command of the shell. -/
theorem isCommand_eq_false_of_parse {limits : Limits} {source : String} {f : Filter}
    (h : Filter.parse limits source = .ok f) (hf : f ≠ .blank) :
    Command.isCommand source = false := by
  rw [Command.isCommand, head?_trim, beq_eq_false_iff_ne]
  intro hpoint
  obtain ⟨c, rest, token, hhead, -⟩ := Filter.exists_token_of_parse h hf
  rw [hhead] at hpoint
  obtain rfl := Option.some.inj hpoint
  exact Filter.head_of_parse h hf hhead (by decide)

theorem parse_trimmed {limits : Limits} {source : String} {f : Filter}
    (h : Filter.parse limits source = .ok f) : Filter.parse limits (trimmed source) = .ok f := by
  obtain ⟨front, back, hsource, hfront, hback⟩ := exists_blanks_trim source.toList
  have hwide : String.ofList front ++ trimmed source ++ String.ofList back = source := by
    rw [← String.toList_inj, String.toList_append, String.toList_append, trimmed,
      String.toList_ofList, String.toList_ofList, String.toList_ofList, List.append_assoc,
      ← hsource]
  have hfront' : ∀ c ∈ (String.ofList front).toList, isBlank c = true := by simpa using hfront
  have hback' : ∀ c ∈ (String.ofList back).toList, isBlank c = true := by simpa using hback
  have hblanks := parse_between_blanks limits (trimmed source) hfront' hback'
  rw [hwide, h] at hblanks
  cases hparse : Filter.parse limits (trimmed source) with
  | ok g =>
      rw [hparse] at hblanks
      exact congrArg Except.ok (Except.ok.inj hblanks).symm
  | error e =>
      rw [hparse] at hblanks
      cases hblanks

/-! ## Scripts -/

/-- The text has the lines, each of them ended by a line feed or by a carriage return and a line
feed, except the last one, which is ended by the end of the text. -/
inductive Joined : List String → String → Prop where
  | nil : Joined [] ""
  | last (line) : Joined [line] line
  | feed {line next lines text} : Joined (next :: lines) text →
      Joined (line :: next :: lines) (line ++ "\n" ++ text)
  | returnFeed {line next lines text} : Joined (next :: lines) text →
      Joined (line :: next :: lines) (line ++ "\r\n" ++ text)

/-- The lines are the sources in their order and, anywhere between them, lines that a script passes
over. -/
inductive Interleaved : List String → List String → Prop where
  | nil : Interleaved [] []
  | source {source sources lines} : Interleaved sources lines →
      Interleaved (source :: sources) (source :: lines)
  | passed {line sources lines} : IsPassedOver line → '\n' ∉ line.toList →
      Interleaved sources lines → Interleaved sources (line :: lines)

/-- The filter of a line, unless the line is passed over. -/
def kept (line : String) : List String := if IsPassedOver line then [] else [trimmed line]

theorem filters_of_trimmed_cons (line : String) (more : List (List Char)) :
    ((trim line.toList :: more).filter (!isRemark ·)).map String.ofList =
      kept line ++ (more.filter (!isRemark ·)).map String.ofList := by
  by_cases h : IsPassedOver line
  · simp [kept, h, isRemark_trim_iff.2 h]
  · simp [kept, h, mt isRemark_trim_iff.1 h, trimmed]

theorem scriptFilters_line {line : String} (h : '\n' ∉ line.toList) :
    scriptFilters line = kept line := by
  by_cases hnil : line.toList = []
  · have hpassed : IsPassedOver line := ⟨[], [], hnil, nofun, .inl rfl⟩
    rw [kept, if_pos hpassed, scriptFilters, hnil]
    rfl
  · rw [scriptFilters, lines_of_no_feed h hnil]
    simpa using filters_of_trimmed_cons line []

theorem scriptFilters_feed {line : String} (h : '\n' ∉ line.toList) (script : String) :
    scriptFilters (line ++ "\n" ++ script) = kept line ++ scriptFilters script := by
  have htext : (line ++ "\n" ++ script).toList = line.toList ++ '\n' :: script.toList := by
    simp [String.toList_append]
  rw [scriptFilters, htext, trimmed_lines_append_feed h, filters_of_trimmed_cons, scriptFilters]

/-- A carriage return at the end of a line is one of its blanks. -/
theorem kept_return (line : String) : kept (line ++ "\r") = kept line := by
  have htrim : trim (line ++ "\r").toList = trim line.toList := by
    rw [String.toList_append]
    exact trim_append_blanks isBlank_return line.toList
  have hpassed : IsPassedOver (line ++ "\r") ↔ IsPassedOver line := by
    rw [← isRemark_trim_iff, ← isRemark_trim_iff, htrim]
  simp only [kept, hpassed, trimmed, htrim]

theorem scriptFilters_of_joined {lines : List String} {script : String} (h : Joined lines script)
    (hfeed : ∀ line ∈ lines, '\n' ∉ line.toList) :
    scriptFilters script = lines.flatMap kept := by
  induction h with
  | nil => rfl
  | last line =>
      rw [scriptFilters_line (hfeed line List.mem_cons_self)]
      simp
  | @feed line next lines text _ ih =>
      obtain ⟨hline, hrest⟩ := List.forall_mem_cons.1 hfeed
      rw [List.flatMap_cons, scriptFilters_feed hline, ih hrest]
  | @returnFeed line next lines text _ ih =>
      obtain ⟨hline, hrest⟩ := List.forall_mem_cons.1 hfeed
      have hreturn : '\n' ∉ (line ++ "\r").toList := by
        simpa [String.toList_append] using hline
      have hsplit : line ++ "\r\n" = line ++ "\r" ++ "\n" := by
        rw [String.append_assoc]
        rfl
      rw [List.flatMap_cons, hsplit, scriptFilters_feed hreturn, kept_return, ih hrest]

/-- A script gives the lines that it does not pass over. -/
theorem scriptFilters_eq_filter (script : String) : scriptFilters script =
    (((lines script.toList).map String.ofList).filter (¬ IsPassedOver ·)).map trimmed := by
  have hkeep (line : List Char) :
      (!isRemark (trim line)) = decide (¬ IsPassedOver (String.ofList line)) := by
    rw [Bool.eq_iff_iff, decide_eq_true_iff, ← isRemark_trim_iff, String.toList_ofList,
      Bool.not_eq_true, Bool.not_eq_true']
  rw [scriptFilters, List.filter_map, List.filter_map, List.map_map, List.map_map]
  simp only [Function.comp_def, hkeep, trimmed, String.toList_ofList]

theorem Interleaved.flatMap_kept {sources lines : List String} (h : Interleaved sources lines)
    (hsources : ∀ source ∈ sources, ¬ IsPassedOver source) :
    lines.flatMap kept = sources.map trimmed := by
  induction h with
  | nil => rfl
  | source _ ih =>
      obtain ⟨hsource, hrest⟩ := List.forall_mem_cons.1 hsources
      rw [List.flatMap_cons, kept, if_neg hsource, ih hrest]
      rfl
  | passed hpassed _ _ ih =>
      rw [List.flatMap_cons, kept, if_pos hpassed, ih hsources]
      rfl

theorem Interleaved.no_feed {sources lines : List String} (h : Interleaved sources lines)
    (hsources : ∀ source ∈ sources, '\n' ∉ source.toList) :
    ∀ line ∈ lines, '\n' ∉ line.toList := by
  induction h with
  | nil => exact nofun
  | source _ ih =>
      obtain ⟨hsource, hrest⟩ := List.forall_mem_cons.1 hsources
      exact List.forall_mem_cons.2 ⟨hsource, ih hrest⟩
  | passed _ hline _ ih => exact List.forall_mem_cons.2 ⟨hline, ih hsources⟩

/-- Scripts and the shell keep every filter. No filter is taken for a command. A script that has
filters on its lines, with blank lines and remarks between them, gives these filters in their order
without the blanks around them, and without these blanks they parse as before. No line that a script
passes over is a filter. -/
theorem scripts_keep_filters (limits : Limits) :
    (∀ source f, Filter.parse limits source = .ok f → f ≠ .blank →
      Command.isCommand source = false) ∧
    (∀ sources lines script, (∀ source ∈ sources, '\n' ∉ source.toList ∧
        ∃ f, Filter.parse limits source = .ok f ∧ f ≠ .blank) →
      Interleaved sources lines → Joined lines script →
      scriptFilters script = sources.map trimmed) ∧
    (∀ source f, Filter.parse limits source = .ok f →
      Filter.parse limits (trimmed source) = .ok f) ∧
    (∀ script, scriptFilters script =
      (((Text.lines script.toList).map String.ofList).filter (¬ IsPassedOver ·)).map trimmed) ∧
    ∀ line f, IsPassedOver line → Filter.parse limits line = .ok f → f = .blank := by
  refine ⟨?_, ?_, ?_, ?_, ?_⟩
  · intro source f hparse hf
    exact isCommand_eq_false_of_parse hparse hf
  · intro sources lines script hsources hlines hscript
    have hfeed := hlines.no_feed fun source hsource => (hsources source hsource).1
    rw [scriptFilters_of_joined hscript hfeed]
    refine hlines.flatMap_kept fun source hsource => ?_
    obtain ⟨-, f, hparse, hf⟩ := hsources source hsource
    exact not_isPassedOver_of_parse hparse hf
  · intro source f hparse
    exact parse_trimmed hparse
  · intro script
    exact scriptFilters_eq_filter script
  · intro line f hpassed hparse
    by_contra hf
    exact not_isPassedOver_of_parse hparse hf hpassed

theorem scripts_keep_filters_of_two :
    scriptFilters ("  a IS NULL" ++ "\r\n" ++ ("// x" ++ "\n" ++ "b IS NULL ")) =
      ["a IS NULL", "b IS NULL"] := by
  have hparse : ∀ source ∈ ["  a IS NULL", "b IS NULL "], '\n' ∉ source.toList ∧
      ∃ f, Filter.parse .standard source = .ok f ∧ f ≠ .blank := by
    have hfirst : Filter.parse .standard "  a IS NULL" = .ok (.condition "a" .isNull none) := by
      decide +kernel
    have hsecond : Filter.parse .standard "b IS NULL " = .ok (.condition "b" .isNull none) := by
      decide +kernel
    simp [hfirst, hsecond]
  have hremark : IsPassedOver "// x" := ⟨[], _, rfl, nofun, .inr (.inr (by decide))⟩
  obtain ⟨-, hfilters, -⟩ := scripts_keep_filters .standard
  rw [hfilters _ _ _ hparse (.source (.passed hremark (by decide) (.source .nil)))
    (.returnFeed (.feed (.last _)))]
  decide +kernel

end Session

end EntryFilter

import EntryFilter.Proofs.Text.LowerCase
import EntryFilter.Proofs.Text.Trimming
import EntryFilter.Shell.Loop

/-! # What a line asks of the shell

The text of a line tells which change of the state it asks for, or that it ends the shell. The
shell makes this change and no other one, in every state and with every history. -/

namespace EntryFilter

open EntryFilter.Text

/-! ## Words and arguments -/

namespace Command

/-- The first word of a line, up to a space. -/
def word (line : String) : List Char := (trim line.toList).takeWhile (· != ' ')

/-- What stands behind the first word, without the blanks around it. -/
def argument (line : String) : List Char := trim ((trim line.toList).dropWhile (· != ' '))

/-- The text is a word, whose letters from `a` to `z` may be capitals in the text. -/
def Says (text : List Char) (word : String) : Prop := text.map Char.toLower = word.toList

instance (text : List Char) (word : String) : Decidable (Says text word) :=
  inferInstanceAs (Decidable (_ = _))

theorem cutFirst?_eq (separator : Char) (cs : List Char) :
    cutFirst? separator cs =
      match cs.dropWhile (· != separator) with
      | [] => none
      | _ :: after => some (cs.takeWhile (· != separator), after) := by
  induction cs with
  | nil => rfl
  | cons c cs ih =>
      by_cases hc : c = separator
      · simp [cutFirst?, hc]
      · rw [cutFirst?, if_neg hc, ih]
        simp only [List.dropWhile_cons, List.takeWhile_cons, bne_iff_ne, ne_eq, hc,
          not_false_eq_true, if_true]
        cases cs.dropWhile (· != separator) <;> rfl

/-- A command is split into its word in lower case and its argument, if there is one. -/
theorem split_eq (line : String) :
    split line = (String.ofList (lower (word line)),
      if (argument line).isEmpty then none else some (String.ofList (argument line))) := by
  rw [split, word, argument, cutFirst?_eq]
  have hsplit := List.takeWhile_append_dropWhile (p := (· != ' ')) (l := trim line.toList)
  cases hrest : (trim line.toList).dropWhile (· != ' ') with
  | nil =>
      rw [hrest, List.append_nil] at hsplit
      rw [hsplit]
      rfl
  | cons c after =>
      have hc : c = ' ' := by
        have hnot := List.head?_dropWhile_not (· != ' ') (trim line.toList)
        rw [hrest] at hnot
        simpa using hnot
      have hspace : ∀ b ∈ [' '], isBlank b = true := by
        intro b hb
        obtain rfl := List.mem_singleton.1 hb
        rfl
      have htrim : trim (c :: after) = trim after := by
        rw [hc]
        exact trim_blanks_append hspace after
      rw [htrim]
      rfl

theorem says_iff (text : List Char) (word : String)
    (h : word.toList.all (IsPlainAscii ·) = true) :
    Says text word ↔ String.ofList (lower text) = word := by
  rw [Says, ← lower_eq_iff fun d hd => of_decide_eq_true (List.all_eq_true.1 h d hd)]
  constructor
  · intro htext
    rw [htext, String.ofList_toList]
  · rintro rfl
    rw [String.toList_ofList]

theorem Says.unique {text : List Char} {word word' : String} (h : Says text word)
    (h' : Says text word') : word = word' := String.toList_inj.1 (h.symm.trans h')

/-- The text switches something on or off. -/
def Switches (text : List Char) : Bool → Prop
  | true => Says text "on" ∨ Says text "true"
  | false => Says text "off" ∨ Says text "false"

end Command

/-! ## Requests -/

namespace Shell

/-- A change of the state of a shell. -/
inductive Change where
  | format (format : OutputFormat)
  | strict (strict : Bool)
  | declare (spec : FieldSpec)
  | toggle

/-- The state behind a change. -/
def apply (shell : Shell) : Change → Shell
  | .format format => { shell with format := format }
  | .strict strict => { shell with session := shell.session.setStrict strict }
  | .declare spec => { shell with session := shell.session.declare spec }
  | .toggle => { shell with validateOnly := !shell.validateOnly }

open Command

/-- The line is accepted as a command that makes a change. -/
def Asks (line : String) : Change → Prop
  | .format format => Says (word line) ".format" ∧ Says (argument line) format.name
  | .strict strict => Says (word line) ".strict" ∧ Switches (argument line) strict
  | .declare spec => Says (word line) ".type" ∧
    FieldSpec.read (String.ofList (argument line)) = .ok spec
  | .toggle => Says (word line) ".validate" ∧ argument line = []

/-- The line is a command that ends the shell. -/
def Ends (line : String) : Prop :=
  Says (word line) ".exit" ∨ Says (word line) ".quit" ∨ Says (word line) ".q"

/-- The line is a filter: it is neither blank nor a command. -/
def IsFilterLine (line : String) : Prop :=
  trim line.toList ≠ [] ∧ (trim line.toList).head? ≠ some '.'

end Shell

/-! ## What commands ask for -/

namespace Command

open Shell

/-- The change that the result of a command makes. -/
def change? : CommandResult → Option Change
  | .setFormat format => some (.format format)
  | .setStrict strict => some (.strict strict)
  | .declare spec => some (.declare spec)
  | _ => none

/-- An argument, unless it is empty. -/
def given? (argument : List Char) : Option String :=
  if argument.isEmpty then none else some (String.ofList argument)

theorem given?_cons (c : Char) (cs : List Char) :
    given? (c :: cs) = some (String.ofList (c :: cs)) := rfl

theorem ofName?_eq_some_iff {name : String} {format : OutputFormat} :
    OutputFormat.ofName? name = some format ↔ name = format.name := by
  constructor
  · intro h
    have hname := List.find?_some h
    exact (beq_iff_eq.1 hname).symm
  · rintro rfl
    cases format <;> rfl

theorem change?_formatCommand (current : OutputFormat) (argument : List Char) (change : Change) :
    change? (formatCommand current (given? argument)) = some change ↔
      ∃ format : OutputFormat, change = .format format ∧ Says argument format.name := by
  cases argument with
  | nil =>
      have hnot (format : OutputFormat) : ¬ Says [] format.name := by cases format <;> decide
      simp [given?, formatCommand, change?, hnot]
  | cons c cs =>
      have hname (format : OutputFormat) := says_iff (c :: cs) format.name
        (by cases format <;> decide)
      simp only [hname, ← ofName?_eq_some_iff]
      rw [given?_cons, formatCommand, String.toList_ofList]
      cases OutputFormat.ofName? (String.ofList (lower (c :: cs))) <;> simp [change?, eq_comm]

theorem change?_strictCommand (current : Bool) (argument : List Char) (change : Change) :
    change? (strictCommand current (given? argument)) = some change ↔
      ∃ strict, change = .strict strict ∧ Switches argument strict := by
  cases argument with
  | nil => simp [given?, strictCommand, change?, Switches, Says]
  | cons c cs =>
      simp only [Bool.exists_bool, Switches]
      rw [says_iff _ "on" (by decide), says_iff _ "true" (by decide),
        says_iff _ "off" (by decide), says_iff _ "false" (by decide),
        given?_cons, strictCommand, String.toList_ofList]
      generalize String.ofList (lower (c :: cs)) = setting
      split
      case h_5 hon htrue hoff hfalse =>
        refine iff_of_false nofun ?_
        rintro (⟨-, h | h⟩ | ⟨-, h | h⟩)
        · exact hoff h
        · exact hfalse h
        · exact hon h
        · exact htrue h
      all_goals simp [change?, eq_comm]

theorem change?_typeCommand (argument : List Char) (change : Change) :
    change? (typeCommand (given? argument)) = some change ↔
      ∃ spec, change = .declare spec ∧ FieldSpec.read (String.ofList argument) = .ok spec := by
  cases argument with
  | nil => simp [given?, typeCommand, change?, FieldSpec.read, cutLast?]
  | cons c cs =>
      rw [given?_cons, typeCommand]
      cases FieldSpec.read (String.ofList (c :: cs)) <;> simp [change?, eq_comm]

theorem change?_validateCommand (session : Session) (format : OutputFormat)
    (argument : Option String) : change? (validateCommand session format argument) = none := by
  cases argument <;> rfl

theorem change?_analyzeCommand (session : Session) (format : OutputFormat)
    (argument : Option String) : change? (analyzeCommand session format argument) = none := by
  cases argument with
  | none => rfl
  | some spec =>
      rw [analyzeCommand]
      split <;> rfl

/-- Only three commands make changes. -/
theorem change?_ofLine (session : Session) (format : OutputFormat) (line : String) :
    change? (ofLine session format line) =
      if Says (word line) ".format" then
        change? (formatCommand format (given? (argument line)))
      else if Says (word line) ".strict" then
        change? (strictCommand session.settings.strict (given? (argument line)))
      else if Says (word line) ".type" then change? (typeCommand (given? (argument line)))
      else none := by
  simp only [says_iff (word line) ".format" (by decide),
    says_iff (word line) ".strict" (by decide),
    says_iff (word line) ".type" (by decide)]
  rw [ofLine, split_eq]
  generalize String.ofList (lower (word line)) = name
  dsimp only
  split
  case h_15 => exact change?_validateCommand session format _
  case h_16 => exact change?_analyzeCommand session format _
  case h_17 hformat hstrict _ htype _ _ =>
    rw [if_neg hformat, if_neg hstrict, if_neg htype]
    rfl
  all_goals rfl

theorem change?_ofLine_eq_some_iff {session : Session} {format : OutputFormat} {line : String}
    {change : Change} : change? (ofLine session format line) = some change ↔
      Asks line change ∧ change ≠ .toggle := by
  rw [change?_ofLine]
  by_cases hformat : Says (word line) ".format"
  · have hother {name : String} (hname : name ≠ ".format") : ¬ Says (word line) name :=
      fun h => hname (h.unique hformat)
    rw [if_pos hformat, change?_formatCommand]
    cases change <;> simp [Asks, hformat, hother]
  · rw [if_neg hformat]
    by_cases hstrict : Says (word line) ".strict"
    · have hother {name : String} (hname : name ≠ ".strict") : ¬ Says (word line) name :=
        fun h => hname (h.unique hstrict)
      rw [if_pos hstrict, change?_strictCommand]
      cases change <;> simp [Asks, hstrict, hformat, hother]
    · rw [if_neg hstrict]
      by_cases htype : Says (word line) ".type"
      · rw [if_pos htype, change?_typeCommand]
        cases change <;> simp [Asks, hstrict, hformat, htype]
      · rw [if_neg htype]
        cases change <;> simp [Asks, hstrict, hformat, htype]

theorem ofLine_eq_exit_iff {session : Session} {format : OutputFormat} {line : String} :
    ofLine session format line = .exit ↔ Ends line := by
  rw [Ends, says_iff _ ".exit" (by decide), says_iff _ ".quit" (by decide),
    says_iff _ ".q" (by decide), ofLine, split_eq]
  generalize String.ofList (lower (word line)) = name
  dsimp only
  split
  case h_1 | h_2 | h_3 => simp
  case h_17 hexit hquit hq _ _ _ _ _ _ _ _ _ _ _ _ _ =>
    exact iff_of_false nofun fun h => h.elim hexit (·.elim hquit hq)
  all_goals refine iff_of_false ?_ (by decide)
  case h_11 | h_12 | h_14 | h_15 | h_16 =>
    simp only [formatCommand, strictCommand, typeCommand, validateCommand, analyzeCommand]
    repeat' split
    all_goals nofun
  all_goals nofun

end Command

/-! ## What a step does -/

namespace Shell

open Command

variable {shell : Shell} {history : History} {line : String}

theorem Asks.eq_toggle {change : Change} (h : Asks line change)
    (hword : Says (word line) ".validate") : change = .toggle := by
  cases change with
  | toggle => rfl
  | format => exact absurd (h.1.unique hword) (by decide)
  | strict => exact absurd (h.1.unique hword) (by decide)
  | declare => exact absurd (h.1.unique hword) (by decide)

/-- A line asks for one change at most. -/
theorem Asks.unique {change change' : Change} (h : Asks line change) (h' : Asks line change') :
    change = change' := by
  by_cases hword : Says (word line) ".validate"
  · rw [h.eq_toggle hword, h'.eq_toggle hword]
  · have hmade {c : Change} (hc : Asks line c) :
        change? (ofLine ⟨.empty, none, .standard⟩ .table line) = some c := by
      refine change?_ofLine_eq_some_iff.2 ⟨hc, ?_⟩
      rintro rfl
      exact hword hc.1
    exact Option.some.inj ((hmade h).symm.trans (hmade h'))

/-- A line that ends the shell asks for no change. -/
theorem Ends.not_asks (h : Ends line) (change : Change) : ¬ Asks line change := by
  intro hasks
  have hword : ∃ name ∈ [".format", ".strict", ".type", ".validate"], Says (word line) name := by
    cases change with
    | format => exact ⟨".format", by decide, hasks.1⟩
    | strict => exact ⟨".strict", by decide, hasks.1⟩
    | declare => exact ⟨".type", by decide, hasks.1⟩
    | toggle => exact ⟨".validate", by decide, hasks.1⟩
  obtain ⟨name, hname, hname'⟩ := hword
  rcases h with h | h | h <;> exact absurd (h.unique hname' ▸ hname) (by decide)

theorem word_trimmed (line : String) : word (String.ofList (trim line.toList)) = word line := by
  rw [word, String.toList_ofList, trim_trim, word]

theorem argument_trimmed (line : String) :
    argument (String.ofList (trim line.toList)) = argument line := by
  rw [argument, String.toList_ofList, trim_trim, argument]

theorem asks_trimmed (line : String) (change : Change) :
    Asks (String.ofList (trim line.toList)) change ↔ Asks line change := by
  cases change <;> simp only [Asks, word_trimmed, argument_trimmed]

theorem ends_trimmed (line : String) : Ends (String.ofList (trim line.toList)) ↔ Ends line := by
  simp only [Ends, word_trimmed]

theorem eq_point_of_toLower {c : Char} (h : c.toLower = '.') : c = '.' := by
  have hcodes : ∀ n < 128, (Char.ofNat n).toLower = '.' → Char.ofNat n = '.' := by decide
  by_cases hascii : c.toNat < 128
  · exact of_ascii (fun c => c.toLower = '.' → c = '.') hcodes hascii h
  · rw [toLower_of_not_ascii (Nat.le_of_not_lt hascii)] at h
    exact h

/-- A line that begins with the word of a command is a command. -/
theorem head_of_says {name : String} (h : Says (word line) name)
    (hname : name.toList.head? = some '.') : (trim line.toList).head? = some '.' := by
  rw [Says] at h
  rw [← h, List.head?_map, word] at hname
  cases htrim : trim line.toList with
  | nil =>
      rw [htrim] at hname
      cases hname
  | cons c rest =>
      rw [htrim] at hname
      by_cases hc : c = ' '
      · rw [hc] at hname
        cases hname
      · have hhead : c.toLower = '.' := by simpa [hc] using hname
        rw [eq_point_of_toLower hhead]
        rfl

theorem Asks.head {change : Change} (h : Asks line change) :
    (trim line.toList).head? = some '.' := by
  cases change <;> exact head_of_says h.1 rfl

theorem Ends.head (h : Ends line) : (trim line.toList).head? = some '.' := by
  rcases h with h | h | h <;> exact head_of_says h rfl

theorem IsFilterLine.not_asks (h : IsFilterLine line) (change : Change) : ¬ Asks line change :=
  fun hasks => h.2 hasks.head

theorem IsFilterLine.not_ends (h : IsFilterLine line) : ¬ Ends line := fun hends => h.2 hends.head

/-- Only the bare command switches between running and validating. -/
theorem isToggle_iff : isToggle (trim line.toList) = true ↔ Asks line .toggle := by
  rw [isToggle, beq_iff_eq]
  constructor
  · intro h
    have hspace : ∀ c ∈ trim line.toList, (c != ' ') = true := by
      intro c hc
      rw [bne_iff_ne]
      rintro rfl
      have hmem := List.mem_map_of_mem (f := Char.toLower) hc
      rw [h] at hmem
      exact absurd hmem (by decide)
    have hword : word line = trim line.toList := List.takeWhile_eq_self_iff.2 hspace
    have hargument : argument line = [] := by
      rw [argument, List.dropWhile_eq_nil_iff.2 hspace]
      rfl
    exact ⟨hword ▸ h, hargument⟩
  · rintro ⟨hword, hargument⟩
    have hblank := trim_eq_nil_iff.1 hargument
    have hsplit : word line ++ (trim line.toList).dropWhile (· != ' ') = trim line.toList :=
      List.takeWhile_append_dropWhile
    -- A trimmed text does not end with the blanks that an empty argument leaves.
    have htrim : trim (word line) = trim line.toList := by
      rw [← trim_append_blanks hblank, hsplit, trim_trim]
    have hlength := length_trim_le (word line)
    rw [htrim, ← hsplit, List.length_append] at hlength
    have hnil : (trim line.toList).dropWhile (· != ' ') = [] :=
      List.length_eq_zero_iff.1 (by omega)
    rw [hnil, List.append_nil] at hsplit
    rw [← hsplit]
    exact hword

/-! ## Steps -/

theorem next_obey_of_change {result : CommandResult} {change : Change}
    (h : change? result = some change) :
    (shell.obey history result).next = some (shell.apply change) := by
  cases result with
  | setFormat format => cases h; rfl
  | setStrict strict => cases h; rfl
  | declare spec => cases h; rfl
  | _ => cases h

theorem next_obey_of_no_change {result : CommandResult} (hexit : result ≠ .exit)
    (h : change? result = none) : (shell.obey history result).next = some shell := by
  cases result with
  | exit => exact absurd rfl hexit
  | setFormat format => cases h
  | setStrict strict => cases h
  | declare spec => cases h
  | _ => rfl

variable [PatternEngine]

/-- What the shell shows for a filter. The history has no part in it. -/
def shown (shell : Shell) (line : String) : String :=
  (shell.runFilter (String.ofList (trim line.toList))).output

theorem step_of_blank (h : trim line.toList = []) : shell.step history line = ⟨"", some shell⟩ := by
  simp [step, h]

theorem step_of_command (h : (trim line.toList).head? = some '.') :
    shell.step history line =
      if isToggle (trim line.toList) then shell.toggle
      else shell.obey history
        (ofLine shell.session shell.format (String.ofList (trim line.toList))) := by
  have hne : (trim line.toList).isEmpty = false := by
    cases htrim : trim line.toList with
    | nil =>
        rw [htrim] at h
        cases h
    | cons c rest => rfl
  have hcommand : isCommand (String.ofList (trim line.toList)) = true := by
    rw [isCommand, String.toList_ofList, trim_trim, h]
    rfl
  simp only [step, hne, hcommand, if_true, Bool.false_eq_true, if_false]

theorem step_of_filter (h : IsFilterLine line) :
    shell.step history line = ⟨shell.shown line, some shell⟩ := by
  have hne : (trim line.toList).isEmpty = false := by
    rw [Bool.eq_false_iff, ne_eq, List.isEmpty_iff]
    exact h.1
  have hcommand : isCommand (String.ofList (trim line.toList)) = false := by
    rw [isCommand, String.toList_ofList, trim_trim]
    exact beq_eq_false_iff_ne.2 h.2
  have hnext (source : String) : (shell.runFilter source).next = some shell := by
    rw [runFilter]
    split <;> rfl
  simp only [step, hne, hcommand, Bool.false_eq_true, if_false]
  rw [← hnext (String.ofList (trim line.toList))]
  rfl

theorem next_step_of_asks {change : Change} (h : Asks line change) :
    (shell.step history line).next = some (shell.apply change) := by
  rw [step_of_command h.head]
  split
  · rename_i htoggle
    obtain rfl := h.unique (isToggle_iff.1 htoggle)
    rfl
  · rename_i htoggle
    refine next_obey_of_change (change?_ofLine_eq_some_iff.2 ⟨(asks_trimmed line change).2 h, ?_⟩)
    rintro rfl
    exact htoggle (isToggle_iff.2 h)

theorem next_step_of_no_request (hends : ¬ Ends line) (h : ∀ change, ¬ Asks line change) :
    (shell.step history line).next = some shell := by
  by_cases hblank : trim line.toList = []
  · rw [step_of_blank hblank]
  · by_cases hhead : (trim line.toList).head? = some '.'
    · have htoggle : isToggle (trim line.toList) ≠ true := fun ht => h .toggle (isToggle_iff.1 ht)
      rw [step_of_command hhead, if_neg htoggle]
      refine next_obey_of_no_change ?_ ?_
      · rw [ne_eq, ofLine_eq_exit_iff, ends_trimmed]
        exact hends
      · refine Option.eq_none_iff_forall_ne_some.2 fun change hchange => ?_
        exact h change ((asks_trimmed line change).1 (change?_ofLine_eq_some_iff.1 hchange).1)
    · rw [step_of_filter ⟨hblank, hhead⟩]

theorem step_of_ends (h : Ends line) : shell.step history line = ⟨farewell, none⟩ := by
  have htoggle : isToggle (trim line.toList) ≠ true :=
    fun ht => h.not_asks .toggle (isToggle_iff.1 ht)
  rw [step_of_command h.head, if_neg htoggle, ofLine_eq_exit_iff.2 ((ends_trimmed line).2 h)]
  rfl

/-- The shell goes on with the change that a line asks for, or else unchanged. -/
theorem next_cases {output : String} {next : Shell}
    (h : shell.step history line = ⟨output, some next⟩) :
    (∃ change, Asks line change ∧ next = shell.apply change) ∨
      (∀ change, ¬ Asks line change) ∧ next = shell := by
  have hnext : (shell.step history line).next = some next := by rw [h]
  by_cases hasks : ∃ change, Asks line change
  · obtain ⟨change, hasks⟩ := hasks
    rw [next_step_of_asks hasks] at hnext
    exact .inl ⟨change, hasks, (Option.some.inj hnext).symm⟩
  · have hnone := not_exists.1 hasks
    have hends : ¬ Ends line := by
      intro hends
      rw [step_of_ends hends] at hnext
      cases hnext
    rw [next_step_of_no_request hends hnone] at hnext
    exact .inr ⟨hnone, (Option.some.inj hnext).symm⟩

theorem next_eq_of_no_request {output : String} {next : Shell}
    (h : shell.step history line = ⟨output, some next⟩) (hnone : ∀ change, ¬ Asks line change) :
    next = shell := by
  rcases next_cases h with ⟨change, hasks, -⟩ | ⟨-, hnext⟩
  · exact absurd hasks (hnone change)
  · exact hnext

theorem next_step_eq_none_iff (history : History) :
    (shell.step history line).next = none ↔ Ends line := by
  constructor
  · intro h
    by_contra hends
    by_cases hasks : ∃ change, Asks line change
    · obtain ⟨change, hasks⟩ := hasks
      rw [next_step_of_asks hasks] at h
      cases h
    · rw [next_step_of_no_request hends (not_exists.1 hasks)] at h
      cases h
  · intro h
    rw [step_of_ends h]

end Shell

end EntryFilter

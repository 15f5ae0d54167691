import EntryFilter.Pattern.Meaning
import EntryFilter.Proofs.Dictionary.Lookup
import EntryFilter.Proofs.Shell.Request
import Mathlib.Logic.Function.Iterate

/-! # Runs of the shell

A run answers lines one after the other. Its state is told by the accepted commands alone: each
part of it is what the last command for this part has set, and no other line changes anything. So
what a filter shows depends on nothing else, and lines that change nothing may change places. -/

namespace EntryFilter

open EntryFilter.Text

namespace Shell

open Command

/-- The shell answers lines one after the other. Each pair has a line and what is shown for it, and
at each line the history may be another one. -/
inductive Answers [PatternEngine] : Shell → List (String × String) → Shell → Prop where
  | done (shell) : Answers shell [] shell
  | line {shell next last history line output rest} :
      shell.step history line = ⟨output, some next⟩ → Answers next rest last →
      Answers shell ((line, output) :: rest) last

variable {shell last : Shell} {transcript : List (String × String)}

theorem answers_append_iff [PatternEngine] {front back : List (String × String)} :
    Answers shell (front ++ back) last ↔
      ∃ middle, Answers shell front middle ∧ Answers middle back last := by
  constructor
  · intro h
    induction front generalizing shell with
    | nil => exact ⟨shell, .done shell, h⟩
    | cons pair front ih =>
        cases h with
        | line hstep hrest =>
            obtain ⟨middle, hfront, hback⟩ := ih hrest
            exact ⟨middle, .line hstep hfront, hback⟩
  · rintro ⟨middle, hfront, hback⟩
    induction hfront with
    | done => exact hback
    | line hstep _ ih => exact .line hstep (ih hback)

theorem run_cons_of_next [PatternEngine] {history : History} {line : String} {next : Shell}
    (rest : List String) (h : (shell.step history line).next = some next) :
    shell.run history (line :: rest) =
      (shell.step history line).output ++ next.run history rest := by
  rw [run]
  simp only [h]

/-- Lines that do not end the shell are answered, and a run shows these answers. -/
theorem exists_answers [PatternEngine] (shell : Shell) (history : History) {lines : List String}
    (h : ∀ line ∈ lines, ¬ Ends line) :
    ∃ transcript last, transcript.map Prod.fst = lines ∧ Answers shell transcript last ∧
      ∀ rest, shell.run history (lines ++ rest) =
        String.join (transcript.map Prod.snd) ++ last.run history rest := by
  induction lines generalizing shell with
  | nil =>
      refine ⟨[], shell, rfl, .done shell, fun rest => ?_⟩
      simp
  | cons line lines ih =>
      obtain ⟨hline, hlines⟩ := List.forall_mem_cons.1 h
      obtain ⟨next, hnext⟩ :=
        Option.ne_none_iff_exists'.1 (mt (next_step_eq_none_iff history).1 hline)
      obtain ⟨transcript, last, hmap, hanswers, hrun⟩ := ih next hlines
      refine ⟨(line, (shell.step history line).output) :: transcript, last, ?_, ?_, ?_⟩
      · rw [List.map_cons, hmap]
      · have hstep : shell.step history line = ⟨(shell.step history line).output, some next⟩ := by
          rw [← hnext]
        exact .line hstep hanswers
      · intro rest
        rw [List.cons_append, run_cons_of_next _ hnext, hrun rest, List.map_cons,
          String.join_cons, String.append_assoc]

/-! ## Parts of the state -/

variable {α : Type}

/-- The format that a change sets. -/
def Change.format? : Change → Option OutputFormat
  | .format value => some value
  | _ => none

/-- What a change sets strict compilation to. -/
def Change.strict? : Change → Option Bool
  | .strict value => some value
  | _ => none

/-- What a change declares a field to be. -/
def Change.declared? (field : String) : Change → Option (Option FieldType)
  | .declare spec => if spec.field = field then some (some spec.type) else none
  | _ => none

/-- The line asks for a change that sets a part of the state to the value. -/
def Sets (part? : Change → Option α) (line : String) (value : α) : Prop :=
  ∃ change, Asks line change ∧ part? change = some value

/-- The last of the lines that set the part sets it to the value. If no line sets it, this is the
value from before. -/
def LastSet (part? : Change → Option α) (before : α) (lines : List String) (value : α) : Prop :=
  (∃ front line back, lines = front ++ line :: back ∧ Sets part? line value ∧
    ∀ later ∈ back, ∀ other, ¬ Sets part? later other) ∨
  (∀ line ∈ lines, ∀ other, ¬ Sets part? line other) ∧ value = before

variable {part? : Change → Option α} {before value value' : α} {line : String} {lines : List String}

theorem Sets.unique (h : Sets part? line value) (h' : Sets part? line value') : value = value' := by
  obtain ⟨change, hasks, hvalue⟩ := h
  obtain ⟨change', hasks', hvalue'⟩ := h'
  rw [hasks.unique hasks', hvalue'] at hvalue
  exact (Option.some.inj hvalue).symm

theorem lastSet_nil_iff : LastSet part? before [] value ↔ value = before := by
  simp [LastSet]

theorem lastSet_cons_iff : LastSet part? before (line :: lines) value ↔
    (∃ first, Sets part? line first ∧ LastSet part? first lines value) ∨
      (∀ other, ¬ Sets part? line other) ∧ LastSet part? before lines value := by
  constructor
  · rintro (⟨front, setting, back, heq, hsets, hback⟩ | ⟨hnone, rfl⟩)
    · cases front with
      | nil =>
          obtain ⟨rfl, rfl⟩ := List.cons.inj heq
          exact .inl ⟨value, hsets, .inr ⟨hback, rfl⟩⟩
      | cons first front =>
          obtain ⟨rfl, rfl⟩ := List.cons.inj heq
          have hlast {v : α} : LastSet part? v (front ++ setting :: back) value :=
            .inl ⟨front, setting, back, rfl, hsets, hback⟩
          by_cases hline : ∃ first, Sets part? line first
          · obtain ⟨first, hfirst⟩ := hline
            exact .inl ⟨first, hfirst, hlast⟩
          · exact .inr ⟨not_exists.1 hline, hlast⟩
    · obtain ⟨hline, hlines⟩ := List.forall_mem_cons.1 hnone
      exact .inr ⟨hline, .inr ⟨hlines, rfl⟩⟩
  · rintro (⟨first, hfirst, h⟩ | ⟨hline, h⟩)
    · rcases h with ⟨front, setting, back, rfl, hsets, hback⟩ | ⟨hnone, rfl⟩
      · exact .inl ⟨line :: front, setting, back, rfl, hsets, hback⟩
      · exact .inl ⟨[], line, lines, rfl, hfirst, hnone⟩
    · rcases h with ⟨front, setting, back, rfl, hsets, hback⟩ | ⟨hnone, rfl⟩
      · exact .inl ⟨line :: front, setting, back, rfl, hsets, hback⟩
      · exact .inr ⟨List.forall_mem_cons.2 ⟨hline, hnone⟩, rfl⟩

theorem LastSet.unique (h : LastSet part? before lines value)
    (h' : LastSet part? before lines value') : value = value' := by
  induction lines generalizing before with
  | nil => rw [lastSet_nil_iff.1 h, lastSet_nil_iff.1 h']
  | cons line lines ih =>
      rcases lastSet_cons_iff.1 h with ⟨first, hfirst, h⟩ | ⟨hnone, h⟩
      · rcases lastSet_cons_iff.1 h' with ⟨first', hfirst', h'⟩ | ⟨hnone, -⟩
        · obtain rfl := hfirst.unique hfirst'
          exact ih h h'
        · exact absurd hfirst (hnone first)
      · rcases lastSet_cons_iff.1 h' with ⟨first', hfirst', -⟩ | ⟨-, h'⟩
        · exact absurd hfirst' (hnone first')
        · exact ih h h'

/-- A part of the state is what the last change of this part has made of it. -/
theorem Answers.lastSet [PatternEngine] (part : Shell → α)
    (hpart : ∀ shell change, part (shell.apply change) = (part? change).getD (part shell))
    (h : Answers shell transcript last) :
    LastSet part? (part shell) (transcript.map Prod.fst) (part last) := by
  induction h with
  | done => exact lastSet_nil_iff.2 rfl
  | @line _ _ _ _ line _ _ hstep _ ih =>
      refine lastSet_cons_iff.2 ?_
      rcases next_cases hstep with ⟨change, hchange, rfl⟩ | ⟨hnone, rfl⟩
      · rw [hpart] at ih
        cases hvalue : part? change with
        | some value =>
            rw [hvalue] at ih
            exact .inl ⟨value, ⟨change, hchange, hvalue⟩, ih⟩
        | none =>
            rw [hvalue] at ih
            refine .inr ⟨?_, ih⟩
            rintro other ⟨change', hchange', hvalue'⟩
            rw [hchange'.unique hchange, hvalue] at hvalue'
            cases hvalue'
      · refine .inr ⟨?_, ih⟩
        rintro other ⟨change, hchange, -⟩
        exact hnone change hchange

/-- A part that no change concerns stays as it is. -/
theorem Answers.part_eq [PatternEngine] (part : Shell → α)
    (hpart : ∀ shell change, part (shell.apply change) = part shell)
    (h : Answers shell transcript last) : part last = part shell := by
  induction h with
  | done => rfl
  | line hstep _ ih =>
      rw [ih]
      rcases next_cases hstep with ⟨change, -, rfl⟩ | ⟨-, rfl⟩
      · exact hpart _ change
      · rfl

theorem get?_apply (shell : Shell) (change : Change) (field : String) :
    (shell.apply change).session.schema.get? field =
      (change.declared? field).getD (shell.session.schema.get? field) := by
  cases change with
  | declare spec =>
      change (shell.session.schema.insert spec.field spec.type).get? field = _
      rw [Dictionary.get?_insert, Change.declared?]
      by_cases hfield : field = spec.field
      · simp [hfield]
      · simp [hfield, Ne.symm hfield]
  | _ => rfl

instance (line : String) : Decidable (Asks line .toggle) := inferInstanceAs (Decidable (_ ∧ _))

theorem validateOnly_of_step [PatternEngine] {history : History} {output : String} {next : Shell}
    (h : shell.step history line = ⟨output, some next⟩) : next.validateOnly =
      if Asks line .toggle then !shell.validateOnly else shell.validateOnly := by
  rcases next_cases h with ⟨change, hasks, rfl⟩ | ⟨hnone, rfl⟩
  · by_cases htoggle : Asks line .toggle
    · obtain rfl := hasks.unique htoggle
      rw [if_pos htoggle]
      rfl
    · rw [if_neg htoggle]
      cases change with
      | toggle => exact absurd hasks htoggle
      | _ => rfl
  · rw [if_neg (hnone .toggle)]

theorem Answers.validateOnly_eq [PatternEngine] (h : Answers shell transcript last) :
    last.validateOnly = Bool.not^[(transcript.map Prod.fst).countP (Asks · .toggle)]
      shell.validateOnly := by
  induction h with
  | done => rfl
  | @line _ _ _ _ line _ _ hstep _ ih =>
      rw [ih, validateOnly_of_step hstep, List.map_cons, List.countP_cons]
      by_cases htoggle : Asks line .toggle <;> simp [htoggle]

/-- What lines make of the state: entries and limits stay, and every other part follows its own
commands. -/
structure Follows (shell : Shell) (lines : List String) (last : Shell) : Prop where
  entries : last.session.entries = shell.session.entries
  limits : last.session.settings.limits = shell.session.settings.limits
  format : LastSet Change.format? shell.format lines last.format
  strict : LastSet Change.strict? shell.session.settings.strict lines last.session.settings.strict
  /-- Each time it is asked for, validation is switched on or off. -/
  validateOnly : last.validateOnly = Bool.not^[lines.countP (Asks · .toggle)] shell.validateOnly
  /-- Each field has the type that was declared last, or the one from before. -/
  schema : ∀ field, LastSet (Change.declared? field) (shell.session.schema.get? field) lines
    (last.session.schema.get? field)

theorem Answers.follows [PatternEngine] (h : Answers shell transcript last) :
    Follows shell (transcript.map Prod.fst) last where
  entries := h.part_eq (fun shell => shell.session.entries) fun shell change => by
    cases change <;> rfl
  limits := h.part_eq (fun shell => shell.session.settings.limits) fun shell change => by
    cases change <;> rfl
  format := h.lastSet Shell.format fun shell change => by cases change <;> rfl
  strict := h.lastSet (fun shell => shell.session.settings.strict) fun shell change => by
    cases change <;> rfl
  validateOnly := h.validateOnly_eq
  schema field := h.lastSet (fun shell => shell.session.schema.get? field) fun shell change =>
    get?_apply shell change field

/-- Nothing else is left open about the state. -/
theorem Follows.unique {state : Shell} (h : Follows shell lines state)
    (h' : Follows shell lines last) : state = last := by
  have hentries := h.entries.trans h'.entries.symm
  have hlimits := h.limits.trans h'.limits.symm
  have hformat := h.format.unique h'.format
  have hstrict := h.strict.unique h'.strict
  have hvalidate := h.validateOnly.trans h'.validateOnly.symm
  have hschema : state.session.schema = last.session.schema :=
    Dictionary.ext_get? fun field => (h.schema field).unique (h'.schema field)
  obtain ⟨⟨schema, entries, ⟨limits, strict⟩⟩, format, validateOnly⟩ := state
  obtain ⟨⟨schema', entries', ⟨limits', strict'⟩⟩, format', validateOnly'⟩ := last
  dsimp only at hformat hstrict hschema hentries hlimits hvalidate
  rw [hformat, hstrict, hschema, hentries, hlimits, hvalidate]

/-! ## Lines that change nothing -/

/-- Lines that ask for nothing are answered each for itself, in the state that stays as it is. -/
theorem answers_idle_iff [PatternEngine] (h : ∀ pair ∈ transcript, ∀ change, ¬ Asks pair.1 change) :
    Answers shell transcript last ↔ last = shell ∧
      ∀ pair ∈ transcript, ∃ history, shell.step history pair.1 = ⟨pair.2, some shell⟩ := by
  induction transcript with
  | nil =>
      constructor
      · intro hanswers
        cases hanswers
        exact ⟨rfl, nofun⟩
      · rintro ⟨rfl, -⟩
        exact .done _
  | cons pair transcript ih =>
      obtain ⟨hpair, hrest⟩ := List.forall_mem_cons.1 h
      rw [List.forall_mem_cons]
      constructor
      · intro hanswers
        cases hanswers with
        | @line _ next _ history line output _ hstep hback =>
            obtain rfl := next_eq_of_no_request hstep hpair
            obtain ⟨rfl, hall⟩ := (ih hrest).1 hback
            exact ⟨rfl, ⟨history, hstep⟩, hall⟩
      · rintro ⟨rfl, ⟨history, hstep⟩, hall⟩
        exact .line hstep ((ih hrest).2 ⟨rfl, hall⟩)

theorem answers_perm [PatternEngine] {block block' : List (String × String)}
    (hperm : block'.Perm block) (h : ∀ pair ∈ block, ∀ change, ¬ Asks pair.1 change)
    (hanswers : Answers shell block last) : Answers shell block' last := by
  obtain ⟨rfl, hall⟩ := (answers_idle_iff h).1 hanswers
  have h' : ∀ pair ∈ block', ∀ change, ¬ Asks pair.1 change :=
    fun pair hpair => h pair (hperm.mem_iff.1 hpair)
  exact (answers_idle_iff h').2 ⟨rfl, fun pair hpair => hall pair (hperm.mem_iff.1 hpair)⟩

/-- What is shown for a line is what the state before it tells. -/
theorem Answers.at_line [PatternEngine] {front back : List (String × String)} {line output : String}
    (h : Answers shell (front ++ (line, output) :: back) last) :
    ∃ before after, Answers shell front before ∧ Answers after back last ∧
      ((∀ change, ¬ Asks line change) → after = before) ∧
      (IsFilterLine line → output = before.shown line) := by
  obtain ⟨before, hfront, hrest⟩ := answers_append_iff.1 h
  cases hrest with
  | @line _ after _ history _ _ _ hstep hback =>
      refine ⟨before, after, hfront, hback, ?_, ?_⟩
      · intro hnone
        exact next_eq_of_no_request hstep hnone
      · intro hfilter
        rw [step_of_filter hfilter] at hstep
        exact (congrArg Reaction.output hstep).symm

/-! ## Runs -/

/-- The shell changes only what commands name. It ends at an exit command and answers all lines
before one. A line that asks for no change leaves the state as it is, and behind any lines the state
is the one they tell. A filter shows what the line and the state tell, so lines that ask for no
change may change places with what is shown for them. -/
theorem run_follows_commands [PatternEngine] (shell : Shell) :
    (∀ history line, Ends line → shell.step history line = ⟨farewell, none⟩) ∧
    (∀ history line, ¬ Ends line → (∀ change, ¬ Asks line change) →
      (shell.step history line).next = some shell) ∧
    (∀ history line, IsFilterLine line → ¬ Ends line ∧ (∀ change, ¬ Asks line change) ∧
      (shell.step history line).output = shell.shown line) ∧
    (∀ history lines, (∀ line ∈ lines, ¬ Ends line) →
      ∃ transcript last, transcript.map Prod.fst = lines ∧ Answers shell transcript last ∧
        ∀ rest, shell.run history (lines ++ rest) =
          String.join (transcript.map Prod.snd) ++ last.run history rest) ∧
    ∀ transcript last, Answers shell transcript last →
      (∀ state, Follows shell (transcript.map Prod.fst) state ↔ state = last) ∧
      (∀ front line output back, transcript = front ++ (line, output) :: back →
        ∃ before after, Answers shell front before ∧ Answers after back last ∧
          ((∀ change, ¬ Asks line change) → after = before) ∧
          (IsFilterLine line → output = before.shown line)) ∧
      ∀ front block block' back, transcript = front ++ (block ++ back) →
        (∀ pair ∈ block, ∀ change, ¬ Asks pair.1 change) → block'.Perm block →
        Answers shell (front ++ (block' ++ back)) last := by
  refine ⟨?_, ?_, ?_, ?_, ?_⟩
  · intro history line hends
    exact step_of_ends hends
  · intro history line hends hnone
    exact next_step_of_no_request hends hnone
  · intro history line hfilter
    refine ⟨hfilter.not_ends, hfilter.not_asks, ?_⟩
    rw [step_of_filter hfilter]
  · intro history lines hends
    exact exists_answers shell history hends
  · intro transcript last hanswers
    refine ⟨?_, ?_, ?_⟩
    · intro state
      constructor
      · intro hfollows
        exact hfollows.unique hanswers.follows
      · rintro rfl
        exact hanswers.follows
    · intro front line output back heq
      rw [heq] at hanswers
      exact hanswers.at_line
    · intro front block block' back heq hidle hperm
      rw [heq] at hanswers
      obtain ⟨before, hfront, hrest⟩ := answers_append_iff.1 hanswers
      obtain ⟨after, hblock, hback⟩ := answers_append_iff.1 hrest
      have hblock' := answers_perm hperm hidle hblock
      exact answers_append_iff.2 ⟨before, hfront, answers_append_iff.2 ⟨after, hblock', hback⟩⟩

theorem run_follows_commands_of_four_lines :
    (∀ line ∈ [".format JSON", "a is null", ".types", ".VALIDATE "], ¬ Ends line) ∧
    ∃ transcript last,
      transcript.map Prod.fst = [".format JSON", "a is null", ".types", ".VALIDATE "] ∧
      Answers ⟨⟨.empty, none, .standard⟩, .table, false⟩ transcript last ∧
      last.format = .json ∧ last.validateOnly = true := by
  have hends : ∀ line ∈ [".format JSON", "a is null", ".types", ".VALIDATE "], ¬ Ends line := by
    unfold Ends
    decide
  obtain ⟨-, -, -, hlines, hstate⟩ :=
    run_follows_commands ⟨⟨.empty, none, .standard⟩, .table, false⟩
  obtain ⟨transcript, last, hmap, hanswers, -⟩ := hlines [] _ hends
  have hfollows := ((hstate transcript last hanswers).1 last).2 rfl
  rw [hmap] at hfollows
  have hjson : LastSet Change.format? .table
      [".format JSON", "a is null", ".types", ".VALIDATE "] .json := by
    have hasks : Asks ".format JSON" (.format .json) := by
      unfold Asks
      decide
    refine .inl ⟨[], ".format JSON", _, rfl, ⟨_, hasks, rfl⟩, ?_⟩
    rintro later hlater format ⟨change, hlast, hformat⟩
    cases change with
    | format value =>
        have hword : ∀ line ∈ ["a is null", ".types", ".VALIDATE "],
            ¬ Says (word line) ".format" := by decide
        exact hword later hlater hlast.1
    | _ => cases hformat
  refine ⟨hends, transcript, last, hmap, hanswers, hfollows.format.unique hjson, ?_⟩
  rw [hfollows.validateOnly]
  decide

end Shell

end EntryFilter

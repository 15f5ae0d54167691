import EntryFilter.Proofs.Text.Cutting
import EntryFilter.Proofs.Text.LowerCase
import EntryFilter.Proofs.Text.Trimming
import EntryFilter.Shell.Completion

/-! # What completion replaces

The text before the cursor is cut at a byte offset, and what stands behind the cut is replaced by a
candidate. For a command the offset is the number of bytes that trimming takes away, at both ends,
so it is right if there is no blank behind the command. For a word it lies one byte behind the last
separator, so it is right if that separator is one byte long. In every other line the cut misses
what is typed. -/

namespace EntryFilter

open EntryFilter.Text

variable {cs front word before after : List Char} {c : Char}

/-! ## Offsets -/

theorem cutAt?_cons_succ (c : Char) (rest : List Char) (n : Nat) :
    cutAt? (c :: rest) (n + 1) = if n + 1 < c.utf8Size then none
      else (cutAt? rest (n + 1 - c.utf8Size)).map fun cut => (c :: cut.1, cut.2) := rfl

theorem cutAt?_eq_some {offset : Nat} (h : cutAt? cs offset = some (before, after)) :
    cs = before ++ after ∧ byteLength before = offset := by
  induction cs generalizing offset before with
  | nil =>
      cases offset with
      | zero =>
          obtain ⟨rfl, rfl⟩ := Prod.mk.inj (Option.some.inj h)
          exact ⟨rfl, rfl⟩
      | succ n => cases h
  | cons c cs ih =>
      cases offset with
      | zero =>
          obtain ⟨rfl, rfl⟩ := Prod.mk.inj (Option.some.inj h)
          exact ⟨rfl, rfl⟩
      | succ n =>
          rw [cutAt?_cons_succ] at h
          by_cases hsmall : n + 1 < c.utf8Size
          · rw [if_pos hsmall] at h
            cases h
          · rw [if_neg hsmall] at h
            obtain ⟨⟨rest, after'⟩, hcut, hparts⟩ := Option.map_eq_some_iff.1 h
            obtain ⟨rfl, rfl⟩ := Prod.mk.inj hparts
            obtain ⟨rfl, hlength⟩ := ih hcut
            refine ⟨rfl, ?_⟩
            rw [byteLength_cons, hlength]
            omega

/-- No offset inside a character cuts the text. -/
theorem cutAt?_within {n : Nat} (h : n + 1 < c.utf8Size) (front rest : List Char) :
    cutAt? (front ++ c :: rest) (byteLength front + (n + 1)) = none := by
  induction front with
  | nil => rw [List.nil_append, byteLength_nil, Nat.zero_add, cutAt?_cons_succ, if_pos h]
  | cons d front ih =>
      have hlarge : ¬ d.utf8Size + byteLength front + n + 1 < d.utf8Size := by omega
      have hrest : d.utf8Size + byteLength front + n + 1 - d.utf8Size =
          byteLength front + (n + 1) := by omega
      rw [List.cons_append, byteLength_cons, ← Nat.add_assoc, cutAt?_cons_succ, if_neg hlarge,
        hrest, ih]
      rfl

/-- Within a line, offsets up to the cursor are offsets of the text before the cursor. -/
theorem slice?_of_cutAt? {line : List Char} {cursor : Nat}
    (h : cutAt? line cursor = some (before, after)) (start : Nat) :
    slice? line start cursor = (cutAt? before start).map Prod.snd := by
  rw [slice?, h]

namespace Completion

/-! ## What is typed -/

/-- What is being typed in front of the cursor: a command, or the last word. -/
def typed (before : List Char) : List Char :=
  if isCommandStart before then trimStart before
  else before.rtakeWhile fun c => !isSeparator c

/-- A command with a blank behind it. -/
def EndsInBlank (before : List Char) : Prop :=
  isCommandStart before = true ∧ ∃ b ∈ before.getLast?, isBlank b = true

/-- A word behind a separator of several bytes. -/
def FollowsWide (before : List Char) : Prop :=
  isCommandStart before = false ∧ ∃ c ∈ before.reverse.find? isSeparator, 1 < c.utf8Size

/-- The name may complete what is typed: a command that begins with it, or a field or keyword that
begins with it in some letter case. -/
inductive Offers (fields : List String) (before : List Char) (name : String) : Prop where
  | command : isCommandStart before = true → name ∈ commands → typed before <+: name.toList →
      Offers fields before name
  | word : isCommandStart before = false → typed before ≠ [] → name ∈ fields ++ keywords →
      lower (typed before) <+: lower name.toList → Offers fields before name

/-- What every completion ought to be: it replaces what is typed, and each candidate goes on from
there in some letter case. -/
structure Replaces (completion : Completion) (line : List Char) (cursor : Nat)
    (typed : List Char) : Prop where
  start_le : completion.start ≤ cursor
  slice_eq : slice? line completion.start cursor = some typed
  begins : ∀ candidate ∈ completion.candidates, lower typed <+: lower candidate.toList

/-! ## The last separator -/

theorem lastSeparator?_eq_none (h : ∀ d ∈ cs, isSeparator d = false) (offset : Nat) :
    lastSeparator? offset cs = none := by
  induction cs generalizing offset with
  | nil => rfl
  | cons d cs ih =>
      obtain ⟨hd, hcs⟩ := List.forall_mem_cons.1 h
      rw [lastSeparator?, ih hcs]
      simp [hd]

theorem lastSeparator?_append (hc : isSeparator c = true)
    (hword : ∀ d ∈ word, isSeparator d = false) (offset : Nat) (front : List Char) :
    lastSeparator? offset (front ++ c :: word) = some (offset + byteLength front) := by
  induction front generalizing offset with
  | nil =>
      rw [List.nil_append, lastSeparator?, lastSeparator?_eq_none hword]
      exact if_pos hc
  | cons d front ih =>
      rw [List.cons_append, lastSeparator?, ih, byteLength_cons, Nat.add_assoc]

theorem find?_reverse_append (hc : isSeparator c = true)
    (hword : ∀ d ∈ word, isSeparator d = false) (front : List Char) :
    (front ++ c :: word).reverse.find? isSeparator = some c := by
  have hnone : word.reverse.find? isSeparator = none := by
    refine List.find?_eq_none.2 fun d hd => ?_
    simp [hword d (List.mem_reverse.1 hd)]
  rw [List.reverse_append, List.reverse_cons, List.append_assoc, List.find?_append, hnone]
  simp [hc]

theorem typed_of_separator (hcommand : isCommandStart (front ++ c :: word) = false)
    (hc : isSeparator c = true) (hword : ∀ d ∈ word, isSeparator d = false) :
    typed (front ++ c :: word) = word := by
  have hreverse : ∀ d ∈ word.reverse, (!isSeparator d) = true := by
    intro d hd
    simp [hword d (List.mem_reverse.1 hd)]
  rw [typed, hcommand, if_neg Bool.false_ne_true, List.rtakeWhile, List.reverse_append,
    List.reverse_cons, List.append_assoc, List.takeWhile_append_of_pos hreverse]
  simp [hc]

theorem typed_of_no_separator (hcommand : isCommandStart cs = false)
    (h : ∀ d ∈ cs, isSeparator d = false) : typed cs = cs := by
  rw [typed, hcommand, if_neg Bool.false_ne_true, List.rtakeWhile_eq_self_iff]
  intro d hd
  simp [h d hd]

/-! ## Words -/

theorem lower_keywords : ∀ k ∈ keywords, lower k.toList = k.toList := by
  have hchecked : ∀ k ∈ keywords, k.toList.all (fun d => decide (d.toNat < 128)) = true ∧
      k.toList.map Char.toLower = k.toList := by
    decide +kernel
  intro k hk
  obtain ⟨hascii, hlower⟩ := hchecked k hk
  rw [lower, lowerAfter_of_ascii (forall_mem_of_all hascii), hlower]

/-- The candidates of a word are the fields and keywords that begin with it in some letter case. -/
theorem mem_ofWord_iff {fields : List String} {start : Nat} {name : String} :
    name ∈ (ofWord fields start word).candidates ↔
      word ≠ [] ∧ name ∈ fields ++ keywords ∧ lower word <+: lower name.toList := by
  by_cases hempty : word = []
  · subst hempty
    simp [ofWord, lower, lowerAfter]
  · have hlower : ¬ (lower word).isEmpty = true := fun h =>
      hempty (lower_eq_nil_iff.1 (List.isEmpty_iff.1 h))
    rw [ofWord, if_neg hlower]
    simp only [List.mem_append, List.mem_filter, beginsWith, after?_isSome_iff]
    constructor
    · rintro (⟨hfield, hbegins⟩ | ⟨hkeyword, hbegins⟩)
      · exact ⟨hempty, .inl hfield, hbegins⟩
      · rw [lower_keywords name hkeyword]
        exact ⟨hempty, .inr hkeyword, hbegins⟩
    · rintro ⟨-, hfield | hkeyword, hbegins⟩
      · exact .inl ⟨hfield, hbegins⟩
      · rw [lower_keywords name hkeyword] at hbegins
        exact .inr ⟨hkeyword, hbegins⟩

theorem start_ofWord (fields : List String) (start : Nat) (word : List Char) :
    (ofWord fields start word).start = start := by
  rw [ofWord]
  split <;> rfl

/-- A word behind a cut of the text is replaced. -/
theorem replaces_ofWord {line : List Char} {cursor : Nat}
    (h : cutAt? line cursor = some (front ++ word, after)) (fields : List String) :
    (ofWord fields (byteLength front) word).Replaces line cursor word := by
  obtain ⟨-, hcursor⟩ := cutAt?_eq_some h
  rw [byteLength_append] at hcursor
  refine ⟨?_, ?_, ?_⟩
  · rw [start_ofWord]
    omega
  · rw [start_ofWord, slice?_of_cutAt? h, cutAt_append]
    rfl
  · intro candidate hmem
    exact (mem_ofWord_iff.1 hmem).2.2

/-- If the last separator is one byte long, the last word is replaced. -/
theorem replaces_of_word {line : List Char} {cursor : Nat}
    (h : cutAt? line cursor = some (before, after)) (hcommand : isCommandStart before = false)
    (hnarrow : ¬ FollowsWide before) (fields : List String) :
    ∃ start, ofLine? fields before = some (ofWord fields start (typed before)) ∧
      (ofWord fields start (typed before)).Replaces line cursor (typed before) := by
  rw [ofLine?, hcommand, if_neg Bool.false_ne_true]
  rcases exists_last isSeparator before with hnone | ⟨front, c, word, rfl, hc, hword⟩
  · have hwhole : cutAt? line cursor = some ([] ++ before, after) := h
    rw [typed_of_no_separator hcommand hnone]
    refine ⟨0, ?_, replaces_ofWord hwhole fields⟩
    rw [wordStart, lastSeparator?_eq_none hnone]
    cases before <;> rfl
  · have hsize : c.utf8Size = 1 := by
      by_contra hne
      have hpos := c.utf8Size_pos
      exact hnarrow ⟨hcommand, c, find?_reverse_append hc hword front, by omega⟩
    have hstart : wordStart (front ++ c :: word) = byteLength (front ++ [c]) := by
      rw [wordStart, lastSeparator?_append hc hword]
      simp [hsize]
    have hsplit : front ++ c :: word = (front ++ [c]) ++ word := by simp
    rw [typed_of_separator hcommand hc hword]
    refine ⟨byteLength (front ++ [c]), ?_, ?_⟩
    · simp only [hstart]
      rw [hsplit, cutAt_append]
      rfl
    · rw [hsplit] at h
      exact replaces_ofWord h fields

/-- The candidates for a word are those that may complete it. -/
theorem mem_ofWord_iff_offers {fields : List String} {start : Nat} {name : String}
    (hcommand : isCommandStart before = false) :
    name ∈ (ofWord fields start (typed before)).candidates ↔ Offers fields before name := by
  rw [mem_ofWord_iff]
  constructor
  · rintro ⟨hne, hname, hbegins⟩
    exact .word hcommand hne hname hbegins
  · intro h
    cases h with
    | command hstart =>
        rw [hcommand] at hstart
        cases hstart
    | word _ hne hname hbegins => exact ⟨hne, hname, hbegins⟩

/-- If the last separator is longer, the offset behind its first byte cuts nothing. -/
theorem ofLine?_of_wide (h : FollowsWide before) (fields : List String) :
    ofLine? fields before = none := by
  obtain ⟨hcommand, c, hfind, hwide⟩ := h
  rcases exists_last isSeparator before with hnone | ⟨front, d, word, rfl, hd, hword⟩
  · have hmem := List.mem_reverse.1 (List.mem_of_find?_eq_some hfind)
    have hsep := List.find?_some hfind
    rw [hnone c hmem] at hsep
    cases hsep
  · rw [find?_reverse_append hd hword] at hfind
    obtain rfl := Option.some.inj hfind
    have hcut := cutAt?_within (n := 0) hwide front word
    rw [ofLine?, hcommand, if_neg Bool.false_ne_true, wordStart,
      lastSeparator?_append hd hword, Nat.zero_add]
    simp only [hcut, Option.map_none]

/-! ## Commands -/

theorem commands_ascii : ∀ command ∈ commands, ∀ d ∈ command.toList, d.toNat < 128 := by
  have hchecked : ∀ command ∈ commands,
      command.toList.all (fun d => decide (d.toNat < 128)) = true := by
    decide +kernel
  intro command hmem
  exact forall_mem_of_all (hchecked command hmem)

theorem commands_plain : ∀ command ∈ commands, ∀ d ∈ lower command.toList,
    IsPlainAscii d ∧ isBlank d = false := by
  have hchecked : ∀ command ∈ commands, (command.toList.map Char.toLower).all
      (fun d => decide (IsPlainAscii d ∧ isBlank d = false)) = true := by
    decide +kernel
  intro command hmem
  rw [lower, lowerAfter_of_ascii (commands_ascii command hmem)]
  exact forall_mem_of_all (hchecked command hmem)

theorem mem_ofCommand_iff {name : String} :
    name ∈ (ofCommand before).candidates ↔ name ∈ commands ∧ trim before <+: name.toList := by
  simp only [ofCommand, List.mem_filter, beginsWith, after?_isSome_iff]

/-- The beginning of a command stays its beginning in lower case. -/
theorem lower_prefix_of_command {command : String} (hmem : command ∈ commands)
    (h : cs <+: command.toList) : lower cs <+: lower command.toList := by
  have hascii := commands_ascii command hmem
  have hbeginning : ∀ d ∈ cs, d.toNat < 128 := fun d hd => hascii d (h.subset hd)
  rw [lower, lower, lowerAfter_of_ascii hascii, lowerAfter_of_ascii hbeginning]
  exact h.map Char.toLower

/-- Nothing with a blank in it is the beginning of a command, in any letter case. -/
theorem not_begins_of_blank {command : String} {b : Char} (hmem : command ∈ commands)
    (hb : b ∈ cs) (hblank : isBlank b = true) : ¬ lower cs <+: lower command.toList := by
  intro hbegins
  have hplain : ∀ d ∈ lower cs, IsPlainAscii d ∧ isBlank d = false := fun d hd =>
    commands_plain command hmem d (hbegins.subset hd)
  have hascii := ascii_of_lowerAfter fun d hd => (hplain d hd).1
  have hkeeps : ∀ n < 128, isBlank (Char.ofNat n) = true →
      isBlank (Char.ofNat n).toLower = true := by
    decide +kernel
  have hlower : isBlank b.toLower = true :=
    of_ascii (fun c => isBlank c = true → isBlank c.toLower = true) hkeeps (hascii b hb) hblank
  have hinside : b.toLower ∈ lower cs := by
    rw [lower, lowerAfter_of_ascii hascii]
    exact List.mem_map_of_mem hb
  rw [(hplain _ hinside).2] at hlower
  cases hlower

theorem typed_eq_trim (hcommand : isCommandStart before = true) (hend : ¬ EndsInBlank before) :
    typed before = trim before := by
  rw [typed, hcommand, if_pos rfl, trim_eq_trimStart fun hblank => hend ⟨hcommand, hblank⟩]

/-- Without a blank behind it, the command is replaced. -/
theorem replaces_ofCommand {line : List Char} {cursor : Nat}
    (h : cutAt? line cursor = some (before, after)) (hcommand : isCommandStart before = true)
    (hend : ¬ EndsInBlank before) :
    (ofCommand before).Replaces line cursor (typed before) := by
  have htrim : trim before = trimStart before :=
    trim_eq_trimStart fun hblank => hend ⟨hcommand, hblank⟩
  have hsplit : before.takeWhile isBlank ++ trimStart before = before :=
    List.takeWhile_append_dropWhile
  have hlength := congrArg byteLength hsplit
  rw [byteLength_append] at hlength
  obtain ⟨-, hcursor⟩ := cutAt?_eq_some h
  have hstart : (ofCommand before).start = byteLength (before.takeWhile isBlank) := by
    change byteLength before - byteLength (trim before) = _
    rw [htrim]
    omega
  rw [typed_eq_trim hcommand hend]
  refine ⟨by omega, ?_, ?_⟩
  · have hcut := cutAt_append (before.takeWhile isBlank) (trimStart before)
    rw [hsplit] at hcut
    rw [slice?_of_cutAt? h, hstart, hcut, htrim]
    rfl
  · intro candidate hcandidate
    obtain ⟨hmem, hbegins⟩ := mem_ofCommand_iff.1 hcandidate
    exact lower_prefix_of_command hmem hbegins

/-- The candidates for a command are those that may complete it. -/
theorem mem_ofCommand_iff_offers {fields : List String} {name : String}
    (hcommand : isCommandStart before = true) (hend : ¬ EndsInBlank before) :
    name ∈ (ofCommand before).candidates ↔ Offers fields before name := by
  rw [mem_ofCommand_iff, ← typed_eq_trim hcommand hend]
  constructor
  · rintro ⟨hmem, hbegins⟩
    exact .command hcommand hmem hbegins
  · intro h
    cases h with
    | command _ hmem hbegins => exact ⟨hmem, hbegins⟩
    | word hstart =>
        rw [hcommand] at hstart
        cases hstart

theorem byteLength_trim_pos (h : isCommandStart before = true) :
    0 < byteLength (trim before) := by
  rw [isCommandStart, Bool.and_eq_true, beq_iff_eq, ← head?_trim] at h
  cases htrim : trim before with
  | nil =>
      rw [htrim] at h
      cases h.1
  | cons c rest =>
      have hpos := c.utf8Size_pos
      rw [byteLength_cons]
      omega

/-- With a blank behind it, what is replaced has that blank in it. -/
theorem blank_of_slice {line text : List Char} {cursor : Nat}
    (h : cutAt? line cursor = some (before, after)) (hend : EndsInBlank before)
    (hslice : slice? line (ofCommand before).start cursor = some text) :
    ∃ b ∈ text, isBlank b = true := by
  obtain ⟨hcommand, b, hlast, hblank⟩ := hend
  rw [slice?_of_cutAt? h] at hslice
  obtain ⟨⟨front, back⟩, hcut, rfl⟩ := Option.map_eq_some_iff.1 hslice
  obtain ⟨hsplit, hfront⟩ := cutAt?_eq_some hcut
  change byteLength front = byteLength before - byteLength (trim before) at hfront
  have hpos := byteLength_trim_pos hcommand
  have hle := byteLength_trim_le before
  have hne : back ≠ [] := by
    rintro rfl
    rw [List.append_nil] at hsplit
    rw [hsplit] at hfront hpos hle
    omega
  rw [hsplit, List.getLast?_append_of_ne_nil _ hne] at hlast
  exact ⟨b, List.mem_of_getLast? hlast, hblank⟩

/-! ## The whole line -/

theorem at?_of_cut {fields : List String} {line : String} {cursor : Nat}
    (h : cutAt? line.toList cursor = some (before, after)) :
    at? fields line cursor = ofLine? fields before := by
  rw [at?, h]

end Completion

/-- At every place of a line that falls between two characters, completion replaces what is typed
by all names that go on from there, but for two kinds of lines. With a blank behind a command, what
is replaced is the beginning of no candidate in any letter case. Behind a separator of several bytes
there is no completion, as its offset falls inside the separator. -/
theorem completion_replaces_typed {fields : List String} {line : String} {cursor : Nat}
    (h : cutAt? line.toList cursor = some (before, after)) :
    (¬ Completion.EndsInBlank before → ¬ Completion.FollowsWide before →
      ∃ completion, Completion.at? fields line cursor = some completion ∧
        completion.Replaces line.toList cursor (Completion.typed before) ∧
        ∀ name, name ∈ completion.candidates ↔ Completion.Offers fields before name) ∧
    (Completion.EndsInBlank before →
      ∃ completion, Completion.at? fields line cursor = some completion ∧
        ∀ text, slice? line.toList completion.start cursor = some text →
          ∀ candidate ∈ completion.candidates, ¬ lower text <+: lower candidate.toList) ∧
    (Completion.FollowsWide before → Completion.at? fields line cursor = none) := by
  rw [Completion.at?_of_cut h]
  refine ⟨?_, ?_, ?_⟩
  · intro hend hnarrow
    cases hcommand : Completion.isCommandStart before with
    | true =>
        refine ⟨Completion.ofCommand before, ?_, Completion.replaces_ofCommand h hcommand hend,
          fun name => Completion.mem_ofCommand_iff_offers hcommand hend⟩
        rw [Completion.ofLine?, hcommand, if_pos rfl]
    | false =>
        obtain ⟨start, hline, hreplaces⟩ := Completion.replaces_of_word h hcommand hnarrow fields
        exact ⟨_, hline, hreplaces, fun name => Completion.mem_ofWord_iff_offers hcommand⟩
  · intro hend
    refine ⟨Completion.ofCommand before, ?_, ?_⟩
    · rw [Completion.ofLine?, hend.1, if_pos rfl]
    · intro text hslice candidate hcandidate
      obtain ⟨hmem, -⟩ := Completion.mem_ofCommand_iff.1 hcandidate
      obtain ⟨b, hb, hblank⟩ := Completion.blank_of_slice h hend hslice
      exact Completion.not_begins_of_blank hmem hb hblank
  · intro hwide
    exact Completion.ofLine?_of_wide hwide fields

theorem completion_replaces_typed_of_keyword :
    cutAt? "(name CON".toList 9 = some ("(name CON".toList, []) ∧
      ∃ completion, Completion.at? ["name"] "(name CON" 9 = some completion ∧
        completion.Replaces "(name CON".toList 9 "CON".toList ∧
        ∀ name, name ∈ completion.candidates ↔
          Completion.Offers ["name"] "(name CON".toList name := by
  have hcut : cutAt? "(name CON".toList 9 = some ("(name CON".toList, []) := by decide +kernel
  have htyped : Completion.typed "(name CON".toList = "CON".toList := by decide +kernel
  have hcommand : Completion.isCommandStart "(name CON".toList = false := by decide +kernel
  have hlast : "(name CON".toList.reverse.find? Completion.isSeparator = some ' ' := by
    decide +kernel
  refine ⟨hcut, ?_⟩
  rw [← htyped]
  refine (completion_replaces_typed hcut).1 ?_ ?_
  · intro hend
    exact absurd hend.1 (Bool.eq_false_iff.1 hcommand)
  · rintro ⟨-, c, hc, hwide⟩
    rw [hlast] at hc
    obtain rfl := Option.some.inj hc
    exact absurd hwide (by decide)

/-- Behind a command and a blank, the offset cuts off the blank's length at the front. -/
theorem completion_of_blank_end : ∃ completion, Completion.at? [] ".ty " 4 = some completion ∧
    completion.candidates = [".types", ".type"] ∧
      slice? ".ty ".toList completion.start 4 = some "ty ".toList ∧
        ¬ lower "ty ".toList <+: lower ".type".toList := by
  refine ⟨Completion.ofCommand ".ty ".toList, rfl, ?_, ?_, ?_⟩ <;> decide +kernel

/-- Behind an ideographic space there is no completion. -/
example : (Completion.at? ["name"] "\u3000na" 5).isNone = true := by decide +kernel

end EntryFilter

import EntryFilter.Entry.Json
import EntryFilter.Output.Format
import EntryFilter.Pattern.Meaning
import EntryFilter.Proofs.Json.Fields
import EntryFilter.Proofs.Predicate.Selection
import EntryFilter.Proofs.Timestamp.RoundTrip
import EntryFilter.Proofs.Value.RoundTrip

/-! # Entries read back from their files

Reading settles an entry: names in order, floats finite, nesting within bounds, a time for each
timestamp. A file that is written from entries that were read is therefore read as the same entries,
and what a filter has selected it selects again. -/

namespace EntryFilter

namespace Entry

/-- How deep a value may nest in a file: an array, an entry and its values stand around it. -/
def valueRoom : Nat := Json.maxNesting - 3

/-- The values of the entry can be written to a file and read back. -/
structure IsReadable (entry : Entry) : Prop where
  values : ∀ member ∈ entry.values.entries, member.2.IsReadable
  nesting : ∀ member ∈ entry.values.entries, member.2.toJson.nesting ≤ valueRoom

/-- The float stands somewhere in the values of the entry. -/
def HasFloat (entry : Entry) (x : Binary64) : Prop :=
  ∃ member ∈ entry.values.entries, member.2.HasFloat x

variable {now : Timestamp} {json : Json} {entry : Entry} {entries : List Entry}

/-! ## Entries that were read -/

variable {P : Binary64 → Prop}

theorem isReadable_of_values? {tree : Option Json} {values : Dictionary Value}
    (hnumbers : ∀ value, tree = some value → value.AllNumbers P)
    (h : values? (Json.maxNesting - 2) tree = some values)
    (hreads : ∀ member ∈ values.entries, ∀ x, member.2.HasFloat x → x.isFinite = true →
      x.ReadsBack) :
    ∀ member ∈ values.entries, member.2.IsReadable ∧ member.2.toJson.nesting ≤ valueRoom := by
  cases tree with
  | none =>
      obtain rfl := Option.some.inj h
      exact List.forall_mem_nil _
  | some value =>
      cases value with
      | object members =>
          rw [values?, Value.decodeMembers?_eq, Option.map_some] at h
          split at h
          · rename_i hfits
            obtain rfl := Option.some.inj h
            intro member hmember
            have hread := hreads member hmember
            rw [Dictionary.entries_ofList, Value.membersOfJson_eq_map] at hmember
            obtain ⟨other, hother, rfl⟩ := List.mem_map.1 (mem_of_mem_orderPairs hmember)
            cases hnumbers _ rfl with
            | object hmembers =>
                have hother' := Json.fits_of_membersFit hfits.2 other hother
                exact Value.isReadable_ofJson (hmembers other hother) hother' hread
          · cases h
      | _ => cases h

theorem isReadable_of_ofJson? (hnumbers : json.AllNumbers P) (h : ofJson? now json = some entry)
    (hreads : ∀ x, entry.HasFloat x → x.isFinite = true → x.ReadsBack) : entry.IsReadable := by
  obtain ⟨fields, hfields, hentry⟩ := Option.bind_eq_some_iff.1 h
  split at hentry
  · rename_i id values created updated
    have hpart := hnumbers.fields hfields
    simp only [Option.bind_eq_bind, Option.bind_eq_some_iff] at hentry
    obtain ⟨id', -, values', hvalues, created', -, updated', -, hentry⟩ := hentry
    obtain rfl := Option.some.inj hentry
    have htree : ∀ value, values = some value → value.AllNumbers P :=
      fun value hvalue => hpart value (by simp [hvalue])
    have hmembers := isReadable_of_values? htree hvalues
      fun member hmember x hx => hreads x ⟨member, hmember, hx⟩
    exact ⟨fun member hmember => (hmembers member hmember).1,
      fun member hmember => (hmembers member hmember).2⟩
  · cases hentry

theorem isReadable_of_readAll? {source : String} (h : readAll? now source = some entries)
    (hentry : entry ∈ entries) (hreads : ∀ x, entry.HasFloat x → x.isFinite = true → x.ReadsBack) :
    entry.IsReadable := by
  unfold readAll? at h
  split at h
  · rename_i items htext
    obtain ⟨item, hitem, hread⟩ := Json.exists_of_mapM h entry hentry
    cases Json.allNumbers_of_ofText? htext with
    | array hitems => exact isReadable_of_ofJson? (hitems item hitem) hread hreads
  · cases h

/-! ## Reading entries back -/

theorem isReadable_toJson (h : entry.IsReadable) : entry.toJson.IsReadable := by
  have hvalues : (Json.object (Value.membersToJson entry.values.entries)).IsReadable := by
    rw [Value.membersToJson_eq_map]
    exact .object (List.forall_mem_map.2 fun member hmember => (h.values member hmember).toJson)
  refine .object ?_
  simp only [List.forall_mem_cons]
  exact ⟨.string _, hvalues, .string _, .string _, List.forall_mem_nil _⟩

theorem values?_toJson (h : entry.IsReadable) :
    values? (Json.maxNesting - 2) (some (.object (Value.membersToJson entry.values.entries))) =
      some entry.values := by
  have hmembers := Value.membersOfJson_membersToJson fun member hmember =>
    (h.values member hmember).ofJson_toJson
  have hfits : Json.membersFit valueRoom (Value.membersToJson entry.values.entries) = true := by
    rw [Value.membersToJson_eq_map]
    refine (Json.membersFit_iff ?_).2 (Json.membersNesting_le_iff.2 ?_)
    · refine List.forall_mem_map.2 fun member hmember => ?_
      have hvalue := h.values member hmember
      exact Json.fits_iff_nesting_le (hvalue.ordered.allNumbers_toJson fun _ _ hx => hx) valueRoom
    · exact List.forall_mem_map.2 h.nesting
  rw [values?, if_pos ⟨by decide, hfits⟩, Value.decodeMembers?_eq, hmembers, Option.map_some,
    Dictionary.ofList_entries]

theorem timestamp?_toChars (t : Timestamp) :
    timestamp? now (some (.string (String.ofList t.toChars))) = some t := by
  rw [timestamp?, String.toList_ofList, Timestamp.read?_toChars]

/-- The time of loading does not matter, as a written entry has both timestamps. -/
theorem ofJson?_toJson (h : entry.IsReadable) (now : Timestamp) :
    ofJson? now entry.toJson = some entry := by
  have hvalues := values?_toJson h
  simp [ofJson?, toJson, Json.fields?, Json.member?, Json.text?, hvalues, timestamp?_toChars]

theorem mapM_ofJson? (h : ∀ entry ∈ entries, entry.IsReadable) (now : Timestamp) :
    (entries.map toJson).mapM (ofJson? now) = some entries := by
  induction entries with
  | nil => rfl
  | cons entry entries ih =>
      have hentry := ofJson?_toJson (h entry List.mem_cons_self) now
      have hrest := ih fun e he => h e (List.mem_cons_of_mem entry he)
      simp [hentry, hrest]

theorem readAll?_showEntries (h : ∀ entry ∈ entries, entry.IsReadable) (now : Timestamp) :
    readAll? now (OutputFormat.json.showEntries entries) = some entries := by
  have hreadable : (Json.array (entries.map toJson)).IsReadable :=
    .array (List.forall_mem_map.2 fun entry hentry => isReadable_toJson (h entry hentry))
  have htext := Json.ofText?_indented hreadable
  rw [readAll?, OutputFormat.showEntries, htext]
  exact mapM_ofJson? h now

end Entry

/-- The JSON output of a filter is an entries file of exactly the entries that it selected, whenever
it is loaded, and the filter selects all of them again. -/
theorem json_output_reads_back [PatternEngine] {now : Timestamp} {source : String} {p : Predicate}
    {entries selected : List Entry} (hread : Entry.readAll? now source = some entries)
    (hselect : p.select entries = .ok selected)
    (hfloats : ∀ entry ∈ selected, ∀ x, entry.HasFloat x → x.isFinite = true → x.ReadsBack) :
    (∀ later, Entry.readAll? later (OutputFormat.json.showEntries selected) = some selected) ∧
      p.select selected = .ok selected := by
  obtain ⟨hsublist, hholds⟩ := Predicate.select_spec hselect
  refine ⟨Entry.readAll?_showEntries fun entry hentry => ?_, Predicate.select_eq_self hholds⟩
  exact Entry.isReadable_of_readAll? hread (hsublist.subset hentry) (hfloats entry hentry)

/-- An entry without timestamps gets them when it is loaded first, and keeps them from then on. -/
theorem json_output_reads_back_of_entry :
    ∃ entry : Entry, entry.value? "x" = some (.float (.ofInt 18)) ∧
      Entry.readAll? .epoch "[\x7b\"id\":\"a\",\"values\":\x7b\"x\":18.0\x7d\x7d]" = some [entry] ∧
      ∀ later, Entry.readAll? later (OutputFormat.json.showEntries [entry]) = some [entry] := by
  have hfinite : (Binary64.ofInt 18).isFinite = true := by decide +kernel
  have hvalues : (Json.object [("x", .decimal (.ofInt 18))]).IsReadable :=
    .object (List.forall_mem_singleton.2 (.decimal ⟨hfinite, Json.readsBack_eighteen⟩))
  have hreadable : (Json.array [.object [("id", .string "a"),
      ("values", .object [("x", .decimal (.ofInt 18))])]]).IsReadable := by
    refine .array (List.forall_mem_singleton.2 (.object ?_))
    simp only [List.forall_mem_cons]
    exact ⟨.string "a", hvalues, List.forall_mem_nil _⟩
  have hcompact : (Json.array [.object [("id", .string "a"),
      ("values", .object [("x", .decimal (.ofInt 18))])]]).compact =
        "[\x7b\"id\":\"a\",\"values\":\x7b\"x\":18.0\x7d\x7d]" := by
    decide +kernel
  have htext := Json.ofText?_compact hreadable
  rw [hcompact] at htext
  have hread : Entry.readAll? .epoch "[\x7b\"id\":\"a\",\"values\":\x7b\"x\":18.0\x7d\x7d]" =
      some [⟨"a", .ofList [("x", .float (.ofInt 18))], .epoch, .epoch⟩] := by
    rw [Entry.readAll?, htext]
    simp [Entry.ofJson?, Json.fields?, Json.member?, Entry.values?, Json.text?, Json.membersFit,
      Json.fits, hfinite, Entry.timestamp?, Json.maxNesting, Value.decodeMembers?_eq,
      Value.membersOfJson, Value.ofJson, Value.ofNumber_decimal]
  have hfloat : ∀ x, Entry.HasFloat ⟨"a", .ofList [("x", .float (.ofInt 18))], .epoch, .epoch⟩ x →
      x = .ofInt 18 := by
    intro x hx
    simpa [Entry.HasFloat, Dictionary.entries_ofList, orderPairs, putPair] using hx
  have hselect : (Predicate.present "values.x" true).select
      [⟨"a", .ofList [("x", .float (.ofInt 18))], .epoch, .epoch⟩] =
        .ok [⟨"a", .ofList [("x", .float (.ofInt 18))], .epoch, .epoch⟩] := by
    rfl
  refine ⟨_, rfl, hread, (json_output_reads_back hread hselect fun entry hentry x hx _ => ?_).1⟩
  obtain rfl := List.mem_singleton.1 hentry
  rw [hfloat x hx]
  exact Json.readsBack_eighteen

end EntryFilter

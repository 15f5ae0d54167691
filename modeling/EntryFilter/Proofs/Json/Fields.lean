import EntryFilter.Json.Fields
import EntryFilter.Proofs.Json.Numbers

/-! # Fields of a structure

The fields that are there are parts of the tree from which the structure is read, so each of them
has what all parts of the tree have. -/

namespace EntryFilter.Json

/-- Every result of a list of trials comes from one of them. -/
theorem exists_of_mapM {α β : Type} {f : α → Option β} {items : List α} {results : List β}
    (h : items.mapM f = some results) :
    ∀ result ∈ results, ∃ item ∈ items, f item = some result := by
  induction items generalizing results with
  | nil =>
      obtain rfl : [] = results := Option.some.inj h
      exact List.forall_mem_nil _
  | cons item items ih =>
      simp only [List.mapM_cons, Option.bind_eq_bind, Option.bind_eq_some_iff] at h
      obtain ⟨first, hfirst, others, hothers, hresults⟩ := h
      obtain rfl := Option.some.inj hresults
      refine List.forall_mem_cons.2 ⟨⟨item, List.mem_cons_self, hfirst⟩, fun result hresult => ?_⟩
      obtain ⟨other, hother, hf⟩ := ih hothers result hresult
      exact ⟨other, List.mem_cons_of_mem item hother, hf⟩

theorem mem_of_member? {name : String} {members : List (String × Json)} {value : Json}
    (h : member? name members = some (some value)) : ∃ member ∈ members, member.2 = value := by
  unfold member? at h
  split at h
  · cases h
  · rename_i other found hfilter
    obtain rfl : found = value := Option.some.inj (Option.some.inj h)
    have hmem : (other, found) ∈ members.filter (·.1 == name) := by simp [hfilter]
    exact ⟨_, (List.mem_filter.1 hmem).1, rfl⟩
  · cases h

theorem AllNumbers.fields {P : Binary64 → Prop} {json : Json} (h : json.AllNumbers P)
    {names : List String} {fields : List (Option Json)}
    (hfields : json.fields? names = some fields) :
    ∀ value, some value ∈ fields → value.AllNumbers P := by
  intro value hvalue
  cases h with
  | @array items hitems =>
      simp only [fields?] at hfields
      split at hfields
      · obtain rfl := Option.some.inj hfields
        rcases List.mem_append.1 hvalue with hpresent | hmissing
        · obtain ⟨item, hitem, heq⟩ := List.mem_map.1 hpresent
          obtain rfl := Option.some.inj heq
          exact hitems _ hitem
        · cases List.eq_of_mem_replicate hmissing
      · cases hfields
  | @object members hmembers =>
      obtain ⟨name, -, hname⟩ := exists_of_mapM hfields (some value) hvalue
      obtain ⟨member, hmember, rfl⟩ := mem_of_member? hname
      exact hmembers member hmember
  | _ => cases hfields

end EntryFilter.Json

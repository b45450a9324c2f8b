import ItemSpec.Item.Meta
set_option autoImplicit false

/-! The parts of metadata as lists: levels, flags and tags are what the list of all that is in them makes. -/

namespace ItemSpec

namespace Levels

/-- Entries that `levels` agrees with, set one after the other: their order does not matter, nor whether one
stands there twice. -/
theorem level?_foldl_set (levels : Levels) {entries : List (Enchantment × Int)}
    (agrees : ∀ entry ∈ entries, levels.level? entry.1 = some entry.2) (start : Levels) (sought : Enchantment) :
    (entries.foldl (fun levels entry => levels.set entry.1 entry.2) start).level? sought =
      if sought ∈ entries.map Prod.fst then levels.level? sought else start.level? sought := by
  induction entries generalizing start with
  | nil => rfl
  | cons entry others ih =>
      obtain ⟨agreesEntry, agreesOthers⟩ := List.forall_mem_cons.1 agrees
      rw [List.foldl_cons, ih agreesOthers, level?_set]
      simp only [List.map_cons, List.mem_cons]
      by_cases later : sought ∈ others.map Prod.fst
      · rw [if_pos later, if_pos (.inr later)]
      · rw [if_neg later]
        by_cases here : sought = entry.1
        · rw [if_pos here, if_pos (.inl here), here, agreesEntry]
        · rw [if_neg here, if_neg (not_or.2 ⟨here, later⟩)]

theorem ofList_entries (levels : Levels) : ofList levels.entries = levels := by
  have agrees : ∀ entry ∈ levels.entries, levels.level? entry.1 = some entry.2 := fun entry =>
    (levels.mem_entries entry.1 entry.2).1
  refine Levels.ext (funext fun sought => ?_)
  rw [ofList, levels.level?_foldl_set agrees]
  split
  · rfl
  · rename_i absent
    cases held : levels.level? sought with
    | none => rfl
    | some level =>
        have member := (levels.mem_entries sought level).2 held
        exact absurd (List.mem_map.2 ⟨(sought, level), member, rfl⟩) absent

end Levels

theorem FlagSet.ofList_toList (flags : FlagSet) : ofList flags.toList = flags := by
  refine FlagSet.ext (funext fun sought => ?_)
  rw [Bool.eq_iff_iff, has_ofList, mem_toList]

namespace Tags

private theorem place_of_above {key : Text} (value : Text) {entries : List (Text × Text)}
    (above : ∀ entry ∈ entries, entry.1 < key) : place key value entries = entries ++ [(key, value)] := by
  induction entries with
  | nil => rfl
  | cons first rest ih =>
      obtain ⟨firstBelow, restBelow⟩ := List.forall_mem_cons.1 above
      have notBefore : ¬key < first.1 := List.lt_asymm firstBelow
      have otherKey : key ≠ first.1 := fun same => List.lt_irrefl _ (same ▸ firstBelow)
      rw [place, if_neg notBefore, if_neg otherKey, ih restBelow, List.cons_append]

private theorem entries_foldl_insert (entries : List (Text × Text)) (start : Tags)
    (increasing : (start.entries ++ entries).Pairwise fun earlier later => earlier.1 < later.1) :
    (entries.foldl (fun tags entry => tags.insert entry.1 entry.2) start).entries =
      start.entries ++ entries := by
  induction entries generalizing start with
  | nil => exact (List.append_nil _).symm
  | cons entry others ih =>
      have above : ∀ earlier ∈ start.entries, earlier.1 < entry.1 := fun earlier member =>
        (List.pairwise_append.1 increasing).2.2 earlier member entry List.mem_cons_self
      have inserted : (start.insert entry.1 entry.2).entries = start.entries ++ [entry] :=
        place_of_above entry.2 above
      rw [List.foldl_cons, ih, inserted, List.append_assoc, List.singleton_append]
      rwa [inserted, List.append_assoc, List.singleton_append]

theorem ofList_entries (tags : Tags) : ofList tags.entries = tags := by
  have same : (ofList tags.entries).entries = tags.entries :=
    entries_foldl_insert tags.entries empty tags.increasing
  obtain ⟨entries, increasing⟩ := tags
  generalize ofList entries = made at same
  cases made
  cases same
  rfl

end Tags

end ItemSpec

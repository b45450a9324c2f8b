import ItemSpec.Text.Basic
set_option autoImplicit false

/-! Tags: texts under text keys. The entries are kept in increasing order of their keys, so two tag
maps that answer alike are equal, however they were built. -/

namespace ItemSpec

structure Tags where
  entries : List (Text × Text)
  increasing : entries.Pairwise fun earlier later => earlier.1 < later.1
deriving DecidableEq

namespace Tags

private theorem lt_of_not_lt_of_ne {left right : Text} (notBefore : ¬left < right)
    (different : left ≠ right) : right < left :=
  Decidable.byContradiction fun notAfter =>
    different (List.le_antisymm (List.not_lt.1 notAfter) (List.not_lt.1 notBefore))

def place (key value : Text) : List (Text × Text) → List (Text × Text)
  | [] => [(key, value)]
  | entry :: rest =>
    if key < entry.1 then (key, value) :: entry :: rest
    else if key = entry.1 then (key, value) :: rest
    else entry :: place key value rest

private theorem key_of_mem_place {key value : Text} {entries : List (Text × Text)}
    {entry : Text × Text} (member : entry ∈ place key value entries) :
    entry.1 = key ∨ entry ∈ entries := by
  induction entries with
  | nil =>
    simp only [place, List.mem_singleton] at member
    exact .inl (member ▸ rfl)
  | cons first rest ih =>
    unfold place at member
    split at member
    · rcases List.mem_cons.1 member with same | inRest
      · exact .inl (same ▸ rfl)
      · exact .inr inRest
    · split at member
      · rcases List.mem_cons.1 member with same | inRest
        · exact .inl (same ▸ rfl)
        · exact .inr (List.mem_cons_of_mem _ inRest)
      · rcases List.mem_cons.1 member with same | inRest
        · exact .inr (same ▸ List.mem_cons_self)
        · rcases ih inRest with sameKey | earlier
          · exact .inl sameKey
          · exact .inr (List.mem_cons_of_mem _ earlier)

private theorem place_increasing (key value : Text) {entries : List (Text × Text)}
    (increasing : entries.Pairwise fun earlier later => earlier.1 < later.1) :
    (place key value entries).Pairwise fun earlier later => earlier.1 < later.1 := by
  induction entries with
  | nil => exact List.pairwise_singleton _ _
  | cons first rest ih =>
    obtain ⟨firstBelow, restIncreasing⟩ := List.pairwise_cons.1 increasing
    unfold place
    split
    · rename_i before
      refine List.pairwise_cons.2 ⟨?_, increasing⟩
      intro entry member
      rcases List.mem_cons.1 member with same | inRest
      · exact same ▸ before
      · exact List.lt_trans before (firstBelow entry inRest)
    · rename_i notBefore
      split
      · rename_i sameKey
        refine List.pairwise_cons.2 ⟨?_, restIncreasing⟩
        intro entry member
        simpa [sameKey] using firstBelow entry member
      · rename_i otherKey
        refine List.pairwise_cons.2 ⟨?_, ih restIncreasing⟩
        intro entry member
        rcases key_of_mem_place member with sameKey | inRest
        · exact sameKey ▸ lt_of_not_lt_of_ne notBefore otherKey
        · exact firstBelow entry inRest

def empty : Tags := ⟨[], List.Pairwise.nil⟩

def find? (tags : Tags) (key : Text) : Option Text :=
  tags.entries.lookup key

def insert (tags : Tags) (key value : Text) : Tags :=
  ⟨place key value tags.entries, place_increasing key value tags.increasing⟩

def erase (tags : Tags) (key : Text) : Tags :=
  ⟨tags.entries.filter fun entry => entry.1 ≠ key, tags.increasing.filter _⟩

/-- The map of a list of entries; of entries with one key the last counts. -/
def ofList (entries : List (Text × Text)) : Tags :=
  entries.foldl (fun tags entry => tags.insert entry.1 entry.2) empty

private theorem lookup_entry (sought key value : Text) (rest : List (Text × Text)) :
    List.lookup sought ((key, value) :: rest) =
      if sought = key then some value else rest.lookup sought := by
  by_cases same : sought = key
  · simp [same]
  · have apart : (sought == key) = false := by simpa using same
    rw [List.lookup_cons, apart, if_neg same]

theorem find?_insert (tags : Tags) (key value sought : Text) :
    (tags.insert key value).find? sought = if sought = key then some value else tags.find? sought := by
  show (place key value tags.entries).lookup sought = _
  unfold find?
  generalize tags.entries = entries
  induction entries with
  | nil => exact lookup_entry sought key value []
  | cons first rest ih =>
    obtain ⟨firstKey, firstValue⟩ := first
    unfold place
    split
    · exact lookup_entry sought key value _
    · split
      · rename_i sameKey
        simp only at sameKey
        simp only [lookup_entry, ← sameKey]
        split <;> rfl
      · rename_i otherKey
        simp only at otherKey
        simp only [lookup_entry, ih]
        by_cases atFirst : sought = firstKey
        · have notKey : sought ≠ key := fun same => otherKey (same.symm.trans atFirst)
          simp [atFirst, Ne.symm otherKey]
        · simp [atFirst]

end Tags

end ItemSpec

import ItemSpec.Registry
import Mathlib.Data.Finset.Card
set_option autoImplicit false

/-! What a registry holds: its bindings, the objects among them, each once, and the first of them that
matches what stands in the place of a stack. -/

namespace ItemSpec.Registry

/-- An item is bound, and its place is the first of those whose items match. -/
def Holds (registry : Registry) (slot : Slot) (item : Handle) : Prop :=
  ∃ before key after, registry.keys = before ++ key :: after ∧
    registry.get? key = some item ∧ item.matcher.matchesSlot slot = .ok true ∧
    ∀ earlier ∈ before, ∃ passed, registry.get? earlier = some passed ∧
      passed.matcher.matchesSlot slot = .ok false

variable (registry : Registry)

/-! ### Bindings -/

private theorem lookup_eq_some_iff {entries : List (Key × Handle)}
    (distinct : (entries.map Prod.fst).Nodup) (key : Key) (item : Handle) :
    entries.lookup key = some item ↔ (key, item) ∈ entries := by
  induction entries with
  | nil => simp
  | cons entry others ih =>
      obtain ⟨bound, held⟩ := entry
      obtain ⟨fresh, distinctOthers⟩ := List.nodup_cons.1 distinct
      by_cases same : key = bound
      · subst same
        have absent : (key, item) ∉ others := fun member =>
          fresh (List.mem_map.2 ⟨(key, item), member, rfl⟩)
        simp [absent, eq_comm]
      · have apart : (key == bound) = false := by simpa using same
        rw [List.lookup_cons, apart, ih distinctOthers]
        simp [same]

theorem get?_eq_some_iff (key : Key) (item : Handle) :
    registry.get? key = some item ↔ (key, item) ∈ registry.entries :=
  lookup_eq_some_iff registry.distinct key item

theorem mem_keys_iff (key : Key) :
    key ∈ registry.keys ↔ ∃ item, registry.get? key = some item := by
  simp [get?_eq_some_iff, keys]

/-! ### The objects -/

private theorem gather_spec (entries : List (Key × Handle)) (found : List Handle)
    (distinct : (found.map Handle.serial).Nodup) :
    let gathered := entries.foldl (fun found entry =>
      if found.any fun item => item.serial == entry.2.serial then found else found ++ [entry.2]) found
    (gathered.map Handle.serial).Nodup ∧
      (∀ item ∈ gathered, item ∈ found ∨ ∃ key, (key, item) ∈ entries) ∧
      ∀ serial, serial ∈ gathered.map Handle.serial ↔
        serial ∈ found.map Handle.serial ∨ serial ∈ entries.map fun entry => entry.2.serial := by
  induction entries generalizing found with
  | nil => exact ⟨distinct, fun item member => .inl member, by simp⟩
  | cons entry others ih =>
      obtain ⟨key, held⟩ := entry
      simp only [List.foldl_cons]
      by_cases seen : found.any fun item => item.serial == held.serial
      · rw [if_pos seen]
        have inFound : held.serial ∈ found.map Handle.serial := by
          simpa using seen
        obtain ⟨once, origin, serials⟩ := ih found distinct
        refine ⟨once, ?_, ?_⟩
        · intro item member
          exact (origin item member).imp_right fun ⟨other, inOthers⟩ =>
            ⟨other, List.mem_cons_of_mem _ inOthers⟩
        · intro serial
          rw [serials, List.map_cons, List.mem_cons]
          constructor
          · exact Or.imp_right .inr
          · rintro (earlier | rfl | later)
            · exact .inl earlier
            · exact .inl inFound
            · exact .inr later
      · rw [if_neg seen]
        have fresh : held.serial ∉ found.map Handle.serial := by
          simpa using seen
        have distinctMore : ((found ++ [held]).map Handle.serial).Nodup := by
          rw [List.map_append, List.nodup_append]
          refine ⟨distinct, List.nodup_singleton _, ?_⟩
          intro serial earlier other isHeld same
          rw [List.mem_singleton.1 isHeld] at same
          exact fresh (same ▸ earlier)
        obtain ⟨once, origin, serials⟩ := ih (found ++ [held]) distinctMore
        refine ⟨once, ?_, ?_⟩
        · intro item member
          rcases origin item member with inMore | ⟨other, inOthers⟩
          · rcases List.mem_append.1 inMore with earlier | isHeld
            · exact .inl earlier
            · rw [List.mem_singleton.1 isHeld]
              exact .inr ⟨key, List.mem_cons_self⟩
          · exact .inr ⟨other, List.mem_cons_of_mem _ inOthers⟩
        · intro serial
          rw [serials]
          simp [or_assoc]

theorem items_distinct : (registry.items.map Handle.serial).Nodup :=
  (gather_spec registry.entries [] List.nodup_nil).1

theorem bound_of_mem_items {item : Handle} (member : item ∈ registry.items) :
    ∃ key, registry.get? key = some item := by
  rcases (gather_spec registry.entries [] List.nodup_nil).2.1 item member with impossible | ⟨key, entry⟩
  · exact absurd impossible List.not_mem_nil
  · exact ⟨key, (registry.get?_eq_some_iff key item).2 entry⟩

theorem mem_items_serials_iff (serial : Nat) :
    serial ∈ registry.items.map Handle.serial ↔
      serial ∈ registry.entries.map fun entry => entry.2.serial := by
  refine ((gather_spec registry.entries [] List.nodup_nil).2.2 serial).trans ?_
  simp only [List.map_nil, List.not_mem_nil, false_or]

private theorem length_items :
    registry.items.length = (registry.entries.map fun entry => entry.2.serial).dedup.length := by
  have sameSet : (registry.items.map Handle.serial).toFinset =
      (registry.entries.map fun entry => entry.2.serial).toFinset := by
    ext serial
    rw [List.mem_toFinset, List.mem_toFinset, mem_items_serials_iff]
  rw [← List.card_toFinset, ← sameSet, List.toFinset_card_of_nodup registry.items_distinct,
    List.length_map]

theorem length_items_le_count : registry.items.length ≤ registry.count := by
  rw [length_items, count, ← List.length_map (fun entry : Key × Handle => entry.2.serial)]
  exact (List.dedup_sublist _).length_le

/-- There are as many objects as keys exactly if no object has two keys. -/
theorem length_items_eq_count_iff :
    registry.items.length = registry.count ↔
      ∀ key other item bound, registry.get? key = some item → registry.get? other = some bound →
        item.serial = bound.serial → key = other := by
  have once : registry.entries.Nodup := List.Nodup.of_map Prod.fst registry.distinct
  rw [length_items, count, ← List.length_map (fun entry : Key × Handle => entry.2.serial)]
  constructor
  · intro sameLength key other item bound atKey atOther sameObject
    have whole := (List.dedup_sublist _).eq_of_length sameLength
    have apart := (List.nodup_map_iff_inj_on once).1 (List.dedup_eq_self.1 whole)
    have same := apart _ ((registry.get?_eq_some_iff key item).1 atKey) _
      ((registry.get?_eq_some_iff other bound).1 atOther) sameObject
    exact congrArg Prod.fst same
  · intro apart
    have distinct : (registry.entries.map fun entry => entry.2.serial).Nodup := by
      refine (List.nodup_map_iff_inj_on once).2 ?_
      rintro ⟨key, item⟩ member ⟨other, bound⟩ memberOther sameObject
      have atKey := (registry.get?_eq_some_iff key item).2 member
      have atOther := (registry.get?_eq_some_iff other bound).2 memberOther
      obtain rfl := apart key other item bound atKey atOther sameObject
      rw [atKey] at atOther
      rw [Option.some.inj atOther]
    rw [List.dedup_eq_self.2 distinct]

/-! ### The first match -/

private theorem firstMatch?_eq_some_iff (slot : Slot) (item : Handle)
    (entries : List (Key × Handle)) :
    firstMatch? slot entries = .ok (some item) ↔
      ∃ before key after, entries = before ++ (key, item) :: after ∧
        item.matcher.matchesSlot slot = .ok true ∧
        ∀ earlier ∈ before, earlier.2.matcher.matchesSlot slot = .ok false := by
  induction entries with
  | nil => simp [firstMatch?]
  | cons entry others ih =>
      obtain ⟨bound, held⟩ := entry
      constructor
      · intro found
        unfold firstMatch? at found
        cases verdict : held.matcher.matchesSlot slot with
        | error fault =>
            simp only [verdict] at found
            cases found
        | ok accepted =>
            cases accepted with
            | true =>
                simp only [verdict] at found
                cases found
                exact ⟨[], bound, others, rfl, verdict, fun _ member => absurd member List.not_mem_nil⟩
            | false =>
                simp only [verdict] at found
                obtain ⟨before, key, after, rfl, accepts, passed⟩ := ih.1 found
                exact ⟨(bound, held) :: before, key, after, rfl, accepts,
                  List.forall_mem_cons.2 ⟨verdict, passed⟩⟩
      · intro ⟨before, key, after, split, accepts, passed⟩
        cases before with
        | nil =>
            obtain ⟨isEntry, rfl⟩ := List.cons.inj split
            cases isEntry
            simp only [firstMatch?, accepts]
        | cons earlier before =>
            obtain ⟨rfl, rfl⟩ := List.cons.inj split
            obtain ⟨rejects, passedOthers⟩ := List.forall_mem_cons.1 passed
            simp only [firstMatch?, rejects]
            exact ih.2 ⟨before, key, after, rfl, accepts, passedOthers⟩

theorem find?_eq_some_iff (slot : Slot) (item : Handle) :
    registry.find? slot = .ok (some item) ↔ registry.Holds slot item := by
  rw [find?, firstMatch?_eq_some_iff]
  constructor
  · intro first
    obtain ⟨before, key, after, split, accepts, passed⟩ := first
    refine ⟨before.map Prod.fst, key, after.map Prod.fst, ?_, ?_, accepts, ?_⟩
    · rw [keys, split, List.map_append, List.map_cons]
    · rw [get?_eq_some_iff, split]
      exact List.mem_append_right before List.mem_cons_self
    · intro earlier member
      obtain ⟨entry, inBefore, rfl⟩ := List.mem_map.1 member
      refine ⟨entry.2, ?_, passed entry inBefore⟩
      rw [get?_eq_some_iff, split]
      exact List.mem_append_left _ inBefore
  · intro holds
    obtain ⟨before, key, after, split, bound, accepts, passed⟩ := holds
    obtain ⟨entriesBefore, rest, splitEntries, rfl, restKeys⟩ := List.map_eq_append_iff.1 split
    obtain ⟨entry, entriesAfter, rfl, rfl, rfl⟩ := List.map_eq_cons_iff.1 restKeys
    have unique : ∀ held ∈ registry.entries, registry.get? held.1 = some held.2 :=
      fun held member => (registry.get?_eq_some_iff held.1 held.2).2 member
    have isEntry : entry.2 = item := by
      have atEntry := unique entry (splitEntries ▸ List.mem_append_right _ List.mem_cons_self)
      exact Option.some.inj (atEntry.symm.trans bound)
    refine ⟨entriesBefore, entry.1, entriesAfter, isEntry ▸ splitEntries, accepts, ?_⟩
    intro earlier member
    obtain ⟨skipped, atEarlier, rejects⟩ := passed earlier.1 (List.mem_map_of_mem member)
    have held := unique earlier (splitEntries ▸ List.mem_append_left _ member)
    rw [Option.some.inj (held.symm.trans atEarlier)]
    exact rejects

theorem find?_eq_none_iff (slot : Slot) :
    registry.find? slot = .ok none ↔
      ∀ key item, registry.get? key = some item → item.matcher.matchesSlot slot = .ok false := by
  simp only [get?_eq_some_iff, find?]
  generalize registry.entries = entries
  induction entries with
  | nil => simp [firstMatch?]
  | cons entry others ih =>
      obtain ⟨bound, held⟩ := entry
      unfold firstMatch?
      cases verdict : held.matcher.matchesSlot slot with
      | error fault =>
          simp only [reduceCtorEq, false_iff]
          intro every
          rw [every bound held List.mem_cons_self] at verdict
          cases verdict
      | ok accepted =>
          cases accepted with
          | true =>
              simp only [Except.ok.injEq, reduceCtorEq, false_iff]
              intro every
              rw [every bound held List.mem_cons_self] at verdict
              cases verdict
          | false =>
              simp only [ih, List.mem_cons, Prod.mk.injEq]
              constructor
              · rintro every key item (⟨rfl, rfl⟩ | later)
                · exact verdict
                · exact every key item later
              · exact fun every key item later => every key item (.inr later)

theorem exists_of_find?_eq_error {slot : Slot} {fault : Fault} (failed : registry.find? slot = .error fault) :
    ∃ key item, registry.get? key = some item ∧ item.matcher.matchesSlot slot = .error fault := by
  simp only [get?_eq_some_iff]
  unfold find? at failed
  generalize registry.entries = entries at failed ⊢
  induction entries with
  | nil => cases failed
  | cons entry others ih =>
      obtain ⟨bound, held⟩ := entry
      unfold firstMatch? at failed
      cases verdict : held.matcher.matchesSlot slot with
      | error other =>
          simp only [verdict, Except.error.injEq] at failed
          exact ⟨bound, held, List.mem_cons_self, failed ▸ verdict⟩
      | ok accepted =>
          cases accepted with
          | true =>
              simp only [verdict] at failed
              cases failed
          | false =>
              simp only [verdict] at failed
              obtain ⟨key, item, later, gaveUp⟩ := ih failed
              exact ⟨key, item, List.mem_cons_of_mem _ later, gaveUp⟩

end ItemSpec.Registry

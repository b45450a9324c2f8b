import ItemSpec.Proofs.Engine.Genuine
import ItemSpec.Proofs.Key
set_option autoImplicit false

/-! Custom items under the written form of their keys. A lookup finds the item of the key that it makes of
the token itself, and that is the key a host reads unless the colon tears a final sigma. -/

namespace ItemSpec

theorem CustomItem.isEmpty_handle (item : CustomItem) : item.handle.matcher.isEmpty = false := by
  show item.toMatcher.isEmpty = false
  unfold toMatcher Definition.toMatcher
  cases item.definition <;> rfl

namespace Engine

open Modifier (BuiltIn)

variable {engine : Engine}

private theorem modify_plain {kinds : List BuiltIn} (parsers : engine.parsers = kinds.map BuiltIn.parser)
    (base : Found) : (engine.modify base []).outcome = .ok (some base) := by
  cases readable : base.matcher.representative.meta? with
  | none => exact engine.modify_of_unreadable base [] readable
  | some before =>
      obtain ⟨noTests, unchanged⟩ := BuiltIn.readAll_nil kinds before
      rw [engine.modify_of_readable base [] readable, parsers]
      simp only [noTests, unchanged, dress, List.isEmpty_nil, decide_true, Bool.and_self, if_true]

theorem names_of_ofToken? {token : Text} {key : Key} {item : Handle}
    (spelled : Key.ofToken? token = some key) (bound : engine.registry.get? key = some item) :
    engine.Names token (.item item) 1 := by
  obtain ⟨scope, name, parts, rfl⟩ := (Key.ofToken?_eq_some_iff token key).1 spelled
  exact .item parts bound

private theorem reads_of_ofToken? {spec : Text} {sought : Key} {handle : Handle} (whole : ' ' ∉ spec)
    (spelled : Key.ofToken? spec = some sought) (bound : engine.registry.get? sought = some handle) :
    engine.Reads spec ⟨.item handle, 1, []⟩ := by
  have tokens : Text.cut ' ' (Text.dropTrailing ' ' spec) = [spec] := by
    rw [Text.dropTrailing_of_not_mem whole, Text.cut_of_not_mem whole]
  refine .intro tokens ?_ (names_of_ofToken? spelled bound) .nothing
  intro isEmpty
  rw [isEmpty] at spelled
  cases spelled

private theorem get?_of_reads {spec : Text} {sought : Key} {order : Order} {handle : Handle}
    (whole : ' ' ∉ spec)
    (spelled : Key.ofToken? spec = some sought) (reads : engine.Reads spec order)
    (isItem : order.base = .item handle) : engine.registry.get? sought = some handle := by
  obtain ⟨scope, name, parts, rfl⟩ := (Key.ofToken?_eq_some_iff spec sought).1 spelled
  cases reads with
  | @intro token others base named amount modifiers tokens notEmpty names counts =>
      rw [Text.dropTrailing_of_not_mem whole, Text.cut_of_not_mem whole] at tokens
      obtain ⟨rfl, rfl⟩ := List.cons.inj tokens
      cases isItem
      cases names with
      | item partsThere bound =>
          rw [parts] at partsThere
          cases partsThere
          exact bound
      | itemAmount partsThere bound number =>
          rw [parts] at partsThere
          cases partsThere

/-- A lookup of a written key gives the item that is bound to the key exactly if the key which the lookup
makes of the text is bound to that item too; and it makes the same key unless a sigma is torn. -/
theorem lookup_bound_key_iff {kinds : List BuiltIn} (parsers : engine.parsers = kinds.map BuiltIn.parser)
    {spec : Text} {key : Key} {item : CustomItem} (parsed : Key.parse spec = .ok key)
    (whole : ' ' ∉ spec) (single : '?' ∉ spec)
    (bound : engine.registry.get? key = some item.handle) :
    ∃ scope name sought, spec = scope ++ ':' :: name ∧ Key.ofToken? spec = some sought ∧
      (sought = key ↔ ¬Key.SigmaTorn scope name) ∧
      ((engine.lookup spec).outcome = .ok (.object item.handle) ↔
        engine.registry.get? sought = some item.handle) := by
  obtain ⟨scope, name, rfl, _, ⟨wholeScope, wholeName⟩, rfl⟩ := (Key.parse_eq_ok_iff spec key).1 parsed
  have spelled := Key.ofToken?_pair wholeScope wholeName
  refine ⟨scope, name, _, rfl, spelled, ?_, ?_⟩
  · rw [← Key.ofToken?_eq_of_iff wholeScope wholeName, spelled, Option.some.injEq]
  rw [lookup_of_single single]
  constructor
  · intro looked
    obtain ⟨order, dressed, reads, modified, same⟩ := lookupAlternative_reads looked item.isEmpty_handle
    have isDressed : dressed = .object item.handle := by
      unfold count at same
      split at same
      · exact same.symm
      · cases same
    rw [isDressed] at modified
    have isBase := engine.eq_object_of_modify _ _ modified
    refine get?_of_reads whole spelled reads ?_
    cases base : order.base with
    | material material =>
        rw [base] at isBase
        cases isBase
    | item handle =>
        rw [base] at isBase
        cases isBase
        rfl
  · intro boundThere
    rw [lookupAlternative_of_reads (reads_of_ofToken? whole spelled boundThere)]
    simp only [fill, Traced.outcome_bind, Base.found, modify_plain parsers, Fault.ok_bind]
    rfl

def keeping (key : Key) (kinds : List BuiltIn) : Engine where
  registry := Registry.empty.insert key CustomItem.gems.handle
  parsers := kinds.map BuiltIn.parser

private theorem get?_keeping (key : Key) (kinds : List BuiltIn) :
    (keeping key kinds).registry.get? key = some CustomItem.gems.handle := by
  rw [keeping, Registry.get?_insert, if_pos rfl]

/-- The sigma of the street is final before a digit. -/
theorem lookup_bound_key_iff_street :
    let key : Key := ⟨"οδος".toList, "7".toList⟩
    let engine := keeping key [.flag, .displayName, .flag]
    let spec := "ΟΔΟΣ:7".toList
    Key.parse spec = .ok key ∧ ' ' ∉ spec ∧ '?' ∉ spec ∧
      engine.registry.get? key = some CustomItem.gems.handle ∧
      ∃ scope name sought, spec = scope ++ ':' :: name ∧ Key.ofToken? spec = some sought ∧
        (sought = key ↔ ¬Key.SigmaTorn scope name) ∧
        ((engine.lookup spec).outcome = .ok (.object CustomItem.gems.handle) ↔
          engine.registry.get? sought = some CustomItem.gems.handle) := by
  intro key engine spec
  have parsed : Key.parse spec = .ok key := by decide +kernel
  have whole : ' ' ∉ spec := by decide
  have single : '?' ∉ spec := by decide
  have bound := get?_keeping key [.flag, .displayName, .flag]
  exact ⟨parsed, whole, single, bound, lookup_bound_key_iff rfl parsed whole single bound⟩

/-- Before a letter the sigma is not final in the token, and it is in the key. -/
theorem lookup_misses_bound_key :
    let key : Key := ⟨"οδος".toList, "gems".toList⟩
    let engine := keeping key BuiltIn.all
    let spec := "ΟΔΟΣ:gems".toList
    Key.parse spec = .ok key ∧ ' ' ∉ spec ∧ '?' ∉ spec ∧
      engine.registry.get? key = some CustomItem.gems.handle ∧
      (engine.lookup spec).outcome.map (fun found => found.matcher.isEmpty) = .ok true := by
  intro key engine spec
  have parsed : Key.parse spec = .ok key := by decide +kernel
  have missed : (engine.lookup spec).outcome.map (fun found => found.matcher.isEmpty) = .ok true := by
    decide +kernel
  exact ⟨parsed, by decide, by decide, get?_keeping key BuiltIn.all, missed⟩

end Engine

end ItemSpec

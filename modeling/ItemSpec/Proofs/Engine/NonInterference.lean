import ItemSpec.Proofs.Engine.Language
import ItemSpec.Proofs.Registry.OrderedMap
set_option autoImplicit false

/-! What a lookup sees of a registry: what the keys that its spec mentions are bound to, and no more. Where
those keys stand in the order of the registry, what was done to other keys, and when, makes no difference. -/

namespace ItemSpec

open Text (cut lower)

namespace Registry

def Change.concerns (key : Key) : Change → Bool
  | .register registered _ => decide (registered = key)
  | .remove removed => decide (removed = key)
  | .clear => true

def historyOf (key : Key) (changes : List Change) : List Change :=
  changes.filter (Change.concerns key)

variable {objects : Nat → Matcher} {changes others : List Change} {made : Change} {key : Key} {serial : Nat}

private theorem Change.Binds.concerns (binds : made.Binds objects key serial) :
    made.concerns key = true := by
  rw [binds.1]
  exact decide_eq_true rfl

private theorem Change.Unbinds.concerns (unbinds : made.Unbinds key) : made.concerns key = true := by
  rcases unbinds with removes | clears
  · rw [removes]
    exact decide_eq_true rfl
  · rw [clears]
    rfl

private theorem stands_concat_of_unconcerned (unconcerned : made.concerns key = false) :
    Stands objects (changes ++ [made]) key serial ↔ Stands objects changes key serial := by
  have keeps : ¬made.Unbinds key := by
    intro unbinds
    rw [unbinds.concerns] at unconcerned
    cases unconcerned
  have notBound : ∀ other, ¬made.Binds objects key other := by
    intro other binds
    rw [binds.concerns] at unconcerned
    cases unconcerned
  rw [stands_concat_iff]
  simp [keeps, notBound]

private theorem stands_historyOf_iff :
    Stands objects (historyOf key changes) key serial ↔ Stands objects changes key serial := by
  induction changes using List.reverseRecOn with
  | nil => exact Iff.rfl
  | append_singleton changes made ih =>
      unfold historyOf at ih ⊢
      rw [List.filter_append, List.filter_singleton]
      cases concerned : made.concerns key with
      | true => rw [cond_true, stands_concat_iff, ih, stands_concat_iff]
      | false => rw [cond_false, List.append_nil, ih, stands_concat_of_unconcerned concerned]

private theorem get?_historyOf (objects : Nat → Matcher) (changes : List Change) (key : Key) :
    (ofChanges objects (historyOf key changes)).get? key = (ofChanges objects changes).get? key := by
  apply Option.ext
  intro item
  rw [(ofChanges_answers objects _).1 key item, (ofChanges_answers objects _).1 key item]
  simp only [stands_historyOf_iff]

private theorem get?_of_historyOf_eq (objects : Nat → Matcher)
    (same : historyOf key changes = historyOf key others) :
    (ofChanges objects changes).get? key = (ofChanges objects others).get? key := by
  rw [← get?_historyOf, same, get?_historyOf]

end Registry

/-- The key that the first two parts of a token make, all of it in lower case. -/
def Key.leading? (token : Text) : Option Key :=
  match cut ':' (lower token) with
  | scope :: name :: _ => some (of scope name)
  | _ => none

private theorem Key.of_leading? {token : Text} {key : Key} (leads : leading? token = some key) :
    of key.scope key.name = key := by
  unfold leading? at leads
  split at leads
  · cases leads
    simp only [of, Text.lower_lower]
  · cases leads

namespace Engine

open Modifier (BuiltIn)
open Registry (Change ofChanges historyOf)

def mentioned (spec : Text) : List Key :=
  (cut '?' spec).filterMap fun alternative => Key.leading? (naming alternative)

def asking (engine : Engine) (registry : Registry) : Engine :=
  { engine with registry }

variable (engine : Engine) {first second : Registry}

private theorem identify_congr (token : Text)
    (agree : ∀ key, Key.leading? token = some key → first.get? key = second.get? key) :
    (engine.asking first).identify token = (engine.asking second).identify token := by
  have bound : ∀ scope name rest, cut ':' (lower token) = scope :: name :: rest →
      (engine.asking first).registry.get? (Key.of scope name) =
        (engine.asking second).registry.get? (Key.of scope name) := by
    intro scope name rest parts
    apply agree
    rw [Key.leading?, parts]
  unfold identify
  split
  · rfl
  · rename_i scope name parts
    rw [bound scope name [] parts]
    rfl
  · rename_i scope name amount parts
    rw [bound scope name [amount] parts]
  · rfl

private theorem lookupAlternative_congr (alternative : Text)
    (agree : ∀ key, Key.leading? (naming alternative) = some key → first.get? key = second.get? key) :
    (engine.asking first).lookupAlternative alternative =
      (engine.asking second).lookupAlternative alternative := by
  have identified := engine.identify_congr (naming alternative) agree
  obtain ⟨others, tokens⟩ := tokens_eq alternative
  unfold lookupAlternative
  rw [tokens]
  simp only [identified]
  rfl

private theorem lookupFirst_congr (alternatives : List Text)
    (agree : ∀ alternative ∈ alternatives,
      (engine.asking first).lookupAlternative alternative =
        (engine.asking second).lookupAlternative alternative) :
    (engine.asking first).lookupFirst alternatives = (engine.asking second).lookupFirst alternatives := by
  induction alternatives with
  | nil => rfl
  | cons alternative others ih =>
      obtain ⟨here, later⟩ := List.forall_mem_cons.1 agree
      unfold lookupFirst
      rw [here, ih later]

private theorem lookup_congr {spec : Text}
    (agree : ∀ key ∈ mentioned spec, first.get? key = second.get? key) :
    (engine.asking first).lookup spec = (engine.asking second).lookup spec := by
  have each : ∀ alternative ∈ cut '?' spec,
      (engine.asking first).lookupAlternative alternative =
        (engine.asking second).lookupAlternative alternative := by
    intro alternative member
    apply engine.lookupAlternative_congr
    intro key leads
    exact agree key (List.mem_filterMap.2 ⟨alternative, member, leads⟩)
  unfold lookup
  split
  · rename_i alternative alternatives
    rw [alternatives] at each
    exact each alternative (List.mem_singleton_self _)
  · exact engine.lookupFirst_congr _ each

private theorem of_mem_mentioned {spec : Text} {key : Key} (member : key ∈ mentioned spec) :
    Key.of key.scope key.name = key := by
  obtain ⟨alternative, _, leads⟩ := List.mem_filterMap.1 member
  exact Key.of_leading? leads

/-- Two registries that bind the same objects to the keys which a spec mentions give it the same answer. So of
a run of changes all that counts is what was done to each of those keys, and a key that is not in lower case
is of no account at all. -/
theorem lookup_noninterference (spec : Text) :
    (∀ first second : Registry, (∀ key ∈ mentioned spec, first.get? key = second.get? key) →
      (engine.asking first).lookup spec = (engine.asking second).lookup spec) ∧
    (∀ objects changes others, (∀ key ∈ mentioned spec, historyOf key changes = historyOf key others) →
      (engine.asking (ofChanges objects changes)).lookup spec =
        (engine.asking (ofChanges objects others)).lookup spec) ∧
    ∀ objects before key serial later, Key.of key.scope key.name ≠ key →
      (engine.asking (ofChanges objects (before ++ Change.register key serial :: later))).lookup spec =
        (engine.asking (ofChanges objects (before ++ later))).lookup spec := by
  have ofHistories : ∀ objects changes others,
      (∀ key ∈ mentioned spec, historyOf key changes = historyOf key others) →
        (engine.asking (ofChanges objects changes)).lookup spec =
          (engine.asking (ofChanges objects others)).lookup spec := by
    intro objects changes others same
    apply engine.lookup_congr
    intro key member
    exact Registry.get?_of_historyOf_eq objects (same key member)
  refine ⟨fun _ _ => engine.lookup_congr, ofHistories, ?_⟩
  intro objects before key serial later raised
  apply ofHistories
  intro sought member
  have apart : (Change.register key serial).concerns sought = false := by
    apply decide_eq_false
    intro same
    rw [same] at raised
    exact raised (of_mem_mentioned member)
  unfold historyOf
  rw [List.filter_append, List.filter_append, List.filter_cons_of_neg (by simp [apart])]

/-- The gems have come second in one run and last in another, in which a key in capitals was bound too. -/
theorem lookup_noninterference_gems :
    let gems := CustomItem.gems
    let thing : Key := ⟨"vault".toList, "thing".toList⟩
    let raised : Key := ⟨"Vault".toList, "Gems".toList⟩
    let objects := fun serial =>
      if serial = 1 then gems.toMatcher else .custom 2 thing (Condition.always true).test (.of .paper)
    let changes := [Change.register thing 2, Change.register gems.key 1]
    let others := [Change.register raised 2, Change.remove thing, Change.register gems.key 1]
    let spec := "Vault:Gems:9 unbreakable?stone".toList
    let engine : Engine := { parsers := BuiltIn.all.map BuiltIn.parser }
    mentioned spec = [gems.key] ∧ historyOf gems.key changes = historyOf gems.key others ∧
      (ofChanges objects changes).keys = [thing, gems.key] ∧
      (ofChanges objects others).keys = [raised, gems.key] ∧
      Key.of raised.scope raised.name ≠ raised ∧
      (engine.asking (ofChanges objects changes)).finds spec
        (fun matcher => decide (matcher.representative.amount = 9)) = true ∧
      (engine.asking (ofChanges objects changes)).lookup spec =
        (engine.asking (ofChanges objects others)).lookup spec ∧
      (engine.asking (ofChanges objects others)).lookup spec =
        (engine.asking (ofChanges objects (others.drop 1))).lookup spec ∧
      (engine.asking (ofChanges objects changes)).lookup spec =
        (engine.asking (offering gems []).registry).lookup spec := by
  intro gems thing raised objects changes others spec engine
  have single : mentioned spec = [gems.key] := by decide +kernel
  have sameHistory : historyOf gems.key changes = historyOf gems.key others := by rfl
  have capital : Key.of raised.scope raised.name ≠ raised := by decide
  obtain ⟨ofBindings, ofHistories, ofRaised⟩ := lookup_noninterference engine spec
  refine ⟨single, sameHistory, by decide, by decide, capital, by decide +kernel, ?_, ?_, ?_⟩
  · apply ofHistories
    rw [single]
    exact List.forall_mem_singleton.2 sameHistory
  · exact ofRaised objects [] raised 2 (others.drop 1) capital
  · apply ofBindings
    rw [single]
    exact List.forall_mem_singleton.2 rfl

end Engine

end ItemSpec

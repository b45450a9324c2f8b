import ItemSpec.Modifier.Scripted
import ItemSpec.Proofs.Engine.Alternation
import ItemSpec.Proofs.Engine.NonInterference
import ItemSpec.Proofs.Number.Bounded
set_option autoImplicit false

/-! The form of what a lookup finds, whatever the registry, the resolver, the parsers and the policy: the
shared empty matcher, or a material that is not air or an item of the registry, with at most one matcher for
the modifiers around it and at most one for the amount around that. -/

namespace ItemSpec

open Text (cut)

/-- What is made of something that a spec names: modifiers around it or not, and around those an amount, unless
that is one. -/
inductive Found.Chain (policy : StackPolicy) (base : Found) : Bool → Int → Found → Prop where
  | bare : Chain policy base false 1 base
  | modified (test : Test) (shown : Stack) :
      Chain policy base true 1 (.new (.modified base.matcher test shown))
  | counted {amount : Int} (several : amount ≠ 1) :
      Chain policy base false amount (.new (.counted base.matcher amount policy))
  | countedModified {amount : Int} (test : Test) (shown : Stack) (several : amount ≠ 1) :
      Chain policy base true amount (.new (.counted (.modified base.matcher test shown) amount policy))

theorem Found.Chain.kinds {policy : StackPolicy} {base found : Found} {modified : Bool} {amount : Int}
    (chain : Chain policy base modified amount found) :
    found.matcher.tree.map Matcher.kind =
      (if amount = 1 then [] else ["stack".toList]) ++ (if modified then ["modified".toList] else []) ++
        base.matcher.tree.map Matcher.kind := by
  cases chain with
  | bare => rfl
  | modified test shown => rfl
  | counted several =>
      rw [if_neg several]
      rfl
  | countedModified test shown several =>
      rw [if_neg several]
      rfl

private theorem Base.Genuine.kind {base : Base} (genuine : base.Genuine) :
    base.found.matcher.kind = "material".toList ∨ base.found.matcher.kind = "custom".toList := by
  cases genuine with
  | material solid => exact .inl rfl
  | item item =>
      refine .inr ?_
      show item.toMatcher.kind = _
      unfold CustomItem.toMatcher
      cases item.definition <;> rfl

namespace Engine

open Modifier (Scripted)

/-- What a spec can name: what the resolver has under a name, air apart, and what the registry has under a key
that the spec mentions. -/
inductive Nameable (engine : Engine) (spec : Text) : Base → Prop where
  | material {name : Text} {material : Material} (resolved : engine.resolve name = some material)
      (solid : material ≠ .air) : Nameable engine spec (.material material)
  | item {key : Key} {item : Handle} (mentions : key ∈ mentioned spec)
      (bound : engine.registry.get? key = some item) : Nameable engine spec (.item item)

variable {engine : Engine}

/-! ### What is named -/

private theorem Names.item_bound {token : Text} {item : Handle} {named : Int}
    (names : engine.Names token (.item item) named) :
    ∃ key, Key.leading? token = some key ∧ engine.registry.get? key = some item := by
  cases names with
  | item parts bound => exact ⟨_, by rw [Key.leading?, parts], bound⟩
  | itemAmount parts bound number => exact ⟨_, by rw [Key.leading?, parts], bound⟩

private theorem Names.inRange {token : Text} {base : Base} {named : Int}
    (names : engine.Names token base named) :
    Number.InRange named := by
  have one : Number.InRange 1 := ⟨by decide, by decide⟩
  cases names with
  | material parts resolved solid => exact one
  | item parts bound => exact one
  | materialAmount parts unbound resolved solid number => exact (Number.denotes_of_read number).2
  | itemAmount parts bound number => exact (Number.denotes_of_read number).2

private theorem Counts.inRange {named amount : Int} {others modifiers : List Text}
    (counts : Counts named others amount modifiers) (inside : Number.InRange named) :
    Number.InRange amount := by
  cases counts with
  | nothing => exact inside
  | written number => exact (Number.denotes_of_read number).2
  | unwritten word => exact inside

private theorem Reads.inRange {alternative : Text} {order : Order}
    (reads : engine.Reads alternative order) :
    Number.InRange order.amount := by
  obtain ⟨_, _, names, counts⟩ := reads
  exact counts.inRange names.inRange

private theorem Reads.nameable {spec alternative : Text} {order : Order}
    (reads : engine.Reads alternative order)
    (member : alternative ∈ cut '?' spec) : engine.Nameable spec order.base := by
  cases reads with
  | @intro token others base named amount modifiers tokens notEmpty names counts =>
      obtain ⟨_, same⟩ := tokens_eq alternative
      obtain ⟨rfl, _⟩ := List.cons.inj (tokens.symm.trans same)
      cases base with
      | material material =>
          cases names with
          | material parts resolved solid => exact .material resolved solid
          | materialAmount parts unbound resolved solid number => exact .material resolved solid
      | item item =>
          obtain ⟨key, leads, bound⟩ := names.item_bound
          exact .item (List.mem_filterMap.2 ⟨alternative, member, leads⟩) bound

/-! ### What is made of it -/

private theorem modify_of_no_parsers (none : engine.parsers = []) (base : Found) (modifiers : List Text) :
    (engine.modify base modifiers).outcome = .ok (some base) := by
  unfold modify
  rw [none]
  rfl

theorem dress_chain (policy : StackPolicy) (base : Found) (tests : List Test) (before after : Meta) :
    ∃ modified, Found.Chain policy base modified 1 (dress base tests before after) := by
  unfold dress
  split
  · exact ⟨false, .bare⟩
  · exact ⟨true, .modified _ _⟩

private theorem modify_chain {base dressed : Found} {modifiers : List Text}
    (dresses : (engine.modify base modifiers).outcome = .ok (some dressed)) :
    ∃ modified, Found.Chain engine.policy base modified 1 dressed ∧
      (engine.parsers = [] → modified = false) := by
  by_cases none : engine.parsers = []
  · rw [modify_of_no_parsers none] at dresses
    cases dresses
    exact ⟨false, .bare, fun _ => rfl⟩
  · cases readable : base.matcher.representative.meta? with
    | none =>
        rw [engine.modify_of_unreadable base modifiers readable] at dresses
        cases dresses
        exact ⟨false, .bare, fun _ => rfl⟩
    | some before =>
        obtain ⟨replies, after, _, rfl⟩ := (engine.modify_eq_some_iff base modifiers readable dressed).1 dresses
        obtain ⟨modified, chain⟩ := dress_chain engine.policy base _ before after
        exact ⟨modified, chain, fun empty => absurd empty none⟩

theorem count_chain {base dressed : Found} {modified : Bool}
    (chain : Found.Chain engine.policy base modified 1 dressed) (amount : Int) :
    Found.Chain engine.policy base modified amount (engine.count dressed amount) := by
  unfold count
  split
  · rename_i one
    rw [one]
    exact chain
  · rename_i several
    cases chain with
    | bare => exact .counted several
    | modified test shown => exact .countedModified test shown several
    | counted notOne => exact absurd rfl notOne
    | countedModified test shown notOne => exact absurd rfl notOne

/-! ### Where the answer comes from -/

private theorem lookupFirst_answers {alternatives : List Text} {found : Found}
    (looked : (engine.lookupFirst alternatives).outcome = .ok found) :
    found = .nothing ∨
      ∃ alternative ∈ alternatives, (engine.lookupAlternative alternative).outcome = .ok found := by
  induction alternatives with
  | nil =>
      cases looked
      exact .inl rfl
  | cons alternative others ih =>
      rw [lookupFirst_cons_outcome] at looked
      cases here : (engine.lookupAlternative alternative).outcome with
      | error fault =>
          rw [here] at looked
          cases looked
      | ok first =>
          rw [here, Fault.ok_bind] at looked
          split at looked
          · rcases ih looked with nothing | ⟨later, member, there⟩
            · exact .inl nothing
            · exact .inr ⟨later, List.mem_cons_of_mem _ member, there⟩
          · cases looked
            exact .inr ⟨alternative, List.mem_cons_self, here⟩

private theorem lookup_answers {spec : Text} {found : Found}
    (looked : (engine.lookup spec).outcome = .ok found) :
    found = .nothing ∨
      ∃ alternative ∈ cut '?' spec, (engine.lookupAlternative alternative).outcome = .ok found := by
  by_cases several : '?' ∈ spec
  · rw [lookup_of_several several] at looked
    exact lookupFirst_answers looked
  · rw [lookup_of_single several] at looked
    rw [Text.cut_of_not_mem several]
    exact .inr ⟨spec, List.mem_singleton_self spec, looked⟩

/-- What a lookup finds is the shared empty matcher or is made of what one alternative of the spec names. The
modifiers come next to what is named, and nothing comes there without parsers; the amount that is asked for,
which has 32 bits, comes around all that exactly where it is not one, with the policy of the engine. Over a
registry of custom items what is named is itself no such matcher. -/
theorem lookup_normal_form {spec : Text} {found : Found}
    (looked : (engine.lookup spec).outcome = .ok found) :
    found = .nothing ∨ ∃ alternative ∈ cut '?' spec, ∃ order modified,
      engine.Reads alternative order ∧ engine.Nameable spec order.base ∧
      Found.Chain engine.policy order.base.found modified order.amount found ∧
      Number.InRange order.amount ∧ (engine.parsers = [] → modified = false) ∧
      (engine.registry.Genuine → order.base.found.matcher.kind = "material".toList ∨
        order.base.found.matcher.kind = "custom".toList) := by
  rcases lookup_answers looked with nothing | ⟨alternative, member, lookedThere⟩
  · exact .inl nothing
  · rcases lookupAlternative_answers lookedThere with nothing | ⟨order, dressed, reads, dresses, rfl⟩
    · exact .inl nothing
    · obtain ⟨modified, chain, unmodified⟩ := modify_chain dresses
      exact .inr ⟨alternative, member, order, modified, reads, reads.nameable member,
        count_chain chain order.amount, reads.inRange, unmodified,
        fun customs => (reads.genuine customs).kind⟩

/-- Gems in seven, behind an alternative that only the resolver of the host has, under the name of which it has
air; a parser that adds a test to whatever it is given makes them modified. -/
theorem lookup_normal_form_gems :
    let resolver := Resolver.table [("void".toList, .air), ("gold".toList, .diamond)]
    let engine : Engine :=
      { offering .gems [] with
        resolve := resolver, policy := .exact,
        parsers := [(Scripted.demanding (.leastAmount 2)).parser] }
    let spec := "void 3?gold:x?Vault:Gems:5 7 shiny?gold".toList
    ∃ found, (engine.lookup spec).outcome = .ok found ∧
      found.matcher.tree.map Matcher.kind = ["stack".toList, "modified".toList, "custom".toList] ∧
      engine.registry.Genuine ∧
      (found = .nothing ∨ ∃ alternative ∈ cut '?' spec, ∃ order modified,
        engine.Reads alternative order ∧ engine.Nameable spec order.base ∧
        Found.Chain engine.policy order.base.found modified order.amount found ∧
        Number.InRange order.amount ∧ (engine.parsers = [] → modified = false) ∧
        (engine.registry.Genuine → order.base.found.matcher.kind = "material".toList ∨
          order.base.found.matcher.kind = "custom".toList)) := by
  intro resolver engine spec
  have finds : engine.finds spec (fun matcher => decide (matcher.tree.map Matcher.kind =
      ["stack".toList, "modified".toList, "custom".toList])) = true := by decide +kernel
  obtain ⟨found, looked, _, decided⟩ := (finds_eq_true_iff spec _).1 finds
  exact ⟨found, looked, of_decide_eq_true decided, offering_genuine .gems [], lookup_normal_form looked⟩

end Engine

end ItemSpec

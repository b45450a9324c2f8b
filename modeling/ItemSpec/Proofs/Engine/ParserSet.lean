import ItemSpec.Proofs.Engine.Alternation
import ItemSpec.Proofs.Modifier.Repetition
set_option autoImplicit false

/-! The parsers of an engine as a set. Engines that differ in the order of their library parsers, or in how
often each is there, look a spec up to the same: matchers of the same forms throughout, with the same
representative and the same verdicts. The tests that they hold may well stand in another order. -/

namespace ItemSpec

structure Matcher.Agrees (one other : Matcher) : Prop where
  kinds : one.tree.map kind = other.tree.map kind
  representative : one.representative = other.representative
  accepts : ∀ stack, one.accepts stack = other.accepts stack

namespace Matcher

private theorem Agrees.refl (matcher : Matcher) : matcher.Agrees matcher :=
  ⟨rfl, rfl, fun _ => rfl⟩

theorem isEmpty_eq (matcher : Matcher) :
    matcher.isEmpty = decide ((matcher.tree.map kind).head? = some "empty".toList) := by
  cases matcher <;> rfl

private theorem Agrees.isEmpty {one other : Matcher} (agrees : one.Agrees other) :
    one.isEmpty = other.isEmpty := by
  rw [isEmpty_eq, isEmpty_eq, agrees.kinds]

end Matcher

inductive Found.Agrees : Found → Found → Prop where
  | object (handle : Handle) : Agrees (.object handle) (.object handle)
  | new {one other : Matcher} (matchers : one.Agrees other) : Agrees (.new one) (.new other)

namespace Found.Agrees

private theorem refl (found : Found) : found.Agrees found := by
  cases found with
  | object handle => exact .object handle
  | new matcher => exact .new (.refl matcher)

private theorem matcher {one other : Found} (agrees : one.Agrees other) :
    one.matcher.Agrees other.matcher := by
  cases agrees with
  | object handle => exact .refl handle.matcher
  | new matchers => exact matchers

end Found.Agrees

/-- Two lookups come to the same: both give up over one fault, or what they find agrees. -/
inductive SameOutcome : Except Fault Found → Except Fault Found → Prop where
  | fault (fault : Fault) : SameOutcome (.error fault) (.error fault)
  | found {one other : Found} (agrees : one.Agrees other) : SameOutcome (.ok one) (.ok other)

private theorem SameOutcome.bind {one other : Except Fault Found} (same : SameOutcome one other)
    {next nextOther : Found → Except Fault Found}
    (later : ∀ found foundOther, found.Agrees foundOther → SameOutcome (next found) (nextOther foundOther)) :
    SameOutcome (one >>= next) (other >>= nextOther) := by
  cases same with
  | fault fault => exact .fault fault
  | found agrees => exact later _ _ agrees

namespace Engine

open Modifier (BuiltIn readAll)

def reading (engine : Engine) (kinds : List BuiltIn) : Engine :=
  { engine with parsers := kinds.map BuiltIn.parser }

variable (engine : Engine) {kinds others : List BuiltIn}

/-! ### Dressing and counting -/

private theorem dress_agrees (base : Found) {tests otherTests : List Test}
    (sameEmpty : tests = [] ↔ otherTests = [])
    (sameVerdict : ∀ stack, Test.all tests (.stack stack) = Test.all otherTests (.stack stack))
    (before after : Meta) :
    (dress base tests before after).Agrees (dress base otherTests before after) := by
  unfold dress
  simp only [Bool.and_eq_true, List.isEmpty_iff, decide_eq_true_eq, sameEmpty]
  split
  · exact .refl base
  · refine .new ⟨rfl, rfl, fun stack => ?_⟩
    rw [Matcher.accepts_modified, Matcher.accepts_modified, sameVerdict]

private theorem count_agrees {one other : Found} (agrees : one.Agrees other) (amount : Int) :
    (engine.count one amount).Agrees (engine.count other amount) := by
  unfold count
  split
  · exact agrees
  · obtain ⟨sameKinds, sameRepresentative, sameVerdict⟩ := agrees.matcher
    refine .new ⟨congrArg (_ :: ·) sameKinds, ?_, fun stack => ?_⟩
    · exact congrArg (fun shown : Stack => { shown with amount }) sameRepresentative
    · rw [Matcher.accepts_counted, Matcher.accepts_counted, sameVerdict]

/-! ### Parsers of the same kinds -/

private theorem modify_agrees (same : ∀ kind, kind ∈ kinds ↔ kind ∈ others) (base : Found)
    (modifiers : List Text) :
    ∃ dressed? dressedOther?,
      ((engine.reading kinds).modify base modifiers).outcome = .ok dressed? ∧
      ((engine.reading others).modify base modifiers).outcome = .ok dressedOther? ∧
      Option.Rel Found.Agrees dressed? dressedOther? := by
  have parsers : ∀ kinds, (engine.reading kinds).parsers = kinds.map BuiltIn.parser := fun _ => rfl
  cases readable : base.matcher.representative.meta? with
  | none =>
      exact ⟨_, _, modify_of_unreadable _ base modifiers readable,
        modify_of_unreadable _ base modifiers readable, .some (.refl base)⟩
  | some before =>
      by_cases requested : ∀ kind ∈ kinds, (kind.rule.request modifiers).outcome = .ok (kind.asked modifiers)
      · have requestedOther : ∀ kind ∈ others, (kind.rule.request modifiers).outcome = .ok (kind.asked modifiers) :=
          fun kind member => requested kind ((same kind).2 member)
        refine ⟨_, _, modify_of_requested (parsers kinds) readable requested,
          modify_of_requested (parsers others) readable requestedOther, .some ?_⟩
        unfold dressBy
        rw [BuiltIn.writeAll_eq_of_same modifiers before same]
        apply dress_agrees base ?_ (BuiltIn.all_added_eq_of_same modifiers same) before
        simp only [BuiltIn.added_flatMap_eq_nil_iff, same]
      · have unrequested : ¬∀ kind ∈ others,
            (kind.rule.request modifiers).outcome = .ok (kind.asked modifiers) :=
          fun every => requested fun kind member => every kind ((same kind).1 member)
        exact ⟨_, _, modify_of_unrequested (parsers kinds) readable requested,
          modify_of_unrequested (parsers others) readable unrequested, .none⟩

private theorem fill_agrees (same : ∀ kind, kind ∈ kinds ↔ kind ∈ others) (order : Order) :
    SameOutcome ((engine.reading kinds).fill order).outcome ((engine.reading others).fill order).outcome := by
  obtain ⟨dressed?, dressedOther?, modified, modifiedOther, agree⟩ :=
    modify_agrees engine same order.base.found order.modifiers
  simp only [fill, Traced.outcome_bind, modified, modifiedOther, Fault.ok_bind]
  cases agree with
  | none => exact .found (.refl .nothing)
  | some agrees => exact .found (count_agrees engine agrees order.amount)

private theorem lookupAlternative_agrees (same : ∀ kind, kind ∈ kinds ↔ kind ∈ others)
    (alternative : Text) :
    SameOutcome ((engine.reading kinds).lookupAlternative alternative).outcome
      ((engine.reading others).lookupAlternative alternative).outcome := by
  have sameOrder : ∀ kinds, (engine.reading kinds).order? alternative = engine.order? alternative :=
    fun _ => rfl
  rw [lookupAlternative_outcome, lookupAlternative_outcome, sameOrder, sameOrder]
  cases engine.order? alternative with
  | error fault => exact .fault fault
  | ok order? =>
      cases order? with
      | none => exact .found (.refl .nothing)
      | some order => exact fill_agrees engine same order

private theorem lookupFirst_agrees (same : ∀ kind, kind ∈ kinds ↔ kind ∈ others)
    (alternatives : List Text) :
    SameOutcome ((engine.reading kinds).lookupFirst alternatives).outcome
      ((engine.reading others).lookupFirst alternatives).outcome := by
  induction alternatives with
  | nil => exact .found (.refl .nothing)
  | cons alternative rest ih =>
      rw [lookupFirst_cons_outcome, lookupFirst_cons_outcome]
      refine (lookupAlternative_agrees engine same alternative).bind fun found foundOther agrees => ?_
      rw [agrees.matcher.isEmpty]
      split
      · exact ih
      · exact .found agrees

private theorem lookup_agrees (same : ∀ kind, kind ∈ kinds ↔ kind ∈ others) (spec : Text) :
    SameOutcome ((engine.reading kinds).lookup spec).outcome ((engine.reading others).lookup spec).outcome := by
  by_cases several : '?' ∈ spec
  · rw [lookup_of_several several, lookup_of_several several]
    exact lookupFirst_agrees engine same _
  · rw [lookup_of_single several, lookup_of_single several]
    exact lookupAlternative_agrees engine same spec

/-! ### Adding parsers -/

private theorem addParsers_builtIns (kinds : List BuiltIn) :
    (engine.addParsers (kinds.map fun kind => .parser kind.parser)).outcome =
      .ok { engine with parsers := engine.parsers ++ kinds.map BuiltIn.parser } := by
  induction kinds generalizing engine with
  | nil => simp [addParsers]
  | cons kind rest ih =>
      simp only [List.map_cons, addParsers, addParser, Traced.outcome_bind, Traced.outcome_note,
        Traced.outcome_pure, Fault.ok_bind]
      rw [ih, List.append_assoc, List.singleton_append]

/-- Library parsers are a set, whatever the registry, the resolver and the policy: lists of the same kinds
look every spec up to the same, and the default parsers added again change nothing. -/
theorem lookup_parsers_as_set (same : ∀ kind, kind ∈ kinds ↔ kind ∈ others) :
    (∀ spec, SameOutcome ((engine.reading kinds).lookup spec).outcome
      ((engine.reading others).lookup spec).outcome) ∧
    ∃ once twice, ((engine.reading kinds).addParsers defaultOffers).outcome = .ok once ∧
      (once.addParsers defaultOffers).outcome = .ok twice ∧
      ∀ spec, SameOutcome (once.lookup spec).outcome (twice.lookup spec).outcome := by
  have extended : ∀ kinds, ((engine.reading kinds).addParsers defaultOffers).outcome =
      .ok (engine.reading (kinds ++ BuiltIn.all)) := by
    intro kinds
    rw [defaultOffers, addParsers_builtIns]
    simp only [reading, List.map_append]
  refine ⟨lookup_agrees engine same, _, _, extended kinds, extended _, lookup_agrees engine fun kind => ?_⟩
  simp only [List.mem_append, or_assoc, or_self]

/-- Gems for two parsers that ask for something, one of them there twice. -/
theorem lookup_parsers_as_set_gems :
    let engine := offering .gems []
    let kinds : List BuiltIn := [.flag, .enchantment, .flag]
    let others : List BuiltIn := [.enchantment, .enchantment, .flag]
    let spec := "air 3?Vault:Gems 7 sharpness:3 flag:hide_dye luck sharpness:2".toList
    (∀ kind, kind ∈ kinds ↔ kind ∈ others) ∧ (engine.reading kinds).finds spec (fun _ => true) = true ∧
      SameOutcome ((engine.reading kinds).lookup spec).outcome ((engine.reading others).lookup spec).outcome ∧
      ∃ once twice, ((engine.reading kinds).addParsers defaultOffers).outcome = .ok once ∧
        (once.addParsers defaultOffers).outcome = .ok twice ∧
        SameOutcome (once.lookup spec).outcome (twice.lookup spec).outcome := by
  intro engine kinds others spec
  have same : ∀ kind, kind ∈ kinds ↔ kind ∈ others := by
    intro kind
    cases kind <;> decide
  obtain ⟨agree, once, twice, addedOnce, addedTwice, unchanged⟩ := lookup_parsers_as_set engine same
  exact ⟨same, by decide +kernel, agree spec, once, twice, addedOnce, addedTwice, unchanged spec⟩

end Engine

end ItemSpec

import ItemSpec.Proofs.Engine.NormalForm
import ItemSpec.Proofs.Engine.ParserSet
import ItemSpec.Proofs.Modifier.Recased
set_option autoImplicit false

/-! Specs that differ in the case of ASCII letters only, over the catalogue and the library's parsers. They are
read as orders for the same in the same amount, with recased modifiers, so lookups of them come to the same: one
fault, nothing, or matchers of one form around one base. What the letters can make a difference to is a display
name that the modifiers ask for. -/

namespace ItemSpec

open Modifier (BuiltIn)
open Text (cut folded)

def Stack.titled (stack : Stack) (name : Text) : Stack :=
  { stack with meta? := stack.meta?.map fun data => data.titled name }

/-- What recased modifiers make of one base in one amount: matchers of one form, which are the same altogether
unless a display name is asked for, and then show stacks that are the same but for the case of that name. -/
structure Found.Recased (policy : StackPolicy) (kinds : List BuiltIn) (modifiers others : List Text)
    (base : Found) (amount : Int) (found other : Found) : Prop where
  chain : ∃ modified, Found.Chain policy base modified amount found ∧
    Found.Chain policy base modified amount other
  forms : found.matcher.tree.map Matcher.kind = other.matcher.tree.map Matcher.kind
  untitled : (∀ name, ¬BuiltIn.Titles kinds modifiers name) → other = found
  titled : ∀ name, BuiltIn.Titles kinds modifiers name →
    ∃ nameOther, BuiltIn.Titles kinds others nameOther ∧ Text.Recased name nameOther ∧
      found.matcher.representative = other.matcher.representative.titled name ∧
      other.matcher.representative = found.matcher.representative.titled nameOther

private theorem Found.Recased.isEmpty {policy : StackPolicy} {kinds : List BuiltIn}
    {modifiers others : List Text}
    {base found other : Found} {amount : Int}
    (recased : Found.Recased policy kinds modifiers others base amount found other) :
    found.matcher.isEmpty = other.matcher.isEmpty := by
  rw [Matcher.isEmpty_eq, Matcher.isEmpty_eq, recased.forms]

namespace Engine

open Traced (outcome_bind)

structure Order.Recased (order other : Order) : Prop where
  base : other.base = order.base
  amount : other.amount = order.amount
  modifiers : List.Forall₂ Text.Recased order.modifiers other.modifiers

/-- Two searches among alternatives come to the same: to one fault, to nothing, or to what recased orders of two
of them are filled with. -/
inductive Recasing (engine : Engine) (kinds : List BuiltIn) (alternatives others : List Text) :
    Except Fault Found → Except Fault Found → Prop where
  | fault (fault : Fault) : Recasing engine kinds alternatives others (.error fault) (.error fault)
  | nothing : Recasing engine kinds alternatives others (.ok .nothing) (.ok .nothing)
  | found {alternative other : Text} {order orderOther : Order} {found foundOther : Found}
      (member : alternative ∈ alternatives) (memberOther : other ∈ others)
      (looked : (engine.lookupAlternative alternative).outcome = .ok found)
      (lookedOther : (engine.lookupAlternative other).outcome = .ok foundOther)
      (reads : engine.Reads alternative order) (readsOther : engine.Reads other orderOther)
      (recased : order.Recased orderOther)
      (alike : Found.Recased engine.policy kinds order.modifiers orderOther.modifiers order.base.found
        order.amount found foundOther) :
      Recasing engine kinds alternatives others (.ok found) (.ok foundOther)

variable {engine : Engine} {kinds : List BuiltIn}

private theorem Recasing.mono {alternatives others more moreOthers : List Text}
    {one other : Except Fault Found}
    (recasing : engine.Recasing kinds alternatives others one other) (within : alternatives ⊆ more)
    (withinOthers : others ⊆ moreOthers) : engine.Recasing kinds more moreOthers one other := by
  cases recasing with
  | fault fault => exact .fault fault
  | nothing => exact .nothing
  | found member memberOther looked lookedOther reads readsOther recased alike =>
      exact .found (within member) (withinOthers memberOther) looked lookedOther reads readsOther recased alike

/-! ### Reading -/

private theorem takeAmount_folded (named : Int) (tokens : List Text) :
    takeAmount named (tokens.map folded) =
    (takeAmount named tokens).map fun counted => (counted.1, counted.2.map folded) := by
  cases tokens with
  | nil => rfl
  | cons token others =>
      rw [List.map_cons, takeAmount, takeAmount, Number.read_folded]
      cases Number.read token with
      | error fault => rfl
      | ok amount? => cases amount? <;> rfl

section Catalogue

variable (catalogue : engine.resolve = Resolver.catalogue)

include catalogue

private theorem identify_folded (token : Text) :
    engine.identify (folded token) = engine.identify token := by
  have sameMaterial : engine.material? (folded token) = engine.material? token := by
    rw [material?, material?, catalogue, Resolver.catalogue, Material.resolve, Material.resolve,
      Text.upper_folded]
  rw [identify, identify, Text.lower_folded, sameMaterial]

private theorem order?_folded (alternative : Text) :
    engine.order? (folded alternative) = (engine.order? alternative).map fun order? =>
      order?.map fun order => { order with modifiers := order.modifiers.map folded } := by
  have noLetter : ' '.isAlpha = false := by decide
  rw [order?, order?, Text.dropTrailing_folded noLetter, Text.cut_folded noLetter]
  cases cut ' ' (Text.dropTrailing ' ' alternative) with
  | nil => rfl
  | cons token others =>
      have sameEmpty : folded token = [] ↔ token = [] := List.map_eq_nil_iff
      simp only [List.map_cons, sameEmpty, identify_folded catalogue, takeAmount_folded]
      split
      · rfl
      · cases engine.identify token with
        | error fault => rfl
        | ok named? =>
            cases named? with
            | none => rfl
            | some named =>
                simp only [Fault.ok_bind]
                cases takeAmount named.2 others with
                | error fault => rfl
                | ok counted => rfl

private theorem order?_recased {alternative other : Text} (recased : Text.Recased alternative other) :
    (∃ fault, engine.order? alternative = .error fault ∧ engine.order? other = .error fault) ∨
      (engine.order? alternative = .ok none ∧ engine.order? other = .ok none) ∨
      ∃ order orderOther, engine.order? alternative = .ok (some order) ∧
        engine.order? other = .ok (some orderOther) ∧ order.Recased orderOther := by
  have same := order?_folded catalogue other
  rw [← (Text.recased_iff _ _).1 recased, order?_folded catalogue] at same
  cases read : engine.order? alternative with
  | error fault =>
      cases readOther : engine.order? other with
      | error faultOther =>
          rw [read, readOther] at same
          cases same
          exact .inl ⟨fault, rfl, rfl⟩
      | ok order? =>
          rw [read, readOther] at same
          cases same
  | ok order? =>
      cases readOther : engine.order? other with
      | error faultOther =>
          rw [read, readOther] at same
          cases same
      | ok orderOther? =>
          rw [read, readOther, Fault.ok_map, Fault.ok_map, Except.ok.injEq] at same
          cases order? with
          | none =>
              cases orderOther? with
              | none => exact .inr (.inl ⟨rfl, rfl⟩)
              | some orderOther => cases same
          | some order =>
              cases orderOther? with
              | none => cases same
              | some orderOther =>
                  simp only [Option.map_some, Option.some.injEq, Order.mk.injEq] at same
                  obtain ⟨sameBase, sameAmount, sameModifiers⟩ := same
                  exact .inr (.inr ⟨order, orderOther, rfl, rfl, sameBase.symm, sameAmount.symm,
                    (Text.forall₂_recased_iff _ _).2 sameModifiers⟩)

end Catalogue

/-! ### Dressing and counting -/

variable {modifiers others : List Text}

/-- A display name is a test of its own, so a matcher is made wherever one is asked for. -/
theorem dressBy_of_titles {tokens : List Text} {name : Text} (titles : BuiltIn.Titles kinds tokens name)
    (base : Found) (before : Meta) :
    dressBy kinds base tokens before =
      .new (.modified base.matcher (Test.all (kinds.flatMap (BuiltIn.added tokens)))
        (base.matcher.representative.setMeta (some (BuiltIn.writeAll kinds tokens before)))) := by
  have tested : ¬(kinds.flatMap (BuiltIn.added tokens)).isEmpty = true := by
    intro untested
    rw [List.isEmpty_iff, BuiltIn.added_flatMap_eq_nil_iff] at untested
    have silent := untested _ titles.1
    rw [(BuiltIn.titles_iff titles.1 tokens name).1 titles] at silent
    cases silent
  apply if_neg
  rw [Bool.and_eq_true]
  exact fun both => tested both.1

section Modify

variable (alike : List.Forall₂ Text.Recased modifiers others)

include alike

private theorem representative_dressBy_recased {base : Found} {before : Meta}
    (readable : base.matcher.representative.meta? = some before) {name : Text}
    (titles : BuiltIn.Titles kinds others name) :
    (dressBy kinds base others before).matcher.representative =
      (dressBy kinds base modifiers before).matcher.representative.titled name := by
  rw [dressBy, dressBy, representative_dress base _ _ readable, representative_dress base _ _ readable,
    BuiltIn.writeAll_of_titles alike titles]
  rfl

private theorem dressBy_recased (policy : StackPolicy) {base : Found} {before : Meta}
    (readable : base.matcher.representative.meta? = some before) :
    Found.Recased policy kinds modifiers others base 1 (dressBy kinds base modifiers before)
      (dressBy kinds base others before) := by
  by_cases titled : ∃ name, BuiltIn.Titles kinds modifiers name
  · obtain ⟨name, titles⟩ := titled
    obtain ⟨nameOther, titlesOther, _⟩ := titles.recased alike
    refine ⟨⟨true, ?_, ?_⟩, ?_, ?_, ?_⟩
    · rw [dressBy_of_titles titles]
      exact .modified _ _
    · rw [dressBy_of_titles titlesOther]
      exact .modified _ _
    · rw [dressBy_of_titles titles, dressBy_of_titles titlesOther]
      rfl
    · intro untitled
      exact absurd titles (untitled name)
    · intro name titles
      obtain ⟨nameOther, titlesOther, recasedName⟩ := titles.recased alike
      exact ⟨nameOther, titlesOther, recasedName,
        representative_dressBy_recased (Text.recased_symm alike) readable titles,
        representative_dressBy_recased alike readable titlesOther⟩
  · have untitled := not_exists.1 titled
    obtain ⟨sameTests, sameMeta⟩ := BuiltIn.run_recased_of_untitled alike untitled before
    have same : dressBy kinds base others before = dressBy kinds base modifiers before := by
      rw [dressBy, dressBy, sameTests, sameMeta]
    obtain ⟨modified, chain⟩ := dress_chain policy base (kinds.flatMap (BuiltIn.added modifiers)) before
      (BuiltIn.writeAll kinds modifiers before)
    rw [same]
    exact ⟨⟨modified, chain, chain⟩, rfl, fun _ => rfl, fun name titles => absurd titles (untitled name)⟩

private theorem modify_recased (library : engine.parsers = kinds.map BuiltIn.parser) (base : Found) :
    ∃ dressed? dressedOther?, (engine.modify base modifiers).outcome = .ok dressed? ∧
      (engine.modify base others).outcome = .ok dressedOther? ∧
      Option.Rel (Found.Recased engine.policy kinds modifiers others base 1) dressed? dressedOther? := by
  cases readable : base.matcher.representative.meta? with
  | none =>
      refine ⟨_, _, engine.modify_of_unreadable base modifiers readable,
        engine.modify_of_unreadable base others readable, .some ⟨⟨false, .bare, .bare⟩, rfl, fun _ => rfl, ?_⟩⟩
      intro name titles
      obtain ⟨nameOther, titlesOther, recasedName⟩ := titles.recased alike
      have unnamed : ∀ name, base.matcher.representative = base.matcher.representative.titled name := by
        intro name
        rw [Stack.titled, readable, Option.map_none, ← readable]
      exact ⟨nameOther, titlesOther, recasedName, unnamed name, unnamed nameOther⟩
  | some before =>
      by_cases requested : ∀ kind ∈ kinds, (kind.rule.request modifiers).outcome = .ok (kind.asked modifiers)
      · have requestedOther : ∀ kind ∈ kinds, (kind.rule.request others).outcome = .ok (kind.asked others) :=
          fun kind member => (BuiltIn.requested_recased alike kind).2 (requested kind member)
        exact ⟨_, _, modify_of_requested library readable requested,
          modify_of_requested library readable requestedOther, .some (dressBy_recased alike engine.policy readable)⟩
      · have unrequested : ¬∀ kind ∈ kinds, (kind.rule.request others).outcome = .ok (kind.asked others) :=
          fun every => requested fun kind member => (BuiltIn.requested_recased alike kind).1 (every kind member)
        exact ⟨_, _, modify_of_unrequested library readable requested,
          modify_of_unrequested library readable unrequested, .none⟩

end Modify

private theorem count_recased {base found other : Found}
    (alike : Found.Recased engine.policy kinds modifiers others base 1 found other) (amount : Int) :
    Found.Recased engine.policy kinds modifiers others base amount (engine.count found amount)
      (engine.count other amount) := by
  obtain ⟨⟨modified, chain, chainOther⟩, _, untitled, titled⟩ := alike
  have counted := count_chain chain amount
  have countedOther := count_chain chainOther amount
  refine ⟨⟨modified, counted, countedOther⟩, ?_, ?_, ?_⟩
  · rw [counted.kinds, countedOther.kinds]
  · intro noName
    rw [untitled noName]
  · intro name titles
    obtain ⟨nameOther, titlesOther, recasedName, shown, shownOther⟩ := titled name titles
    refine ⟨nameOther, titlesOther, recasedName, ?_, ?_⟩
    · rw [representative_count, representative_count, shown]
      rfl
    · rw [representative_count, representative_count, shownOther]
      rfl

/-! ### Looking up -/

section Lookup

variable (catalogue : engine.resolve = Resolver.catalogue) (library : engine.parsers = kinds.map BuiltIn.parser)

include catalogue library

private theorem lookupAlternative_recased {alternative other : Text}
    (recased : Text.Recased alternative other) :
    engine.Recasing kinds [alternative] [other] (engine.lookupAlternative alternative).outcome
      (engine.lookupAlternative other).outcome := by
  have looked : (engine.lookupAlternative alternative).outcome = _ := lookupAlternative_outcome alternative
  have lookedOther : (engine.lookupAlternative other).outcome = _ := lookupAlternative_outcome other
  rcases order?_recased catalogue recased with
    ⟨fault, read, readOther⟩ | ⟨read, readOther⟩ | ⟨order, orderOther, read, readOther, alike⟩
  · rw [looked, lookedOther, read, readOther]
    exact .fault fault
  · rw [looked, lookedOther, read, readOther]
    exact .nothing
  · obtain ⟨dressed?, dressedOther?, modified, modifiedOther, agree⟩ :=
      modify_recased alike.modifiers library order.base.found
    simp only [read, Fault.ok_bind, fill, outcome_bind, modified] at looked
    simp only [readOther, Fault.ok_bind, fill, outcome_bind, alike.base, alike.amount, modifiedOther]
      at lookedOther
    cases agree with
    | none =>
        rw [looked, lookedOther]
        exact .nothing
    | some dressed =>
        have here := List.mem_singleton_self alternative
        have there := List.mem_singleton_self other
        have reads := (order?_eq_some_iff alternative order).1 read
        have readsOther := (order?_eq_some_iff other orderOther).1 readOther
        have counted := count_recased dressed order.amount
        rw [looked, lookedOther]
        exact .found here there looked lookedOther reads readsOther alike counted

private theorem lookupFirst_recased {alternatives others : List Text}
    (recased : List.Forall₂ Text.Recased alternatives others) :
    engine.Recasing kinds alternatives others (engine.lookupFirst alternatives).outcome
      (engine.lookupFirst others).outcome := by
  induction recased with
  | nil => exact .nothing
  | @cons alternative other alternatives others recasedHere _ ih =>
      have later := ih.mono (List.subset_cons_self alternative _) (List.subset_cons_self other _)
      have here := (lookupAlternative_recased catalogue library recasedHere).mono
        (List.cons_subset_cons alternative (List.nil_subset alternatives))
        (List.cons_subset_cons other (List.nil_subset others))
      rw [lookupFirst_cons_outcome, lookupFirst_cons_outcome]
      generalize (engine.lookupAlternative alternative).outcome = outcome at here ⊢
      generalize (engine.lookupAlternative other).outcome = outcomeOther at here ⊢
      cases here with
      | fault fault => exact .fault fault
      | nothing => exact later
      | found member memberOther looked lookedOther reads readsOther recased alike =>
          simp only [Fault.ok_bind, alike.isEmpty]
          split
          · exact later
          · exact .found member memberOther looked lookedOther reads readsOther recased alike

/-- Recased specs are looked up to the same, over the catalogue and any of the library's parsers, whatever the
registry and the policy. -/
theorem lookup_recased {spec other : Text} (recased : Text.Recased spec other) :
    engine.Recasing kinds (cut '?' spec) (cut '?' other) (engine.lookup spec).outcome
      (engine.lookup other).outcome := by
  have noLetter : '?'.isAlpha = false := by decide
  have sameFolded := (Text.recased_iff spec other).1 recased
  have several : '?' ∈ spec ↔ '?' ∈ other := by
    rw [← Text.mem_folded_iff noLetter, sameFolded, Text.mem_folded_iff noLetter]
  by_cases choice : '?' ∈ spec
  · rw [lookup_of_several choice, lookup_of_several (several.1 choice)]
    apply lookupFirst_recased catalogue library
    rw [Text.forall₂_recased_iff, ← Text.cut_folded noLetter, ← Text.cut_folded noLetter, sameFolded]
  · have choiceOther := mt several.2 choice
    rw [lookup_of_single choice, lookup_of_single choiceOther, Text.cut_of_not_mem choice,
      Text.cut_of_not_mem choiceOther]
    exact lookupAlternative_recased catalogue library recased

end Lookup

/-- Gems in seven under a display name, behind an alternative that ends in a capital sigma. The letters of the
name are all that is left of the difference between the two specs. -/
theorem lookup_recased_gems :
    let kinds : List BuiltIn := [.displayName, .enchantment, .displayName]
    let engine := offering .gems kinds
    let spec := "aΣ 3?VAULT:Gems 7 Name:Holy SHARPNESS:3".toList
    let other := "AΣ 3?vault:gemS 7 nAME:hOLy sharpness:3".toList
    let titled := fun name (matcher : Matcher) =>
      matcher.representative.meta?.any fun data => decide (data.displayName = some name)
    engine.finds spec (titled "Holy".toList) = true ∧ engine.finds other (titled "hOLy".toList) = true ∧
      engine.resolve = Resolver.catalogue ∧ engine.parsers = kinds.map BuiltIn.parser ∧
      Text.Recased spec other ∧
      engine.Recasing kinds (cut '?' spec) (cut '?' other) (engine.lookup spec).outcome
        (engine.lookup other).outcome := by
  intro kinds engine spec other titled
  have recased : Text.Recased spec other := (Text.recased_iff _ _).2 (by decide +kernel)
  exact ⟨by decide +kernel, by decide +kernel, rfl, rfl, recased, lookup_recased rfl rfl recased⟩

end Engine

end ItemSpec

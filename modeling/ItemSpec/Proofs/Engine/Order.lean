import ItemSpec.Proofs.Engine.Dressing
set_option autoImplicit false

/-! How an alternative of a spec is read. `Names`, `Counts` and `Reads` are the grammar, as relations;
`order?` computes the same reading, and a lookup is that reading with the modifiers and the amount
applied to what was named. -/

namespace ItemSpec.Engine

open Traced (outcome_bind outcome_lift)

structure Order where
  base : Base
  amount : Int
  modifiers : List Text

/-- What a naming token names, and the amount in it; a token without an amount asks for one. -/
inductive Names (engine : Engine) (token : Text) : Base → Int → Prop where
  | material {whole : Text} {material : Material}
      (parts : Text.cut ':' (Text.lower token) = [whole])
      (resolved : engine.resolve token = some material) (solid : material ≠ .air) :
      Names engine token (.material material) 1
  | item {scope name : Text} {item : Handle}
      (parts : Text.cut ':' (Text.lower token) = [scope, name])
      (bound : engine.registry.get? (Key.of scope name) = some item) :
      Names engine token (.item item) 1
  | materialAmount {name written : Text} {material : Material} {amount : Int}
      (parts : Text.cut ':' (Text.lower token) = [name, written])
      (unbound : engine.registry.get? (Key.of name written) = none)
      (resolved : engine.resolve name = some material) (solid : material ≠ .air)
      (number : Number.read written = .ok (some amount)) :
      Names engine token (.material material) amount
  | itemAmount {scope name written : Text} {item : Handle} {amount : Int}
      (parts : Text.cut ':' (Text.lower token) = [scope, name, written])
      (bound : engine.registry.get? (Key.of scope name) = some item)
      (number : Number.read written = .ok (some amount)) :
      Names engine token (.item item) amount

/-- The tokens behind a naming token that has an amount in it, as an amount and modifiers. -/
inductive Counts (named : Int) : List Text → Int → List Text → Prop where
  | nothing : Counts named [] named []
  | written {token : Text} {others : List Text} {amount : Int}
      (number : Number.read token = .ok (some amount)) :
      Counts named (token :: others) amount others
  | unwritten {token : Text} {others : List Text} (word : Number.read token = .ok none) :
      Counts named (token :: others) named (token :: others)

inductive Reads (engine : Engine) (alternative : Text) : Order → Prop where
  | intro {token : Text} {others : List Text} {base : Base} {named amount : Int}
      {modifiers : List Text}
      (tokens : Text.cut ' ' (Text.dropTrailing ' ' alternative) = token :: others)
      (notEmpty : token ≠ []) (names : engine.Names token base named)
      (counts : Counts named others amount modifiers) :
      Reads engine alternative ⟨base, amount, modifiers⟩

/-- An alternative with nothing before it that names an item. -/
def Reaches (engine : Engine) (spec alternative : Text) : Prop :=
  ∃ before after, Text.cut '?' spec = before ++ alternative :: after ∧
    ∀ earlier ∈ before, ∃ found, (engine.lookupAlternative earlier).outcome = .ok found ∧
      found.matcher.isEmpty = true

/-- What ends the search among alternatives: a fault, or an item. -/
def Ends (outcome : Except Fault Found) : Prop :=
  ∀ found, outcome = .ok found → found.matcher.isEmpty = false

inductive Orders (engine : Engine) (spec : Text) (found : Found) (order : Order) : Prop where
  | intro {alternative : Text} (reached : engine.Reaches spec alternative)
      (looked : (engine.lookupAlternative alternative).outcome = .ok found)
      (reads : engine.Reads alternative order)

def order? (engine : Engine) (alternative : Text) : Except Fault (Option Order) :=
  match Text.cut ' ' (Text.dropTrailing ' ' alternative) with
  | [] => .ok none
  | token :: others =>
    if token = [] then .ok none
    else do
      match ← engine.identify token with
      | none => pure none
      | some (base, named) =>
        let (amount, modifiers) ← takeAmount named others
        pure (some ⟨base, amount, modifiers⟩)

def fill (engine : Engine) (order : Order) : Traced Found := do
  match ← engine.modify order.base.found order.modifiers with
  | none => pure .nothing
  | some found => pure (engine.count found order.amount)

variable {engine : Engine}

/-! ### The grammar and its reading -/

private theorem material?_eq_some_iff (name : Text) (material : Material) :
    engine.material? name = some material ↔
      engine.resolve name = some material ∧ material ≠ .air := by
  simp [material?, Option.filter_eq_some_iff]

theorem identify_eq_some_iff (token : Text) (base : Base) (named : Int) :
    engine.identify token = .ok (some (base, named)) ↔ engine.Names token base named := by
  constructor
  · intro identified
    unfold identify at identified
    split at identified
    · rename_i whole parts
      obtain ⟨material, found, same⟩ := Option.map_eq_some_iff.1 (Except.ok.inj identified)
      obtain ⟨rfl, rfl⟩ := Prod.mk.inj same
      obtain ⟨resolved, solid⟩ := (material?_eq_some_iff token material).1 found
      exact .material parts resolved solid
    · rename_i first second parts
      split at identified
      · rename_i item bound
        obtain ⟨rfl, rfl⟩ := Prod.mk.inj (Option.some.inj (Except.ok.inj identified))
        exact .item parts bound
      · rename_i unbound
        cases number : Number.read second with
        | error fault => simp [number] at identified
        | ok amount? =>
            cases found : engine.material? first with
            | none => simp [number, found] at identified
            | some material =>
                cases amount? with
                | none => simp [number, found] at identified
                | some amount =>
                    simp only [number, Fault.ok_map, found, Option.bind_eq_bind, Option.bind_some,
                      Except.ok.injEq, Option.some.injEq, Prod.mk.injEq] at identified
                    obtain ⟨rfl, rfl⟩ := identified
                    obtain ⟨resolved, solid⟩ := (material?_eq_some_iff first material).1 found
                    exact .materialAmount parts unbound resolved solid number
    · rename_i first second third parts
      cases number : Number.read third with
      | error fault => simp [number] at identified
      | ok amount? =>
          cases bound : engine.registry.get? (Key.of first second) with
          | none => simp [number, bound] at identified
          | some item =>
              cases amount? with
              | none => simp [number, bound] at identified
              | some amount =>
                  simp only [number, Fault.ok_map, bound, Option.bind_eq_bind, Option.bind_some,
                    Except.ok.injEq, Option.some.injEq, Prod.mk.injEq] at identified
                  obtain ⟨rfl, rfl⟩ := identified
                  exact .itemAmount parts bound number
    · cases identified
  · intro names
    cases names with
    | material parts resolved solid =>
        simp [identify, parts, (material?_eq_some_iff _ _).2 ⟨resolved, solid⟩]
    | item parts bound => simp [identify, parts, bound]
    | materialAmount parts unbound resolved solid number =>
        simp [identify, parts, unbound, number,
          (material?_eq_some_iff _ _).2 ⟨resolved, solid⟩]
    | itemAmount parts bound number =>
        simp [identify, parts, bound, number]

private theorem takeAmount_eq_ok_iff (named amount : Int) (others modifiers : List Text) :
    takeAmount named others = .ok (amount, modifiers) ↔ Counts named others amount modifiers := by
  constructor
  · intro taken
    cases others with
    | nil =>
        obtain ⟨rfl, rfl⟩ := Prod.mk.inj (Except.ok.inj taken)
        exact .nothing
    | cons token others =>
        cases number : Number.read token with
        | error fault => simp [takeAmount, number] at taken
        | ok amount? =>
            simp only [takeAmount, number, Fault.ok_map, Except.ok.injEq] at taken
            cases amount? with
            | none =>
                obtain ⟨rfl, rfl⟩ := Prod.mk.inj taken
                exact .unwritten number
            | some written =>
                obtain ⟨rfl, rfl⟩ := Prod.mk.inj taken
                exact .written number
  · intro counts
    cases counts with
    | nothing => rfl
    | written number => simp [takeAmount, number]
    | unwritten word => simp [takeAmount, word]

theorem order?_eq_some_iff (alternative : Text) (order : Order) :
    engine.order? alternative = .ok (some order) ↔ engine.Reads alternative order := by
  constructor
  · intro read
    unfold order? at read
    split at read
    · cases read
    · rename_i token others tokens
      split at read
      · cases read
      · rename_i notEmpty
        cases identified : engine.identify token with
        | error fault =>
            rw [identified] at read
            cases read
        | ok named? =>
            rw [identified] at read
            cases named? with
            | none => cases read
            | some named =>
                obtain ⟨base, named⟩ := named
                cases taken : takeAmount named others with
                | error fault =>
                    simp only [Fault.ok_bind, taken] at read
                    cases read
                | ok counted =>
                    obtain ⟨amount, modifiers⟩ := counted
                    simp only [Fault.ok_bind, taken] at read
                    cases read
                    exact .intro tokens notEmpty ((identify_eq_some_iff token base named).1 identified)
                      ((takeAmount_eq_ok_iff named amount others modifiers).1 taken)
  · intro ⟨tokens, notEmpty, names, counts⟩
    have identified := (identify_eq_some_iff ..).2 names
    have taken := (takeAmount_eq_ok_iff ..).2 counts
    simp only [order?, tokens, if_neg notEmpty, identified, taken, Fault.ok_bind]
    rfl

/-- The grammar is unambiguous. -/
theorem Reads.iff_eq {alternative : Text} {order : Order} (reads : engine.Reads alternative order)
    (other : Order) : engine.Reads alternative other ↔ other = order := by
  rw [← order?_eq_some_iff, (order?_eq_some_iff alternative order).2 reads, Except.ok.injEq,
    Option.some.injEq, eq_comm]

/-! ### A lookup as a reading that is filled -/

theorem lookupAlternative_outcome (alternative : Text) :
    (engine.lookupAlternative alternative).outcome =
      engine.order? alternative >>= fun
        | none => .ok .nothing
        | some order => (engine.fill order).outcome := by
  unfold lookupAlternative order?
  cases Text.cut ' ' (Text.dropTrailing ' ' alternative) with
  | nil => rfl
  | cons token others =>
      by_cases isEmpty : token = []
      · simp only [if_pos isEmpty]
        rfl
      · simp only [if_neg isEmpty, outcome_bind, outcome_lift]
        cases engine.identify token with
        | error fault => rfl
        | ok named? =>
            cases named? with
            | none => rfl
            | some named =>
                obtain ⟨base, named⟩ := named
                cases taken : takeAmount named others with
                | error fault => simp [taken]
                | ok counted =>
                    simp only [taken, Fault.ok_bind, outcome_bind, outcome_lift, fill]
                    rfl

theorem lookupFirst_cons_outcome (alternative : Text) (others : List Text) :
    (engine.lookupFirst (alternative :: others)).outcome =
      (engine.lookupAlternative alternative).outcome >>= fun found =>
        if found.matcher.isEmpty then (engine.lookupFirst others).outcome else .ok found := by
  rw [lookupFirst, outcome_bind]
  refine congrArg _ (funext fun found => ?_)
  split <;> rfl

private theorem lookupFirst_outcome_iff {outcome : Except Fault Found} (ends : Ends outcome)
    (alternatives : List Text) :
    (engine.lookupFirst alternatives).outcome = outcome ↔
      ∃ before alternative after, alternatives = before ++ alternative :: after ∧
        (∀ earlier ∈ before, ∃ found, (engine.lookupAlternative earlier).outcome = .ok found ∧
          found.matcher.isEmpty = true) ∧
        (engine.lookupAlternative alternative).outcome = outcome := by
  induction alternatives with
  | nil =>
      constructor
      · intro nothing
        exact absurd (ends .nothing nothing.symm) (by decide)
      · intro ⟨before, alternative, after, split, _⟩
        exact absurd split.symm (List.append_ne_nil_of_right_ne_nil before (List.cons_ne_nil _ _))
  | cons first others ih =>
      rw [lookupFirst_cons_outcome]
      constructor
      · intro reached
        cases looked : (engine.lookupAlternative first).outcome with
        | error fault =>
            rw [looked, Fault.error_bind] at reached
            exact ⟨[], first, others, rfl, fun _ member => absurd member List.not_mem_nil,
              looked.trans reached⟩
        | ok found =>
            rw [looked, Fault.ok_bind] at reached
            split at reached
            · rename_i isEmpty
              obtain ⟨before, alternative, after, rfl, passed, lookedThere⟩ := ih.1 reached
              refine ⟨first :: before, alternative, after, rfl, ?_, lookedThere⟩
              intro earlier member
              rcases List.mem_cons.1 member with rfl | inBefore
              · exact ⟨found, looked, isEmpty⟩
              · exact passed earlier inBefore
            · exact ⟨[], first, others, rfl, fun _ member => absurd member List.not_mem_nil,
                looked.trans reached⟩
      · intro ⟨before, alternative, after, split, passed, lookedThere⟩
        cases before with
        | nil =>
            obtain ⟨rfl, rfl⟩ := List.cons.inj split
            rw [lookedThere]
            cases outcome with
            | error fault => rfl
            | ok found => rw [Fault.ok_bind, ends found rfl, if_neg Bool.false_ne_true]
        | cons earlier before =>
            obtain ⟨rfl, rfl⟩ := List.cons.inj split
            obtain ⟨found, looked, isEmpty⟩ := passed first List.mem_cons_self
            rw [looked, Fault.ok_bind, if_pos isEmpty]
            exact ih.2 ⟨before, alternative, after, rfl,
              fun other member => passed other (List.mem_cons_of_mem _ member), lookedThere⟩

theorem reaches_iff_of_cut {spec piece : Text} (pieces : Text.cut '?' spec = [piece])
    (alternative : Text) : engine.Reaches spec alternative ↔ alternative = piece := by
  unfold Reaches
  rw [pieces]
  constructor
  · intro ⟨before, after, split, _⟩
    cases before with
    | nil => exact (List.cons.inj split).1.symm
    | cons first before =>
        exact absurd (List.cons.inj split).2.symm
          (List.append_ne_nil_of_right_ne_nil before (List.cons_ne_nil _ _))
  · intro same
    rw [same]
    exact ⟨[], [], rfl, fun _ member => absurd member List.not_mem_nil⟩

theorem lookup_outcome_iff {outcome : Except Fault Found} (ends : Ends outcome) (spec : Text) :
    (engine.lookup spec).outcome = outcome ↔
      ∃ alternative, engine.Reaches spec alternative ∧
        (engine.lookupAlternative alternative).outcome = outcome := by
  unfold lookup
  split
  · rename_i piece pieces
    simp only [reaches_iff_of_cut pieces, exists_eq_left]
  · rw [lookupFirst_outcome_iff ends]
    constructor
    · intro ⟨before, alternative, after, split, passed, looked⟩
      exact ⟨alternative, ⟨before, after, split, passed⟩, looked⟩
    · intro ⟨alternative, ⟨before, after, split, passed⟩, looked⟩
      exact ⟨before, alternative, after, split, passed, looked⟩

private theorem Reaches.unique {spec alternative other : Text} {found : Found}
    (reached : engine.Reaches spec alternative) (reachedOther : engine.Reaches spec other)
    (looked : (engine.lookupAlternative alternative).outcome = .ok found)
    (lookedOther : (engine.lookupAlternative other).outcome = .ok found)
    (notEmpty : found.matcher.isEmpty = false) : alternative = other := by
  obtain ⟨before, after, split, passed⟩ := reached
  obtain ⟨beforeOther, afterOther, splitOther, passedOther⟩ := reachedOther
  have notPassed : ∀ {piece : Text}, (engine.lookupAlternative piece).outcome = .ok found →
      ¬∃ named, (engine.lookupAlternative piece).outcome = .ok named ∧ named.matcher.isEmpty = true := by
    intro piece lookedPiece ⟨named, lookedNamed, isEmpty⟩
    cases lookedPiece.symm.trans lookedNamed
    rw [notEmpty] at isEmpty
    cases isEmpty
  rw [split] at splitOther
  rcases List.append_eq_append_iff.1 splitOther with ⟨between, rest, same⟩ | ⟨between, rest, same⟩
  · cases between with
    | nil => exact (List.cons.inj same).1
    | cons first between =>
        obtain ⟨rfl, _⟩ := List.cons.inj same
        exact absurd (passedOther alternative (by simp [rest])) (notPassed looked)
  · cases between with
    | nil => exact (List.cons.inj same).1.symm
    | cons first between =>
        obtain ⟨rfl, _⟩ := List.cons.inj same
        exact absurd (passed other (by simp [rest])) (notPassed lookedOther)

theorem Orders.iff_eq {spec : Text} {found : Found} {order : Order}
    (orders : engine.Orders spec found order) (notEmpty : found.matcher.isEmpty = false)
    (other : Order) : engine.Orders spec found other ↔ other = order := by
  constructor
  · intro ordersOther
    obtain ⟨reached, looked, reads⟩ := orders
    obtain ⟨reachedOther, lookedOther, readsOther⟩ := ordersOther
    cases reached.unique reachedOther looked lookedOther notEmpty
    exact (reads.iff_eq other).1 readsOther
  · intro same
    rw [same]
    exact orders

theorem lookupAlternative_answers {alternative : Text} {found : Found}
    (looked : (engine.lookupAlternative alternative).outcome = .ok found) :
    found = .nothing ∨ ∃ order dressed, engine.Reads alternative order ∧
      (engine.modify order.base.found order.modifiers).outcome = .ok (some dressed) ∧
        found = engine.count dressed order.amount := by
  rw [lookupAlternative_outcome] at looked
  cases read : engine.order? alternative with
  | error fault =>
      rw [read] at looked
      cases looked
  | ok order? =>
      rw [read] at looked
      cases order? with
      | none =>
          cases looked
          exact .inl rfl
      | some order =>
          obtain ⟨dressed?, modified⟩ := engine.modify_outcome order.base.found order.modifiers
          simp only [Fault.ok_bind, fill, outcome_bind, modified] at looked
          cases dressed? with
          | none =>
              cases looked
              exact .inl rfl
          | some dressed =>
              cases looked
              exact .inr ⟨order, dressed, (order?_eq_some_iff alternative order).1 read, modified, rfl⟩

theorem lookupAlternative_reads {alternative : Text} {found : Found}
    (looked : (engine.lookupAlternative alternative).outcome = .ok found)
    (notEmpty : found.matcher.isEmpty = false) :
    ∃ order dressed, engine.Reads alternative order ∧
      (engine.modify order.base.found order.modifiers).outcome = .ok (some dressed) ∧
        found = engine.count dressed order.amount := by
  rcases lookupAlternative_answers looked with nothing | answered
  · rw [nothing] at notEmpty
    cases notEmpty
  · exact answered

/-- What a lookup finds is what some alternative asks for, with its modifiers and in its amount. -/
theorem lookup_orders {spec : Text} {found : Found} (looked : (engine.lookup spec).outcome = .ok found)
    (notEmpty : found.matcher.isEmpty = false) :
    ∃ order dressed, engine.Orders spec found order ∧
      (engine.modify order.base.found order.modifiers).outcome = .ok (some dressed) ∧
        found = engine.count dressed order.amount := by
  have ends : Ends (.ok found) := fun _ same => Except.ok.inj same ▸ notEmpty
  obtain ⟨alternative, reached, lookedThere⟩ := (lookup_outcome_iff ends spec).1 looked
  obtain ⟨order, dressed, reads, modified, counted⟩ := lookupAlternative_reads lookedThere notEmpty
  exact ⟨order, dressed, .intro reached lookedThere reads, modified, counted⟩

/-! ### Specs of one alternative -/

theorem lookup_of_single {spec : Text} (single : '?' ∉ spec) :
    engine.lookup spec = engine.lookupAlternative spec := by
  unfold lookup
  rw [Text.cut_of_not_mem single]

theorem lookupAlternative_of_reads {alternative : Text} {order : Order}
    (reads : engine.Reads alternative order) :
    engine.lookupAlternative alternative = engine.fill order := by
  cases reads with
  | @intro token others base named amount modifiers tokens notEmpty names counts =>
      have identified := (identify_eq_some_iff token base named).2 names
      have taken := (takeAmount_eq_ok_iff named amount others modifiers).2 counts
      simp only [lookupAlternative, tokens, if_neg notEmpty, identified, Traced.lift_ok_bind, taken]
      rfl

theorem fill_of_answers {order : Order} {before after : Meta} {replies : List Modifier.Reply}
    (readable : order.base.found.matcher.representative.meta? = some before)
    (answers : Modifier.Answers order.modifiers engine.parsers before replies after) :
    (engine.fill order).outcome = .ok (engine.count
      (dress order.base.found (replies.flatMap Modifier.Reply.added) before after) order.amount) := by
  rw [fill, outcome_bind, engine.modify_of_answers _ _ readable answers]
  rfl

theorem fill_outcome (order : Order) : ∃ found, (engine.fill order).outcome = .ok found := by
  obtain ⟨dressed?, modified⟩ := engine.modify_outcome order.base.found order.modifiers
  simp only [fill, outcome_bind, modified, Fault.ok_bind]
  cases dressed? with
  | none => exact ⟨_, rfl⟩
  | some dressed => exact ⟨_, rfl⟩

end ItemSpec.Engine

import ItemSpec.Proofs.Engine.Genuine
set_option autoImplicit false

/-! Alternatives. A question mark is a choice that prefers its left side, and how a spec is cut into
alternatives does not matter. What happens on the way to the answer is what happens at the alternatives
up to the one that ends the search; engines whose parsers record what they are given show it. -/

namespace ItemSpec

namespace Modifier

/-- A parser that records what it is given before it reads it. -/
def Parser.watched (label : Parser → Text) (parser : Parser) : Parser where
  name := parser.name
  part := parser.part
  read := fun tokens data =>
    let reading := parser.read tokens data
    ⟨reading.data, .given (label parser) tokens (some data) :: reading.result.events,
      reading.result.outcome⟩

variable (label : Parser → Text)

private theorem Parser.apply_watched (parser : Parser) (tokens : List Text) (data : Meta) :
    ((parser.watched label).apply tokens data).data = (parser.apply tokens data).data ∧
      ((parser.watched label).apply tokens data).result.outcome =
        (parser.apply tokens data).result.outcome := by
  refine ⟨rfl, ?_⟩
  simp only [apply, settle, Traced.outcome_bind]
  rfl

private theorem readAll_watched (parsers : List Parser) (tokens : List Text) (data : Meta) :
    (readAll (parsers.map (Parser.watched label)) tokens data).data = (readAll parsers tokens data).data ∧
      (readAll (parsers.map (Parser.watched label)) tokens data).result.outcome =
        (readAll parsers tokens data).result.outcome := by
  induction parsers generalizing data with
  | nil => exact ⟨rfl, rfl⟩
  | cons parser others ih =>
      obtain ⟨sameData, sameOutcome⟩ := parser.apply_watched label tokens data
      obtain ⟨laterData, laterOutcome⟩ := ih (parser.apply tokens data).data
      simp only [readAll] at laterData laterOutcome
      simp only [readAll, List.map_cons, inTurn, sameData, sameOutcome]
      cases applied : (parser.apply tokens data).result.outcome with
      | error fault => exact ⟨rfl, rfl⟩
      | ok test? =>
          refine ⟨laterData, ?_⟩
          simp only [Traced.outcome_bind, sameOutcome, applied, laterOutcome]

end Modifier

namespace Found

/-- What was found, with the shared empty matcher in place of every empty one. -/
def shared (found : Found) : Found :=
  if found.matcher.isEmpty then .nothing else found

@[simp] theorem matcher_shared (found : Found) : found.shared.matcher = found.matcher := by
  unfold shared
  split
  · rename_i isEmpty
    cases empty : found.matcher with
    | empty => rfl
    | _ => simp [empty, Matcher.isEmpty] at isEmpty
  · rfl

end Found

namespace Engine

open Modifier (Parser BuiltIn)
open Text (cut)

def firstFound (find : Text → Traced Found) : List Text → Traced Found
  | [] => pure .nothing
  | text :: others => do
    let found ← find text
    if found.matcher.isEmpty then firstFound find others else pure found

/-- The texts up to the first that a search ends at, and that one. -/
def tried (find : Text → Except Fault Found) : List Text → List Text
  | [] => []
  | text :: others =>
    match find text with
    | .error _ => [text]
    | .ok found => text :: if found.matcher.isEmpty then tried find others else []

def watched (engine : Engine) (label : Parser → Text) : Engine :=
  { engine with parsers := engine.parsers.map (Parser.watched label) }

variable {engine : Engine}

/-! ### Cutting and choosing -/

theorem lookup_of_several {spec : Text} (several : '?' ∈ spec) :
    engine.lookup spec = engine.lookupFirst (cut '?' spec) := by
  unfold lookup
  split
  · rename_i piece pieces
    have joined := Text.join_cut '?' spec
    rw [pieces] at joined
    have isSpec : piece = spec := joined
    have isPiece : spec ∈ cut '?' spec := by
      rw [pieces, isSpec]
      exact List.mem_singleton_self spec
    exact absurd several (Text.not_mem_of_mem_cut isPiece)
  · rfl

private theorem lookupFirst_append (before after : List Text) :
    engine.lookupFirst (before ++ after) = (do
      let found ← engine.lookupFirst before
      if found.matcher.isEmpty then engine.lookupFirst after else pure found) := by
  induction before with
  | nil => rfl
  | cons first others ih =>
      rw [List.cons_append, lookupFirst, lookupFirst, bind_assoc]
      refine congrArg _ (funext fun found => ?_)
      by_cases isEmpty : found.matcher.isEmpty
      · rw [if_pos isEmpty, if_pos isEmpty, ih]
      · rw [if_neg isEmpty, if_neg isEmpty, pure_bind, if_neg isEmpty]

private theorem shared_lookupFirst (alternatives : List Text) :
    Found.shared <$> engine.lookupFirst alternatives = engine.lookupFirst alternatives := by
  induction alternatives with
  | nil => rfl
  | cons first others ih =>
      rw [lookupFirst, map_bind]
      refine congrArg _ (funext fun found => ?_)
      by_cases isEmpty : found.matcher.isEmpty
      · rw [if_pos isEmpty, ih]
      · rw [if_neg isEmpty, map_pure, Found.shared, if_neg isEmpty]

private theorem lookupFirst_cut (spec : Text) :
    engine.lookupFirst (cut '?' spec) = Found.shared <$> engine.lookup spec := by
  by_cases several : '?' ∈ spec
  · rw [lookup_of_several several, shared_lookupFirst]
  · rw [lookup_of_single several, Text.cut_of_not_mem several, lookupFirst, map_eq_pure_bind]
    refine congrArg _ (funext fun found => ?_)
    rw [Found.shared, lookupFirst]
    split <;> rfl

/-- A question mark is a choice that prefers its left side. -/
theorem lookup_append (left right : Text) :
    engine.lookup (left ++ '?' :: right) = (do
      let found ← engine.lookup left
      if found.matcher.isEmpty then Found.shared <$> engine.lookup right else pure found) := by
  have several : '?' ∈ left ++ '?' :: right := List.mem_append_right left List.mem_cons_self
  rw [lookup_of_several several, Text.cut_append_separator, lookupFirst_append, lookupFirst_cut,
    lookupFirst_cut, bind_map_left]
  refine congrArg _ (funext fun found => ?_)
  rw [Found.matcher_shared]
  by_cases isEmpty : found.matcher.isEmpty
  · rw [if_pos isEmpty, if_pos isEmpty]
  · rw [if_neg isEmpty, if_neg isEmpty, Found.shared, if_neg isEmpty]

private theorem lookup_append_of_ends {left : Text} (ends : Ends (engine.lookup left).outcome)
    (right : Text) :
    engine.lookup (left ++ '?' :: right) = engine.lookup left := by
  rw [lookup_append]
  cases looked : (engine.lookup left).outcome with
  | error fault => rw [Traced.bind_of_error looked, ← looked]
  | ok found =>
      rw [Traced.bind_of_ok looked, if_neg (by rw [ends found looked]; exact Bool.false_ne_true),
        Traced.outcome_pure, ← looked]
      exact congrArg (Traced.mk · _) (List.append_nil _)

private theorem lookup_append_of_isEmpty {left : Text} {found : Found}
    (looked : (engine.lookup left).outcome = .ok found) (isEmpty : found.matcher.isEmpty = true)
    (right : Text) :
    engine.lookup (left ++ '?' :: right) =
      ⟨(engine.lookup left).events ++ (engine.lookup right).events,
        (engine.lookup right).outcome.map Found.shared⟩ := by
  rw [lookup_append, Traced.bind_of_ok looked, if_pos isEmpty, Traced.map_eq]

/-- A search among the alternatives is a search with the lookup itself, which finds no question mark to
cut at in any of them. -/
theorem lookup_eq_firstFound {spec : Text} (several : '?' ∈ spec) :
    engine.lookup spec = firstFound engine.lookup (cut '?' spec) := by
  have whole : ∀ piece ∈ cut '?' spec, '?' ∉ piece := fun _ => Text.not_mem_of_mem_cut
  rw [lookup_of_several several]
  generalize cut '?' spec = pieces at whole
  induction pieces with
  | nil => rfl
  | cons first others ih =>
      obtain ⟨wholeFirst, wholeOthers⟩ := List.forall_mem_cons.1 whole
      rw [lookupFirst, firstFound, lookup_of_single wholeFirst, ih wholeOthers]

/-! ### What happens on the way -/

private theorem events_firstFound (find : Text → Traced Found) (texts : List Text) :
    (firstFound find texts).events =
      (tried (fun text => (find text).outcome) texts).flatMap fun text => (find text).events := by
  induction texts with
  | nil => rfl
  | cons first others ih =>
      rw [firstFound]
      cases answer : (find first).outcome with
      | error fault =>
          rw [Traced.bind_of_error answer, tried, answer]
          exact (List.append_nil _).symm
      | ok found =>
          rw [Traced.bind_of_ok answer, tried, answer, List.flatMap_cons]
          by_cases isEmpty : found.matcher.isEmpty
          · rw [if_pos isEmpty, if_pos isEmpty, ih]
          · rw [if_neg isEmpty, if_neg isEmpty]
            rfl

private theorem events_lookup (spec : Text) :
    (engine.lookup spec).events =
      (tried (fun piece => (engine.lookup piece).outcome) (cut '?' spec)).flatMap
        fun piece => (engine.lookup piece).events := by
  by_cases several : '?' ∈ spec
  · rw [lookup_eq_firstFound several, events_firstFound]
  · rw [Text.cut_of_not_mem several, tried, tried]
    cases (engine.lookup spec).outcome with
    | error fault => simp
    | ok found => simp

/-! ### Recording what the parsers are given -/

variable {label : Parser → Text}

private theorem modify_watched (base : Found) (modifiers : List Text) :
    ((engine.watched label).modify base modifiers).outcome = (engine.modify base modifiers).outcome := by
  cases readable : base.matcher.representative.meta? with
  | none => rw [modify_of_unreadable _ base modifiers readable, modify_of_unreadable _ base modifiers readable]
  | some before =>
      obtain ⟨sameData, sameOutcome⟩ := Modifier.readAll_watched label engine.parsers modifiers before
      rw [modify_of_readable _ base modifiers readable, modify_of_readable _ base modifiers readable]
      simp only [watched, sameData, sameOutcome]

private theorem lookupAlternative_watched (alternative : Text) :
    ((engine.watched label).lookupAlternative alternative).outcome =
      (engine.lookupAlternative alternative).outcome := by
  have sameOrder : (engine.watched label).order? alternative = engine.order? alternative := rfl
  rw [lookupAlternative_outcome, lookupAlternative_outcome, sameOrder]
  refine congrArg _ (funext fun order? => ?_)
  cases order? with
  | none => rfl
  | some order =>
      simp only [fill, Traced.outcome_bind, modify_watched]
      rfl

private theorem lookup_watched (spec : Text) :
    ((engine.watched label).lookup spec).outcome = (engine.lookup spec).outcome := by
  by_cases several : '?' ∈ spec
  · rw [lookup_of_several several, lookup_of_several several]
    generalize cut '?' spec = pieces
    induction pieces with
    | nil => rfl
    | cons first others ih =>
        rw [lookupFirst_cons_outcome, lookupFirst_cons_outcome, lookupAlternative_watched, ih]
  · rw [lookup_of_single several, lookup_of_single several, lookupAlternative_watched]

/-- What the left side finds stands, and so does its fault; if it finds nothing the right side is looked
up. Cutting leaves no question mark to cut at again, and the parsers are given, over a whole spec, what the
alternatives give them from the left up to the first that the search ends at. -/
theorem lookup_alternation (engine : Engine) (label : Parser → Text) :
    (∀ left right,
      (Ends (engine.lookup left).outcome → engine.lookup (left ++ '?' :: right) = engine.lookup left) ∧
      ∀ found, (engine.lookup left).outcome = .ok found → found.matcher.isEmpty = true →
        engine.lookup (left ++ '?' :: right) =
          ⟨(engine.lookup left).events ++ (engine.lookup right).events,
            (engine.lookup right).outcome.map Found.shared⟩) ∧
    ∀ spec, (∀ piece ∈ cut '?' spec, '?' ∉ piece) ∧
      engine.lookup spec = (if '?' ∈ spec then firstFound engine.lookup (cut '?' spec)
        else engine.lookupAlternative spec) ∧
      ((engine.watched label).lookup spec).outcome = (engine.lookup spec).outcome ∧
      ((engine.watched label).lookup spec).events =
        (tried (fun piece => (engine.lookup piece).outcome) (cut '?' spec)).flatMap
          fun piece => ((engine.watched label).lookup piece).events := by
  constructor
  · intro left right
    exact ⟨fun ends => lookup_append_of_ends ends right,
      fun found looked isEmpty => lookup_append_of_isEmpty looked isEmpty right⟩
  · intro spec
    refine ⟨fun _ => Text.not_mem_of_mem_cut, ?_, lookup_watched spec, ?_⟩
    · split
      · rename_i several
        exact lookup_eq_firstFound several
      · rename_i single
        exact lookup_of_single single
    · rw [events_lookup]
      simp only [lookup_watched]

/-- A left side in two alternatives that find nothing, and a right side that has one to spare. -/
theorem lookup_alternation_gems :
    let engine := offering .gems BuiltIn.all
    let label := fun parser : Parser => parser.name
    let left := "air 'x' sharpness:2?".toList
    let right := "vault:gems 7 name:Hoard?paper".toList
    (∃ found, (engine.lookup left).outcome = .ok found ∧ found.matcher.isEmpty = true) ∧
      Ends (engine.lookup right).outcome ∧ '?' ∈ left ∧
      engine.lookup (right ++ '?' :: left) = engine.lookup right ∧
      engine.lookup (left ++ '?' :: right) =
        ⟨(engine.lookup left).events ++ (engine.lookup right).events,
          (engine.lookup right).outcome.map Found.shared⟩ ∧
      engine.lookup left = firstFound engine.lookup (cut '?' left) ∧
      ((engine.watched label).lookup right).events =
        (tried (fun piece => (engine.lookup piece).outcome) (cut '?' right)).flatMap
          fun piece => ((engine.watched label).lookup piece).events := by
  intro engine label left right
  have misses : (engine.lookup left).outcome.map (fun found => found.matcher.isEmpty) = .ok true := by
    decide +kernel
  have finds : engine.finds right (fun _ => true) = true := by decide +kernel
  have several : '?' ∈ left := by decide
  obtain ⟨item, lookedRight, notEmpty, _⟩ := (finds_eq_true_iff right _).1 finds
  have ends : Ends (engine.lookup right).outcome := by
    intro found looked
    rw [lookedRight] at looked
    cases looked
    exact notEmpty
  obtain ⟨choice, whole⟩ := lookup_alternation engine label
  cases looked : (engine.lookup left).outcome with
  | error fault =>
      rw [looked] at misses
      cases misses
  | ok found =>
      rw [looked] at misses
      have isEmpty : found.matcher.isEmpty = true := Except.ok.inj misses
      exact ⟨⟨found, rfl, isEmpty⟩, ends, several, (choice right left).1 ends,
        (choice left right).2 found looked isEmpty, (whole left).2.1.trans (if_pos several),
        (whole right).2.2.2⟩

end Engine

end ItemSpec

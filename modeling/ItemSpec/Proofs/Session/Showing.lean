import ItemSpec.Proofs.Engine.Representative
import ItemSpec.Proofs.Session.Agreement
import ItemSpec.Proofs.Session.EngineFrame
set_option autoImplicit false

/-! What is shown for what a lookup finds. It is what is shown for the item that the spec names, as the order
changes it, and it stays so: for good for the object that was found, and for what the spec stands for until
the engine is changed. -/

namespace ItemSpec

open ItemSpec.Action

namespace Custody

variable {custody : Custody}

/-- What a lookup gives stands for what the engine finds. -/
theorem finds_of_lookup (genuine : custody.session.Genuine) {spec : Text} {object : Entity} {after : Session}
    (looked : (lookup spec).on custody.session = (.ok object, after)) :
    ∃ found, ∃ later : Custody, (custody.session.engine.lookup spec).outcome = .ok found ∧ later.session = after ∧
      custody.Before later.toLedger ∧ later.Finds found object := by
  obtain ⟨later, before, _, _, outcome⟩ := realizes_lookup genuine spec
  cases lookedUp : (custody.session.engine.lookup spec).outcome with
  | error fault =>
      rw [lookedUp, looked] at outcome
      cases outcome
  | ok found =>
      rw [lookedUp] at outcome
      obtain ⟨result, ran, finds⟩ := outcome
      obtain ⟨sameObject, sameSession⟩ := Prod.mk.inj (ran.symm.trans looked)
      cases sameObject
      exact ⟨found, later, rfl, sameSession, before, finds⟩

private theorem lookup_of_found (genuine : custody.session.Genuine) {spec : Text} {found : Found}
    (looked : (custody.session.engine.lookup spec).outcome = .ok found) :
    ∃ object, ∃ later : Custody, (lookup spec).on custody.session = (.ok object, later.session) ∧
      later.Finds found object := by
  obtain ⟨later, _, _, _, outcome⟩ := realizes_lookup genuine spec
  rw [looked] at outcome
  obtain ⟨object, ran, finds⟩ := outcome
  exact ⟨object, later, ran, finds⟩

private theorem portrays_named (genuine : custody.session.Genuine) {alternative : Text}
    {order : Engine.Order}
    (reads : custody.session.engine.Reads alternative order) :
    ∃ bare between, (named order.base).on custody.session = (.ok bare, between) ∧
      between.Portrays bare (.ofStack order.base.found.matcher.representative) := by
  have portrayed : ∀ handle, order.base = .item handle →
      custody.Finds (.object handle) (.matcher handle) := by
    intro handle isItem
    obtain ⟨key, bound⟩ := reads.bound isItem
    exact finds_bound genuine bound
  obtain ⟨later, _, _, _, bare, ran, finds⟩ := realizes_named portrayed
  exact ⟨bare, _, ran, finds.portrays⟩

private theorem run_lookup {after : Custody} {found : Found} {object : Entity}
    (finds : after.Finds found object)
    {session : Session} {spec : Text} (looked : (lookup spec).on session = (.ok object, after.session))
    (name? : Option Text) (later : List Command) :
    ∃ last : Custody, last.session = session.run (.lookup spec name? :: later) ∧
      after.Before last.toLedger := by
  obtain ⟨kept, left, before, _⟩ := after.keeps_keepMatcher name? finds.isOpen
  have stepped : (session.step (.lookup spec name?)).1 = kept.session := by
    rw [left]
    exact congrArg Prod.snd (on_bind_of_ok looked (keepMatcher name?))
  obtain ⟨last, ran, beforeLast⟩ := kept.run later
  refine ⟨last, ?_, before.trans beforeLast⟩
  rw [ran, ← stepped]
  rfl

end Custody

namespace Session

open Modifier (BuiltIn)

/-- In whatever state of a session with the five parsers, as long as keys are bound to custom items and stacks
carry metadata: a spec of one alternative fixes, with what is shown for the item it names, what is shown for
the object that is found. Whatever the host goes on to do, that is shown for the object each time, and for what
the spec stands for as long as neither a key nor a parser changes. -/
theorem lookup_shows {setup : Setup} {session : Session} (started : start setup = .ok session)
    (commands : List Command) (customs : (session.run commands).engine.registry.Genuine)
    (plain : (session.run commands).Plain)
    (parsers : (session.run commands).engine.parsers = BuiltIn.all.map BuiltIn.parser)
    {spec : Text} (single : '?' ∉ spec) {object : Entity} {after : Session}
    (looked : (lookup spec).on (session.run commands) = (.ok object, after))
    (notEmpty : object.isEmpty = false) :
    let reached := session.run commands
    ∃ order base shown, (∀ other, reached.engine.Reads spec other ↔ other = order) ∧
      (∃ bare between, (named order.base).on reached = (.ok bare, between) ∧
        between.Portrays bare (.ofStack base)) ∧
      (∀ stack, order.Changes base stack ↔ stack = shown) ∧
      after.Portrays object (.ofStack shown) ∧
      ∀ name? later,
        let last := reached.run (.lookup spec name? :: later)
        last.Portrays object (.ofStack shown) ∧
          ((∀ command ∈ later, command.changesEngine = false) →
            ∃ again afterwards, (lookup spec).on last = (.ok again, afterwards) ∧
              afterwards.Portrays again (.ofStack shown)) := by
  obtain ⟨custody, isReached, _⟩ := Custody.of_run started commands
  rw [← isReached] at customs plain parsers looked
  have genuine := Custody.genuine_of_plain customs plain
  intro reached
  have isReached : custody.session = reached := isReached
  clear_value reached
  subst isReached
  obtain ⟨found, afterLookup, lookedUp, rfl, before, finds⟩ := Custody.finds_of_lookup genuine looked
  have foundItem : found.matcher.isEmpty = false := finds.isEmpty_eq ▸ notEmpty
  obtain ⟨order, ⟨ends, _, reads⟩, fills⟩ := Engine.lookup_fills parsers customs lookedUp foundItem
  rw [(Engine.reaches_iff_of_cut (Text.cut_of_not_mem single) _).1 ends] at reads
  refine ⟨order, _, _, reads.iff_eq, Custody.portrays_named genuine reads, fills.changes.iff_eq,
    finds.portrays, ?_⟩
  intro name? later last
  obtain ⟨lastCustody, isLast, beforeLast⟩ := Custody.run_lookup finds looked name? later
  have isLast : lastCustody.session = last := isLast
  refine ⟨isLast ▸ (finds.later beforeLast).portrays, fun work => ?_⟩
  have sameEngine : last.engine = custody.session.engine :=
    engine_run _ (List.forall_mem_cons.2 ⟨rfl, work⟩)
  rw [← isLast] at sameEngine ⊢
  rw [← sameEngine] at lookedUp
  obtain ⟨again, afterwards, lookedAgain, findsAgain⟩ :=
    Custody.lookup_of_found (Custody.genuine_later genuine (before.trans beforeLast) sameEngine) lookedUp
  exact ⟨again, _, lookedAgain, findsAgain.portrays⟩

/-- Gems that are sharper than the spec asks for, and a host that edits what it is shown. -/
theorem lookup_shows_gems :
    let setup : Setup := { offers := [] }
    let key : Key := ⟨"vault".toList, "gems".toList⟩
    let data : Meta := { lore := ["Old".toList], enchants := Levels.empty.set .sharpness 5 }
    let gems := MatcherSource.custom key (.leastAmount 5) (.new (.ok .diamond) 5 (.new (.ok data)))
    let commands := [Command.registerOwn gems, .addDefaultParsers]
    let spec := "Vault:Gems 7 sharpness:4 SHARPNESS:3 sharpness:0 luck name:Hoard flag:hide_dye".toList
    let later := [Command.representative (.named "found".toList) (some "shown".toList),
      .edit "shown".toList true [.data (.addLore "Worn".toList), .data (.unbreakable true)],
      .accepts (.named "found".toList) (.named "shown".toList), .lookup spec none]
    ∃ session reached object after order base shown, start setup = .ok session ∧
      reached = session.run commands ∧ reached.engine.registry.Genuine ∧ reached.Plain ∧
      reached.engine.parsers = BuiltIn.all.map BuiltIn.parser ∧ '?' ∉ spec ∧
      (lookup spec).on reached = (.ok object, after) ∧ object.isEmpty = false ∧
      reached.engine.Reads spec order ∧ order.Changes base shown ∧
      after.Portrays object (.ofStack shown) ∧
      (let last := reached.run (.lookup spec (some "found".toList) :: later)
       last.Portrays object (.ofStack shown) ∧
        ∃ again afterwards, (lookup spec).on last = (.ok again, afterwards) ∧
          afterwards.Portrays again (.ofStack shown)) := by
  intro setup key data gems commands spec later
  have started : start setup = .ok {} := rfl
  have customs : (run {} commands).engine.registry.Genuine := Registry.genuine_of_items (by decide +kernel)
  have plain : (run {} commands).Plain := by decide +kernel
  have noParsers : (step {} (.registerOwn gems)).1.engine.parsers.isEmpty = true := by decide +kernel
  have parsers : (run {} commands).engine.parsers = BuiltIn.all.map BuiltIn.parser := by
    show (step {} (.registerOwn gems)).1.engine.parsers ++ [_] ++ [_] ++ [_] ++ [_] ++ [_] = _
    rw [List.isEmpty_iff.1 noParsers]
    rfl
  have single : '?' ∉ spec := by decide +kernel
  have finds : (match ((lookup spec).on (run {} commands)).1 with
      | .ok object => !object.isEmpty
      | .error _ => false) = true := by decide +kernel
  rcases looked : (lookup spec).on (run {} commands) with ⟨outcome, after⟩
  rw [looked] at finds
  cases outcome with
  | error failure => cases finds
  | ok object =>
      have notEmpty : object.isEmpty = false := by simpa using finds
      obtain ⟨order, base, shown, reads, _, changes, portrays, goesOn⟩ :=
        lookup_shows started commands customs plain parsers single looked notEmpty
      obtain ⟨stays, again⟩ := goesOn (some "found".toList) later
      exact ⟨_, _, object, after, order, base, shown, started, rfl, customs, plain, parsers, single, looked,
        notEmpty, (reads order).2 rfl, (changes shown).2 rfl, portrays, stays, again (by decide)⟩

end Session

end ItemSpec

import ItemSpec.Proofs.Engine.Totality
import ItemSpec.Proofs.Modifier.Replies
import ItemSpec.Proofs.Session.Agreement
set_option autoImplicit false

/-! Parsers that fail. A parser that gives up, or answers with something that is no test, costs the
alternative that it was run for and nothing else: the parsers behind it are not run, the next alternative is
looked at, and the metadata that it has edited by then is nobody's. -/

namespace ItemSpec

open Modifier (Answers Parser Scripted)

namespace Engine

variable {engine : Engine} {earlier others : List Parser} {failing : Parser}

/-- An alternative for which a parser fails names nothing. What has happened by then is what happens with the
parsers up to that one. -/
theorem lookupAlternative_of_fails {alternative : Text} {order : Order} {before snapshot : Meta}
    {replies : List Modifier.Reply} (reads : engine.Reads alternative order)
    (readable : order.base.found.matcher.representative.meta? = some before)
    (parsers : engine.parsers = earlier ++ failing :: others)
    (answers : Answers order.modifiers earlier before replies snapshot)
    (fails : failing.Fails order.modifiers snapshot) :
    engine.lookupAlternative alternative =
      ⟨(Modifier.readAll (earlier ++ [failing]) order.modifiers before).result.events ++
        [.notice (.parserFailed order.modifiers order.base.found.matcher.text)], .ok .nothing⟩ := by
  rw [lookupAlternative_of_reads reads, fill, modify_of_fails readable parsers answers fails]
  exact congrArg (Traced.mk · _) (List.append_nil _)

end Engine

open ItemSpec.Action

private theorem lookupFirst_append_on {passed others : List Text} {session between : Session}
    (ran : (lookupFirst passed).on session = (.ok nothingFound, between)) :
    (lookupFirst (passed ++ others)).on session = (lookupFirst others).on between := by
  induction passed generalizing session with
  | nil =>
      cases ran
      rfl
  | cons first passed ih =>
      rw [lookupFirst] at ran
      rw [List.cons_append, lookupFirst]
      rcases looked : (lookupAlternative first).on session with ⟨outcome, after⟩
      cases outcome with
      | error failure =>
          rw [on_bind_of_error looked] at ran
          cases ran
      | ok found =>
          rw [on_bind_of_ok looked] at ran ⊢
          cases isEmpty : found.isEmpty with
          | true =>
              rw [if_pos isEmpty] at ran
              rw [if_pos rfl]
              exact ih ran
          | false =>
              rw [if_neg (by simp [isEmpty])] at ran
              cases ran
              cases isEmpty

private theorem lookup_of_nothing {spec alternative : Text} {passed behind : List Text}
    {session between after : Session} (alternatives : Text.cut '?' spec = passed ++ alternative :: behind)
    (ranPassed : (lookupFirst passed).on session = (.ok nothingFound, between))
    (ran : (lookupAlternative alternative).on between = (.ok nothingFound, after)) :
    (lookup spec).on session = (lookupFirst behind).on after := by
  have goesOn : (lookupFirst (passed ++ alternative :: behind)).on session =
      (lookupFirst behind).on after := by
    rw [lookupFirst_append_on ranPassed, lookupFirst, on_bind_of_ok ran]
    rfl
  unfold lookup
  split
  · rename_i single isSingle
    rw [isSingle] at alternatives
    cases passed with
    | nil =>
        cases alternatives
        cases ranPassed
        exact ran
    | cons first others => simp at alternatives
  · rw [alternatives]
    exact goesOn

namespace Custody

variable {custody : Custody} (genuine : custody.session.Genuine)

include genuine

private theorem genuine_between {passed : List Text} {between : Session}
    (ran : (lookupFirst passed).on custody.session = (.ok nothingFound, between)) :
    ∃ later : Custody, later.session = between ∧ later.session.Genuine ∧
      later.session.engine = custody.session.engine := by
  obtain ⟨later, before, sameEngine, _, outcome⟩ := realizes_lookupFirst genuine passed
  refine ⟨later, ?_, genuine_later genuine before sameEngine, sameEngine⟩
  cases looked : (custody.session.engine.lookupFirst passed).outcome with
  | error fault =>
      rw [looked] at outcome
      cases ran.symm.trans outcome
  | ok found =>
      rw [looked] at outcome
      obtain ⟨object, ranThere, _⟩ := outcome
      exact congrArg Prod.snd (ranThere.symm.trans ran)

private theorem lookupAlternative_of_nothing {alternative : Text} {events : List Event}
    (named : custody.session.engine.lookupAlternative alternative = ⟨events, .ok .nothing⟩) :
    ∃ after, (lookupAlternative alternative).on custody.session = (.ok nothingFound, after) ∧
      after.journal = custody.session.journal ++ events := by
  obtain ⟨later, _, _, journal, outcome⟩ := realizes_lookupAlternative genuine alternative
  rw [named] at journal outcome
  obtain ⟨object, ran, ⟨handle, rfl, same | same⟩, _⟩ := outcome
  · cases same
    exact ⟨_, ran, journal⟩
  · cases same

private theorem lookup_error_iff (spec : Text) (failure : Failure) :
    ((lookup spec).on custody.session).1 = .error failure ↔
      ∃ digits, custody.session.engine.Breaks spec digits ∧
        failure = .fault (.digitLimit digits.length) := by
  obtain ⟨later, _, _, _, outcome⟩ := realizes_lookup genuine spec
  have broken : ∀ digits, custody.session.engine.Breaks spec digits →
      (custody.session.engine.lookup spec).outcome = .error (.digitLimit digits.length) :=
    fun digits breaks => (Engine.lookup_eq_error_iff spec _).2 ⟨digits, breaks, rfl⟩
  cases looked : (custody.session.engine.lookup spec).outcome with
  | error fault =>
      rw [looked] at outcome
      rw [outcome]
      constructor
      · rintro ⟨⟩
        obtain ⟨digits, breaks, isLimit⟩ := (Engine.lookup_eq_error_iff spec fault).1 looked
        exact ⟨digits, breaks, congrArg Failure.fault isLimit⟩
      · rintro ⟨digits, breaks, rfl⟩
        cases looked.symm.trans (broken digits breaks)
        rfl
  | ok found =>
      rw [looked] at outcome
      obtain ⟨object, ran, _⟩ := outcome
      rw [ran]
      constructor
      · rintro ⟨⟩
      · rintro ⟨digits, breaks, _⟩
        cases looked.symm.trans (broken digits breaks)

omit genuine in
private theorem lookup_sameFor (spec : Text) {object : Entity} (made : custody.Made object) :
    custody.session.SameFor ((lookup spec).on custody.session).2 object := by
  obtain ⟨later, left, before, _⟩ := custody.keeps_lookup spec
  rw [← left]
  exact before.sameFor made

private theorem lookup_engine (spec : Text) :
    ((lookup spec).on custody.session).2.engine = custody.session.engine := by
  obtain ⟨later, _, sameEngine, _, outcome⟩ := realizes_lookup genuine spec
  rw [← sameEngine]
  cases looked : (custody.session.engine.lookup spec).outcome with
  | error fault =>
      rw [looked] at outcome
      rw [outcome]
  | ok found =>
      rw [looked] at outcome
      obtain ⟨object, ran, _⟩ := outcome
      rw [ran]

end Custody

namespace Session

/-- A parser that fails is contained, in whatever state of a session and whatever it did to the metadata that
it was given, as long as keys are bound to custom items and stacks carry metadata. The alternative that the
parsers were run for names nothing, with the events of the parsers up to the one that fails, and the search
goes on behind it. What a lookup gives up on is an overlong amount, never a parser. A lookup leaves the keys
and the parsers alone, and every matcher that was there is as it was. -/
theorem lookup_contains {setup : Setup} {session : Session} (started : start setup = .ok session)
    (commands : List Command) (customs : (session.run commands).engine.registry.Genuine)
    (plain : (session.run commands).Plain) (spec : Text) :
    let reached := session.run commands
    (∀ passed alternative behind between order, Text.cut '?' spec = passed ++ alternative :: behind →
      (lookupFirst passed).on reached = (.ok nothingFound, between) →
      reached.engine.Reads alternative order →
      ∃ before, order.base.found.matcher.representative.meta? = some before ∧
        ∀ earlier failing others replies snapshot,
          reached.engine.parsers = earlier ++ failing :: others →
          Answers order.modifiers earlier before replies snapshot →
          failing.Fails order.modifiers snapshot →
          ∃ after, (lookupAlternative alternative).on between = (.ok nothingFound, after) ∧
            Modifier.readAll reached.engine.parsers order.modifiers before =
              Modifier.readAll (earlier ++ [failing]) order.modifiers before ∧
            after.journal = between.journal ++
              (Modifier.readAll (earlier ++ [failing]) order.modifiers before).result.events ++
              [.notice (.parserFailed order.modifiers order.base.found.matcher.text)] ∧
            (lookup spec).on reached = (lookupFirst behind).on after) ∧
      (∀ failure, ((lookup spec).on reached).1 = .error failure ↔
        ∃ digits, reached.engine.Breaks spec digits ∧ failure = .fault (.digitLimit digits.length)) ∧
      ((lookup spec).on reached).2.engine = reached.engine ∧
      ∀ object, reached.Made object → reached.SameFor ((lookup spec).on reached).2 object := by
  obtain ⟨custody, isReached, known⟩ := Custody.of_run started commands
  rw [← isReached] at customs plain
  have genuine := Custody.genuine_of_plain customs plain
  intro reached
  have isReached : custody.session = reached := isReached
  clear_value reached
  subst isReached
  refine ⟨?_, Custody.lookup_error_iff genuine spec, Custody.lookup_engine genuine spec, ?_⟩
  · intro passed alternative behind between order alternatives ranPassed reads
    obtain ⟨before, readable⟩ := (reads.genuine customs).readable
    refine ⟨before, readable, ?_⟩
    intro earlier failing others replies snapshot parsers answers fails
    obtain ⟨later, rfl, genuineLater, sameEngine⟩ := Custody.genuine_between genuine ranPassed
    rw [← sameEngine] at reads parsers
    have named := Engine.lookupAlternative_of_fails reads readable parsers answers fails
    obtain ⟨after, ran, journal⟩ := Custody.lookupAlternative_of_nothing genuineLater named
    refine ⟨after, ran, ?_, journal.trans (List.append_assoc _ _ _).symm, ?_⟩
    · rw [← sameEngine, parsers]
      exact (answers.readAll_fails fails others).2
    · exact lookup_of_nothing alternatives ranPassed ran
  · intro object made
    exact Custody.lookup_sameFor spec ((Custody.made_iff known object).1 made)

/-- Gems under their key, with a parser that writes and answers, one that gives up and one that is not
asked. -/
theorem lookup_contains_gems :
    let writing := (Scripted.loreLine "old".toList "Worn".toList).parser
    let failing := (Scripted.failing "boom".toList).parser
    let recording := (Scripted.recorder "last".toList).parser
    let setup : Setup := { offers := [] }
    let key : Key := ⟨"vault".toList, "gems".toList⟩
    let gems := MatcherSource.custom key (.leastAmount 5) (.new (.ok .diamond) 5 (.new (.ok .blank)))
    let commands := [Command.registerOwn gems, .addParser (.parser writing), .addParser (.parser failing),
      .addParser (.parser recording)]
    let spec := "?vault:gems 7 old?paper".toList
    let alternative := "vault:gems 7 old".toList
    ∃ session reached handle before after, start setup = .ok session ∧ reached = session.run commands ∧
      reached.engine.registry.Genuine ∧ reached.Plain ∧
      Text.cut '?' spec = [[]] ++ alternative :: ["paper".toList] ∧
      (lookupFirst [[]]).on reached = (.ok nothingFound, reached) ∧
      reached.engine.Reads alternative ⟨.item handle, 7, ["old".toList]⟩ ∧
      handle.matcher.representative.meta? = some before ∧
      reached.engine.parsers = [writing] ++ failing :: [recording] ∧
      (let worn : Meta := { before with lore := before.lore ++ ["Worn".toList] }
       Answers ["old".toList] [writing] before [.nothing] worn ∧ failing.Fails ["old".toList] worn) ∧
      (lookupAlternative alternative).on reached = (.ok nothingFound, after) ∧
      after.journal = reached.journal ++
        [.notice (.parserFailed ["old".toList] handle.matcher.text)] ∧
      (lookup spec).on reached = (lookupFirst ["paper".toList]).on after ∧
      reached.SameFor ((lookup spec).on reached).2 (.matcher handle) := by
  intro writing failing recording setup key gems commands spec alternative
  have started : start setup = .ok {} := rfl
  have registered : ((step {} (.registerOwn gems)).1.engine.parsers.isEmpty &&
      ((step {} (.registerOwn gems)).1.engine.registry.get? key).isSome) = true := by
    decide +kernel
  have customs : (run {} commands).engine.registry.Genuine := Registry.genuine_of_items (by decide +kernel)
  have plain : (run {} commands).Plain := by decide +kernel
  obtain ⟨noParsers, isBound⟩ := Bool.and_eq_true_iff.1 registered
  obtain ⟨handle, bound⟩ := Option.isSome_iff_exists.1 isBound
  have made : (run {} commands).Made (.matcher handle) := by
    obtain ⟨custody, isReached, known⟩ := Custody.of_run started commands
    have boundThen : (run {} commands).engine.registry.get? key = some handle := bound
    rw [← isReached] at boundThen ⊢
    exact (Custody.made_iff known _).2 (custody.open_of_bound boundThen).made
  have parsers : (run {} commands).engine.parsers = [writing] ++ failing :: [recording] := by
    show (step {} (.registerOwn gems)).1.engine.parsers ++ [writing] ++ [failing] ++ [recording] = _
    rw [List.isEmpty_iff.1 noParsers]
    rfl
  have parts : Text.cut ':' (Text.lower "vault:gems".toList) = ["vault".toList, "gems".toList] := by
    decide +kernel
  have number : Number.read "7".toList = .ok (some 7) := by decide +kernel
  have tokens : Text.cut ' ' (Text.dropTrailing ' ' alternative) =
      ["vault:gems".toList, "7".toList, "old".toList] := by decide
  have isKey : Key.of "vault".toList "gems".toList = key := by decide +kernel
  have reads : (run {} commands).engine.Reads alternative ⟨.item handle, 7, ["old".toList]⟩ :=
    .intro tokens (by decide) (.item parts (isKey ▸ bound)) (.written number)
  have alternatives : Text.cut '?' spec = [[]] ++ alternative :: ["paper".toList] := by decide
  have namesNothing : ∀ session : Session,
      (lookupFirst [[]]).on session = (.ok nothingFound, session) := fun _ => rfl
  obtain ⟨contains, _, _, frame⟩ := lookup_contains started commands customs plain spec
  obtain ⟨before, readable, contained⟩ := contains _ _ _ _ _ alternatives (namesNothing _) reads
  have answers : Answers ["old".toList] [writing] before [.nothing]
      { before with lore := before.lore ++ ["Worn".toList] } := .cons rfl nofun .nil
  have fails : failing.Fails ["old".toList] { before with lore := before.lore ++ ["Worn".toList] } :=
    .inl ⟨_, rfl⟩
  obtain ⟨after, ran, _, journal, goesOn⟩ := contained [writing] failing [recording] [.nothing] _ parsers
    answers fails
  refine ⟨_, _, handle, before, after, started, rfl, customs, plain, alternatives, namesNothing _, reads,
    readable, parsers, ⟨answers, fails⟩, ran, ?_, goesOn, frame _ made⟩
  rw [journal, List.append_assoc]
  rfl

end Session

end ItemSpec

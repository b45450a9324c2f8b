import ItemSpec.Proofs.Session.Genuine
import ItemSpec.Proofs.Session.Modifying
set_option autoImplicit false

/-! A host's lookup beside the engine's. The one works on objects and edits metadata in place, the other
computes with values; where the registry holds custom items that show their own stacks, the two find the same
things, leave the same events behind and give up on the same specs. -/

namespace ItemSpec

open ItemSpec.Action

namespace Custody

/-- What a lookup finds is this object: the very one that was there, or a new one. It shows what the matcher
it stands for shows. -/
structure Finds (custody : Custody) (found : Found) (object : Entity) : Prop where
  isMatcher : ∃ handle, object = .matcher handle ∧ (found = .object handle ∨ found = .new handle.matcher)
  isOpen : custody.Open object
  portrays : custody.session.Portrays object (.ofStack found.matcher.representative)

theorem Finds.later {custody later : Custody} {found : Found} {object : Entity}
    (finds : custody.Finds found object) (before : custody.Before later.toLedger) :
    later.Finds found object where
  isMatcher := finds.isMatcher
  isOpen := before.isOpen finds.isOpen
  portrays := (before.portrays_iff finds.isOpen.made _).1 finds.portrays

/-- An action does on objects what a traced computation does on values: it leaves the events of the
computation in the journal and the engine alone, and it has a result that stands for the value, or the
fault. -/
def Realizes {Value Result : Type} (custody : Custody) (action : Action Result) (traced : Traced Value)
    (stands : Custody → Value → Result → Prop) : Prop :=
  ∃ later : Custody, custody.Before later.toLedger ∧ later.session.engine = custody.session.engine ∧
    later.session.journal = custody.session.journal ++ traced.events ∧
    match traced.outcome with
    | .error fault => action.on custody.session = (.error (.fault fault), later.session)
    | .ok value => ∃ result, action.on custody.session = (.ok result, later.session) ∧
      stands later value result

namespace Realizes

variable {Value Later Result Next : Type} {custody : Custody} {stands : Custody → Value → Result → Prop}

private theorem pure {value : Value} {result : Result} (given : stands custody value result) :
    custody.Realizes (pure result) (pure value) stands :=
  ⟨custody, .refl _, rfl, (List.append_nil _).symm, result, rfl, given⟩

private theorem bind {first : Action Result} {traced : Traced Value} {next : Result → Action Next}
    {following : Value → Traced Later} {standsLater : Custody → Later → Next → Prop}
    (realizes : custody.Realizes first traced stands)
    (realizesNext : ∀ later : Custody, custody.Before later.toLedger →
      later.session.engine = custody.session.engine → ∀ value result, stands later value result →
      later.Realizes (next result) (following value) standsLater) :
    custody.Realizes (first >>= next) (traced >>= following) standsLater := by
  obtain ⟨later, before, sameEngine, journal, outcome⟩ := realizes
  cases finished : traced.outcome with
  | error fault =>
      rw [finished] at outcome
      rw [Traced.bind_of_error finished]
      exact ⟨later, before, sameEngine, journal, on_bind_of_error outcome next⟩
  | ok value =>
      rw [finished] at outcome
      obtain ⟨result, ran, given⟩ := outcome
      obtain ⟨last, after, sameEngineLast, journalLast, outcomeLast⟩ :=
        realizesNext later before sameEngine value result given
      rw [Traced.bind_of_ok finished]
      refine ⟨last, before.trans after, sameEngineLast.trans sameEngine, ?_, ?_⟩
      · rw [journalLast, journal, List.append_assoc]
      · rw [on_bind_of_ok ran next]
        exact outcomeLast

private theorem bind_pure {first : Action Result} {value : Value} {next : Result → Action Next}
    {traced : Traced Later} {standsLater : Custody → Later → Next → Prop}
    (realizes : custody.Realizes first (Pure.pure value) stands)
    (realizesNext : ∀ later : Custody, custody.Before later.toLedger →
      later.session.engine = custody.session.engine → ∀ result, stands later value result →
      later.Realizes (next result) traced standsLater) :
    custody.Realizes (first >>= next) traced standsLater := by
  obtain ⟨later, before, sameEngine, journal, result, ran, given⟩ := realizes
  obtain ⟨last, after, sameEngineLast, journalLast, outcome⟩ :=
    realizesNext later before sameEngine result given
  refine ⟨last, before.trans after, sameEngineLast.trans sameEngine, ?_, ?_⟩
  · have nothing : later.session.journal = custody.session.journal := journal.trans (List.append_nil _)
    rw [journalLast, nothing]
  · rw [on_bind_of_ok ran next]
    exact outcome

private theorem get_bind {next : Session → Action Result} {traced : Traced Value}
    (realizes : custody.Realizes (next custody.session) traced stands) :
    custody.Realizes (get >>= next) traced stands :=
  realizes

private theorem settle (outcome : Except Fault Value) :
    custody.Realizes (settle outcome) (.lift outcome) fun _ value result =>
      value = result ∧ outcome = .ok value := by
  refine ⟨custody, .refl _, rfl, (List.append_nil _).symm, ?_⟩
  cases outcome with
  | error fault => exact settle_error_on fault _
  | ok value => exact ⟨value, settle_ok_on value _, rfl, rfl⟩

private theorem of_run {action : Action Result} {traced : Traced Value} {gives : Custody → Result → Prop}
    {result : Result} {value : Value} {after : Session} (kept : custody.Keeps action gives)
    (ran : action.on custody.session = (.ok result, after)) (computed : traced.outcome = .ok value)
    (sameEngine : after.engine = custody.session.engine)
    (journal : after.journal = custody.session.journal ++ traced.events)
    (given : ∀ later : Custody, later.session = after → custody.Before later.toLedger →
      gives later result → stands later value result) :
    custody.Realizes action traced stands := by
  obtain ⟨later, left, before, gave⟩ := kept
  rw [ran] at left gave
  subst left
  refine ⟨later, before, sameEngine, journal, ?_⟩
  rw [computed]
  exact ⟨result, ran, given later rfl before (gave result rfl)⟩

private theorem record (events : List Event) :
    custody.Realizes (record events) ⟨events, .ok ()⟩ fun _ _ _ => True :=
  .of_run (custody.keeps_record events) (record_on events _) rfl rfl rfl fun _ _ _ _ => trivial

end Realizes

/-! ### What is found -/

variable {custody : Custody}

theorem exhibit?_eq_none {object : Entity} {serial : Nat} (numbered : object.serial? = some serial)
    (unused : serial = 0 ∨ custody.session.nextSerial ≤ serial) :
    custody.session.exhibit? object = none := by
  have nowhere : custody.session.exhibits.lookup serial = none := by
    refine List.lookup_eq_none_iff.2 fun entry member => ?_
    obtain ⟨positive, handedOut, _⟩ := custody.exhibits entry member
    have apart : serial ≠ entry.1 := by omega
    simpa using apart
  cases object with
  | matcher handle =>
      cases numbered
      exact nowhere
  | hollow number wrapper =>
      cases numbered
      exact nowhere
  | _ => rfl

private theorem finds_nothing (custody : Custody) : custody.Finds .nothing nothingFound where
  isMatcher := ⟨.sharedEmpty, rfl, .inl rfl⟩
  isOpen := custody.open_nothingFound
  portrays := portrays_of_plain (exhibit?_eq_none rfl (.inl rfl)) rfl

theorem realizes_named {base : Base}
    (portrayed : ∀ handle, base = .item handle → custody.Finds (.object handle) (.matcher handle)) :
    custody.Realizes (named base) (pure base.found) Finds := by
  cases base with
  | item handle => exact .pure (portrayed handle rfl)
  | material material =>
      refine .of_run (@keeps_newMatcher custody (.material material) rfl) rfl rfl rfl
        (List.append_nil _).symm fun later left before isOpen => ?_
      refine ⟨⟨_, rfl, .inr rfl⟩, isOpen, portrays_of_plain ?_ rfl⟩
      have unused : custody.session.exhibit?
          (.matcher ⟨custody.session.nextSerial, .material material⟩) = none :=
        exhibit?_eq_none rfl (.inr (Nat.le_refl _))
      rw [left]
      exact unused

private theorem Finds.matcher_eq {found : Found} {handle : Handle}
    (finds : custody.Finds found (.matcher handle)) :
    found.matcher = handle.matcher := by
  obtain ⟨other, same, rfl | rfl⟩ := finds.isMatcher
  · cases same
    rfl
  · cases same
    rfl

private theorem Finds.representative_on {found : Found} {object : Entity}
    (finds : custody.Finds found object) :
    ∃ shown after, (representative object).on custody.session = (.ok shown, after) ∧
      custody.session.Makes (.ofStack found.matcher.representative) shown after := by
  cases keeps : custody.session.exhibit? object with
  | none =>
      obtain ⟨handle, rfl, _⟩ := finds.isMatcher
      rw [finds.matcher_eq, representative_of_plain keeps rfl]
      exact newStack_on _
  | some exhibit =>
      obtain ⟨content, shows, portrays⟩ := portrays_of_exhibit keeps
      have same := portrays.unique finds.portrays
      cases content with
      | stack material amount inner =>
          rw [← same]
          exact representative_of_stack keeps shows
      | _ => cases same

/-! ### Modifiers and amounts -/

private theorem finds_modified {session : Session} {material : Material} (solid : material ≠ .air)
    {amount : Int}
    {base : Matcher} {test : Test} {before after : Meta} {later : Custody}
    (left : later.session = (session.showing (session.newStackAt 1)).grown
      [before, before, after, after, after]
      [⟨material, amount, session.newDataAt 3⟩, ⟨material, amount, session.newDataAt 4⟩])
    (isOpen : later.Open
      (.matcher ⟨session.nextSerial, .modified base test ⟨material, amount, some after⟩⟩)) :
    later.Finds (.new (.modified base test ⟨material, amount, some after⟩))
      (.matcher ⟨session.nextSerial, .modified base test ⟨material, amount, some after⟩⟩) where
  isMatcher := ⟨_, rfl, .inr rfl⟩
  isOpen := isOpen
  portrays := by
    have keeps : later.session.exhibit? (.matcher ⟨session.nextSerial,
        .modified base test ⟨material, amount, some after⟩⟩) = some (session.newStackAt 1) := by
      rw [left]
      exact List.lookup_cons_self
    have shows : later.session.Shows (session.newStackAt 1) (.stack material amount (.data after)) := by
      rw [left]
      exact Session.shows_grown rfl rfl
    have portrays := portrays_of_shows keeps shows
    have settled : (Matcher.modified base test ⟨material, amount, some after⟩).representative =
        ⟨material, amount, some after⟩ := by
      simp only [Matcher.representative, Stack.settle, if_neg solid, Option.getD_some]
    rw [Found.matcher, settled]
    exact portrays

private theorem realizes_modified {found : Found} {object : Entity} (finds : custody.Finds found object)
    (tokens : List Text) :
    custody.Realizes (modified object tokens) (custody.session.engine.modify found tokens)
      fun later => Option.Rel later.Finds := by
  have kept := custody.keeps_modified finds.isOpen tokens
  obtain ⟨handle, rfl, _⟩ := finds.isMatcher
  have same := finds.matcher_eq
  cases parsers : custody.session.engine.parsers.isEmpty with
  | true =>
      unfold Engine.modify
      rw [if_pos parsers]
      exact .of_run kept (Session.modified_without_parsers tokens parsers) rfl rfl (List.append_nil _).symm
        fun later _ before _ => .some (finds.later before)
  | false =>
      obtain ⟨shown, after, ran, makes⟩ := finds.representative_on
      have settled := found.matcher.representative_settled
      unfold Engine.modify
      rw [if_neg (by simp [parsers])]
      dsimp only
      generalize found.matcher.representative = stack at makes settled ⊢
      obtain ⟨material, amount, meta?⟩ := stack
      cases meta? with
      | none =>
          have modifies := Session.modified_of_bare tokens parsers ran makes
          cases makes with
          | bare =>
              exact .of_run kept modifies rfl rfl (List.append_nil _).symm
                fun later _ before _ => .some (finds.later before)
          | stack _ _ inside => cases inside
      | some data =>
          have solid : material ≠ .air := Stack.solid_of_readable settled rfl
          obtain ⟨rfl, rfl⟩ := Session.makes_plain_iff.1 makes
          have ran := Session.modified_until_parsed tokens parsers ran
          dsimp only at ran ⊢
          generalize Modifier.readAll custody.session.engine.parsers tokens data = reading at ran ⊢
          cases outcome : reading.result.outcome with
          | error fault =>
              rw [outcome] at ran
              rw [same]
              exact .of_run kept ran rfl rfl rfl fun _ _ _ _ => .none
          | ok tests =>
              rw [outcome] at ran
              have resumed := @Session.modified_from_parsed (custody.session.noting reading.result.events)
                material amount solid handle tests data reading.data
              replace ran := ran.trans resumed
              dsimp only
              by_cases unchanged : (tests.isEmpty && decide (reading.data = data)) = true
              · rw [if_pos unchanged] at ran ⊢
                exact .of_run kept ran rfl rfl rfl fun later _ before _ => .some (finds.later before)
              · rw [if_neg unchanged] at ran ⊢
                refine .of_run kept ran rfl rfl rfl fun later left before isOpen => .some ?_
                rw [same, Stack.setMeta_of_solid solid]
                exact finds_modified solid left (isOpen _ rfl)

/-- What a matcher keeps is a stack that differs from what it shows in the amount at most. -/
theorem Finds.shows_exhibit {found : Found} {object exhibit : Entity} (finds : custody.Finds found object)
    (keeps : custody.session.exhibit? object = some exhibit) (other : Int) :
    ∃ content, custody.session.Shows exhibit content ∧
      content.inAmount (some other) = .ofStack { found.matcher.representative with amount := other } := by
  obtain ⟨content, shows, portrays⟩ := portrays_of_exhibit keeps
  have same := portrays.unique finds.portrays
  refine ⟨content, shows, ?_⟩
  cases content with
  | stack material amount inner =>
      obtain ⟨sameMaterial, _, sameInner⟩ := Content.stack.inj same
      rw [sameMaterial, sameInner]
      rfl
  | _ => cases same

private theorem realizes_counted {found : Found} {object : Entity} (finds : custody.Finds found object)
    (amount : Int) :
    custody.Realizes (counted object amount)
      (pure (custody.session.engine.count found amount)) Finds := by
  have kept := custody.keeps_counted finds.isOpen amount
  obtain ⟨handle, rfl, _⟩ := finds.isMatcher
  have same := finds.matcher_eq
  unfold counted at kept ⊢
  unfold Engine.count
  split
  · exact .pure finds
  · rename_i several
    rw [if_neg several] at kept
    have ran := @Session.newCounted_on custody.session handle amount custody.session.engine.policy
    rw [same]
    cases keeps : custody.session.exhibit? (.matcher handle) with
    | none =>
        rw [keeps] at ran
        refine .of_run kept ran rfl rfl (List.append_nil _).symm fun later left _ isOpen => ?_
        refine ⟨⟨_, rfl, .inr rfl⟩, isOpen, portrays_of_plain ?_ rfl⟩
        have unused : custody.session.exhibit? (.matcher ⟨custody.session.nextSerial,
            .counted handle.matcher amount custody.session.engine.policy⟩) = none :=
          exhibit?_eq_none rfl (.inr (Nat.le_refl _))
        rw [left]
        exact unused
    | some exhibit =>
        rw [keeps] at ran
        obtain ⟨content, shows, inAmount⟩ := finds.shows_exhibit keeps amount
        rw [same] at inAmount
        refine .of_run kept ran rfl rfl (List.append_nil _).symm fun later left before isOpen => ?_
        have keepsLater : later.session.exhibit? (.matcher ⟨custody.session.nextSerial,
            .counted handle.matcher amount custody.session.engine.policy⟩) = some exhibit := by
          rw [left]
          exact List.lookup_cons_self
        have portrays := portrays_of_shows keepsLater
          (before.shows_kept shows (custody.kept_of_exhibit? keeps))
        refine ⟨⟨_, rfl, .inr rfl⟩, isOpen, ?_⟩
        rw [Entity.ownAmount?, inAmount] at portrays
        exact portrays

/-! ### Lookups -/

theorem finds_bound (genuine : custody.session.Genuine) {key : Key} {handle : Handle}
    (bound : custody.session.engine.registry.get? key = some handle) :
    custody.Finds (.object handle) (.matcher handle) := by
  obtain ⟨item, rfl, portrays⟩ := genuine key handle bound
  refine ⟨⟨_, rfl, .inl rfl⟩, custody.open_of_bound bound, ?_⟩
  show custody.session.Portrays _ (.ofStack item.toMatcher.representative)
  rw [item.representative_toMatcher]
  exact portrays

private theorem finds_identified (genuine : custody.session.Genuine) {token : Text} {handle : Handle}
    {amount : Int}
    (identified : custody.session.engine.identify token = .ok (some (.item handle, amount))) :
    custody.Finds (.object handle) (.matcher handle) := by
  cases (Engine.identify_eq_some_iff token _ amount).1 identified with
  | item parts bound => exact finds_bound genuine bound
  | itemAmount parts bound number => exact finds_bound genuine bound

private theorem realizes_fill {engine : Engine} (sameEngine : custody.session.engine = engine) {base : Base}
    (portrayed : ∀ handle, base = .item handle → custody.Finds (.object handle) (.matcher handle))
    (amount : Int) (modifiers : List Text) :
    custody.Realizes
      (do
        match ← modified (← named base) modifiers with
        | none => pure nothingFound
        | some found => counted found amount)
      (engine.fill ⟨base, amount, modifiers⟩) Finds := by
  refine .bind_pure (realizes_named portrayed) ?_
  intro custody _ same object finds
  have sameEngine := same.trans sameEngine
  have modifies := realizes_modified finds modifiers
  rw [sameEngine] at modifies
  refine modifies.bind fun custody _ same found? object? finds? => ?_
  have sameEngine := same.trans sameEngine
  cases finds? with
  | none => exact .pure custody.finds_nothing
  | some finds =>
      have counts := realizes_counted finds amount
      rw [sameEngine] at counts
      exact counts

theorem realizes_lookupAlternative (genuine : custody.session.Genuine) (alternative : Text) :
    custody.Realizes (lookupAlternative alternative)
      (custody.session.engine.lookupAlternative alternative) Finds := by
  unfold lookupAlternative Engine.lookupAlternative
  cases Text.cut ' ' (Text.dropTrailing ' ' alternative) with
  | nil => exact .pure custody.finds_nothing
  | cons token others =>
      by_cases isEmpty : token = []
      · simp only [if_pos isEmpty]
        exact .pure custody.finds_nothing
      · simp only [if_neg isEmpty]
        refine .get_bind (.bind (.settle _) ?_)
        rintro later before sameEngine named? _ ⟨rfl, identified⟩
        cases named? with
        | none =>
            refine .bind (.record _) fun last _ _ _ _ _ => .pure last.finds_nothing
        | some named =>
            obtain ⟨base, named⟩ := named
            refine .bind (.settle _) ?_
            rintro last after sameEngineLast ⟨amount, modifiers⟩ _ ⟨rfl, _⟩
            refine realizes_fill (sameEngineLast.trans sameEngine) ?_ amount modifiers
            rintro handle rfl
            exact (finds_identified genuine identified).later (before.trans after)

theorem Finds.isEmpty_eq {found : Found} {object : Entity} (finds : custody.Finds found object) :
    object.isEmpty = found.matcher.isEmpty := by
  obtain ⟨handle, rfl, _⟩ := finds.isMatcher
  rw [finds.matcher_eq]
  rfl

theorem realizes_lookupFirst (genuine : custody.session.Genuine) (alternatives : List Text) :
    custody.Realizes (lookupFirst alternatives)
      (custody.session.engine.lookupFirst alternatives) Finds := by
  induction alternatives generalizing custody with
  | nil => exact .pure custody.finds_nothing
  | cons first others ih =>
      refine .bind (realizes_lookupAlternative genuine first)
        fun later before sameEngine found object finds => ?_
      rw [finds.isEmpty_eq]
      split
      · rw [← sameEngine]
        exact ih (genuine_later genuine before sameEngine)
      · exact .pure finds

/-- A host's lookup is the engine's lookup. -/
theorem realizes_lookup (genuine : custody.session.Genuine) (spec : Text) :
    custody.Realizes (lookup spec) (custody.session.engine.lookup spec) Finds := by
  unfold lookup Engine.lookup
  match Text.cut '?' spec with
  | [] => exact realizes_lookupFirst genuine []
  | [alternative] => exact realizes_lookupAlternative genuine alternative
  | first :: second :: others => exact realizes_lookupFirst genuine (first :: second :: others)

end Custody

end ItemSpec

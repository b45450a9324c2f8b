import ItemSpec.Proofs.Session.Agreement
set_option autoImplicit false

/-! Where a lookup relies on metadata there is some. What an alternative names is a material or a custom item,
and what is shown for it is no air and carries something, even if the stack that a custom item was made of
had been edited until it broke the rule of stacks. Everything that is shown keeps to that rule. -/

namespace ItemSpec

open ItemSpec.Action

private theorem Hollow.representative_settled {wrapper : Hollow} {stack : Stack}
    (told : wrapper.representative = .ok stack) : stack.Settled := by
  induction wrapper generalizing stack with
  | other form text => cases told
  | modified base shown ih =>
      cases told
      exact shown.settle_settled
  | counted base amount policy ih =>
      cases below : base.representative with
      | error fault =>
          rw [representative, below] at told
          cases told
      | ok inside =>
          rw [representative, below] at told
          cases told
          have settled : inside.Settled := ih below
          exact settled

namespace Session

variable {session after : Session}

/-- What is shown for an object is a stack that is not air, it carries something, and that can be read. -/
def ShowsReadable (session : Session) (object : Entity) : Prop :=
  ∃ shown after original last, (representative object).on session = (.ok (.stack shown), after) ∧
    (after.cellAt shown).material ≠ .air ∧ (after.cellAt shown).carried ≠ .nothing ∧
    (readMeta shown).on after = (.ok original, last) ∧ original ≠ .nothing

private theorem Makes.depth_le {content : Content} {object : Entity}
    (makes : session.Makes content object after) :
    content.depth ≤ after.stackCells.length := by
  induction makes with
  | data data => exact Nat.zero_le _
  | bare material amount =>
      rw [List.length_append, List.length_singleton]
      exact Nat.succ_le_succ (Nat.zero_le _)
  | stack material amount inside ih =>
      rw [List.length_append, List.length_singleton]
      exact Nat.succ_le_succ ih

private theorem readMeta_on {cell : Nat} {content : Content}
    (carries : (session.cellAt cell).carried ≠ .nothing)
    (shows : session.Shows (session.cellAt cell).carried content) (settled : content.Settled)
    (enough : content.depth ≤ session.stackCells.length) :
    ∃ original last, (readMeta cell).on session = (.ok original, last) ∧ original ≠ .nothing := by
  obtain ⟨original, last, ran, makes⟩ := copyAsFar_on shows settled carries enough
  refine ⟨original, last, ?_, makes.something⟩
  rw [readMeta, on_get_bind]
  split
  · rename_i bare
    exact absurd bare carries
  · exact ran

private theorem showsReadable_of_makes {object shown : Entity} {content : Content}
    (ran : (representative object).on session = (.ok shown, after))
    (makes : session.Makes content shown after) (settled : content.Settled) (readable : content.Readable) :
    session.ShowsReadable object := by
  have shows := makes.shows
  have deep := makes.depth_le
  cases shows with
  | nothing => exact absurd readable id
  | data inRange => exact absurd readable id
  | @stack cell inner inRange inside =>
      obtain ⟨solid, something⟩ := readable
      have carries : (after.cellAt cell).carried ≠ .nothing := by
        intro bare
        rw [bare] at inside
        cases inside
        exact something rfl
      obtain ⟨original, last, read, isThere⟩ :=
        readMeta_on carries inside settled.2 (Nat.le_of_succ_le deep)
      exact ⟨cell, after, original, last, ran, solid, carries, read, isThere⟩

end Session

namespace Custody

variable {custody : Custody}

private theorem showsReadable_of_key {handle : Handle} (isOpen : custody.Open (.matcher handle))
    (custom : handle.matcher.key?.isSome) : custody.session.ShowsReadable (.matcher handle) := by
  obtain ⟨cell, content, keeps, shows, readable, _⟩ := isOpen.faithful handle rfl custom
  obtain ⟨other, showsOther, settled, _⟩ := custody.shows_kept (custody.kept_of_lookup keeps)
  cases shows.unique showsOther
  cases content with
  | stack material amount inner =>
      obtain ⟨shown, after, ran, makes⟩ :=
        @representative_of_stack custody (.matcher handle) _ keeps material amount inner shows
      exact Session.showsReadable_of_makes ran makes settled readable
  | nothing => exact absurd readable id
  | data data => exact absurd readable id

private theorem showsReadable_of_material {material : Material} (solid : material ≠ .air) :
    ∃ bare between, (named (.material material)).on custody.session = (.ok bare, between) ∧
      between.ShowsReadable bare := by
  refine ⟨_, _, rfl, ?_⟩
  obtain ⟨shown, after, ran, makes⟩ := @newStack_on custody.session.numbered (.of material)
  have settled : (Content.ofStack (.of material)).Settled := Content.settled_ofStack (Stack.settle_settled _)
  have unused : custody.session.exhibit?
      (.matcher ⟨custody.session.nextSerial, .material material⟩) = none :=
    exhibit?_eq_none rfl (.inr (Nat.le_refl _))
  have stillUnused : custody.session.numbered.exhibit?
      (.matcher ⟨custody.session.nextSerial, .material material⟩) = none := unused
  refine Session.showsReadable_of_makes ((representative_of_plain stillUnused rfl).trans ran) makes settled
    (Content.readable_ofStack settled ?_)
  simp only [Stack.of, Stack.settle, if_neg solid, Option.isSome_some]

/-- Whatever is shown is settled, be it a copy of what a matcher keeps or made for the occasion. -/
theorem settled_of_representative {object shown : Entity} {after : Session}
    (ran : (representative object).on custody.session = (.ok shown, after)) :
    ∃ content, after.Shows shown content ∧ content.Settled := by
  have of_portrays : ∀ content, custody.session.Portrays object content → content.Settled →
      ∃ content, after.Shows shown content ∧ content.Settled := by
    rintro content ⟨other, afterwards, ranOther, shows⟩ settled
    obtain ⟨sameShown, rfl⟩ := Prod.mk.inj (ran.symm.trans ranOther)
    cases sameShown
    exact ⟨content, shows, settled⟩
  cases keeps : custody.session.exhibit? object with
  | some exhibit =>
      obtain ⟨content, shows, portrays⟩ := portrays_of_exhibit keeps
      obtain ⟨other, showsOther, settled, _⟩ := custody.shows_kept (custody.kept_of_exhibit? keeps)
      cases shows.unique showsOther
      exact of_portrays _ portrays (Content.settled_inAmount settled _)
  | none =>
      cases told : plainly object with
      | some stack =>
          refine of_portrays _ (portrays_of_plain keeps told) (Content.settled_ofStack ?_)
          cases object with
          | matcher handle =>
              cases told
              exact handle.matcher.representative_settled
          | hollow serial wrapper =>
              cases below : wrapper.representative with
              | error fault =>
                  rw [plainly, below] at told
                  cases told
              | ok inside =>
                  rw [plainly, below] at told
                  cases told
                  exact Hollow.representative_settled below
          | _ => cases told
      | none => exact absurd ran (representative_ne_ok keeps told shown after)

private theorem showsReadable_of_identified {token : Text} {base : Base} {amount : Int}
    (identified : custody.session.engine.identify token = .ok (some (base, amount)))
    (customs : ∀ handle, base = .item handle → handle.matcher.key?.isSome) :
    ∃ bare between, (named base).on custody.session = (.ok bare, between) ∧ between.ShowsReadable bare := by
  cases base with
  | material material =>
      have solid : material ≠ .air := by
        cases (Engine.identify_eq_some_iff token _ amount).1 identified with
        | material parts resolved solid => exact solid
        | materialAmount parts unbound resolved solid number => exact solid
      exact showsReadable_of_material solid
  | item handle =>
      exact ⟨_, _, rfl, showsReadable_of_key (custody.open_of_identified identified) (customs handle rfl)⟩

private theorem keeps_sources (custody : Custody) (sources : List MatcherSource) :
    custody.Keeps (sources.forM fun source => discard source.entity) fun _ _ => True := by
  induction sources generalizing custody with
  | nil => exact .pure trivial
  | cons source others ih =>
      exact .bind (.discard (custody.keeps_matcherSource source)) fun later _ _ _ => ih later

end Custody

namespace Session

/-- In whatever state of a session, also halfway through a command that has built matchers and looked up
alternatives already: if an alternative names a material or a custom item, then what is shown for that is a stack
that is not air and whose metadata is there to be read. And whatever matcher shows a stack, that is air exactly
if it carries nothing. -/
theorem run_shows_readable {setup : Setup} {session : Session} (started : start setup = .ok session)
    (commands : List Command) (sources : List MatcherSource) :
    let reached := ((sources.forM fun source => discard source.entity).on (session.run commands)).2
    (∀ token base amount, reached.engine.identify token = .ok (some (base, amount)) →
      (∀ handle, base = .item handle → handle.matcher.key?.isSome) →
      ∃ bare between, (named base).on reached = (.ok bare, between) ∧ between.ShowsReadable bare) ∧
    ∀ object cell after, (representative object).on reached = (.ok (.stack cell), after) →
      ((after.cellAt cell).material = .air ↔ (after.cellAt cell).carried = .nothing) := by
  obtain ⟨custody, isReached, _⟩ := Custody.of_run started commands
  obtain ⟨later, left, _⟩ := custody.keeps_sources sources
  intro reached
  have isReached : later.session = reached := by rw [left, isReached]
  clear_value reached
  subst isReached
  constructor
  · intro token base amount identified customs
    exact Custody.showsReadable_of_identified identified customs
  · intro object cell after ran
    obtain ⟨content, shows, settled⟩ := Custody.settled_of_representative ran
    cases shows with
    | stack inRange inside =>
        refine settled.1.trans ⟨?_, ?_⟩
        · rintro rfl
          generalize (after.cellAt cell).carried = carried at inside
          cases inside
          rfl
        · intro bare
          rw [bare] at inside
          cases inside
          rfl

/-- Gems that were made of a stack of air, of which the host had made diamond without any metadata. The
resolver of the host has air under a name, and that name is looked up before the gems are. -/
theorem run_shows_readable_gems :
    let setup : Setup := { offers := [], resolve := .ok (Resolver.table [("void".toList, .air)]) }
    let key : Key := ⟨"vault".toList, "gems".toList⟩
    let gems := MatcherSource.custom key (.leastAmount 5) (.named "given".toList)
    let commands := [Command.stack (.new (.ok .air) 5 .nothing) (some "given".toList),
      .edit "given".toList false [.material (.ok .diamond)], .registerOwn gems]
    let sources := [MatcherSource.lookup "void 3".toList]
    let token := "Vault:Gems:7".toList
    ∃ session base amount bare between, start setup = .ok session ∧
      (let reached := ((sources.forM fun source => discard source.entity).on (session.run commands)).2
       (reached.cellAt 0).material = .diamond ∧ (reached.cellAt 0).carried.same .nothing = true ∧
        reached.engine.identify token = .ok (some (base, amount)) ∧
        (∀ handle, base = .item handle → handle.matcher.key?.isSome) ∧
        (named base).on reached = (.ok bare, between) ∧ between.ShowsReadable bare) := by
  intro setup key gems commands sources token
  let session : Session := { engine := { resolve := Resolver.table [("void".toList, .air)] } }
  let reached := ((sources.forM fun source => discard source.entity).on (session.run commands)).2
  have started : start setup = .ok session := rfl
  have parts : Text.cut ':' (Text.lower token) = ["vault".toList, "gems".toList, "7".toList] := by decide +kernel
  have keyed : ((reached.engine.registry.get? (.of "vault".toList "gems".toList)).any fun handle =>
      handle.matcher.key?.isSome) = true := by decide +kernel
  obtain ⟨handle, bound, hasKey⟩ := (Option.any_eq_true _ _).1 keyed
  have identified : reached.engine.identify token = .ok (some (.item handle, 7)) :=
    (Engine.identify_eq_some_iff token _ 7).2 (.itemAmount parts bound (by decide))
  have customs : ∀ other, Base.item handle = .item other → other.matcher.key?.isSome := by
    rintro other ⟨⟩
    exact hasKey
  obtain ⟨bare, between, ran, readable⟩ :=
    (run_shows_readable started commands sources).1 token (.item handle) 7 identified customs
  exact ⟨session, .item handle, 7, bare, between, started, by decide +kernel, by decide +kernel,
    identified, customs, ran, readable⟩

end Session

end ItemSpec

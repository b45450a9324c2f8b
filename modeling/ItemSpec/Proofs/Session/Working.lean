import ItemSpec.Proofs.Engine.Order
import ItemSpec.Proofs.Registry.Contents
import ItemSpec.Proofs.Session.Making
set_option autoImplicit false

/-! Whatever a host does minds what is kept: lookups, edits, registrations and all else that a command can
be, whether it succeeds or fails halfway. -/

namespace ItemSpec

open ItemSpec.Action

private theorem CustomItem.made_of_create {serial : Nat} {key : Key} {definition : Definition}
    {item : Stack}
    {made : CustomItem} (created : (create serial key definition item).outcome = .ok made) :
    made.serial = serial ∧ made.item = item.settle := by
  unfold create at created
  split at created
  · split at created
    · cases created
      exact ⟨rfl, rfl⟩
    · cases created
    · cases created
  · cases created

namespace Registry

variable {registry : Registry}

private theorem mem_place {key : Key} {item : Handle} {entries : List (Key × Handle)} {entry : Key × Handle}
    (member : entry ∈ place key item entries) : entry ∈ entries ∨ entry.2 = item := by
  induction entries with
  | nil =>
      rw [place, List.mem_singleton] at member
      exact .inr (member ▸ rfl)
  | cons first others ih =>
      unfold place at member
      split at member
      · rcases List.mem_cons.1 member with rfl | later
        · exact .inr rfl
        · exact .inl (List.mem_cons_of_mem _ later)
      · rcases List.mem_cons.1 member with rfl | later
        · exact .inl List.mem_cons_self
        · exact (ih later).imp_left (List.mem_cons_of_mem _)

private theorem mem_of_register {extended : Registry} {key : Key} {item : Handle} {entry : Key × Handle}
    (registered : (registry.register key item).outcome = .ok extended)
    (member : entry ∈ extended.entries) : entry ∈ registry.entries ∨ entry.2 = item := by
  unfold register at registered
  split at registered
  · cases registered
  · split at registered
    · cases registered
      exact mem_place member
    · split at registered
      · cases registered
        exact .inl member
      · cases registered
        exact mem_place member

private theorem mem_of_remove {reduced : Registry} {key : Key} {entry : Key × Handle}
    (removed : (registry.remove key).outcome = .ok reduced) (member : entry ∈ reduced.entries) :
    entry ∈ registry.entries := by
  unfold remove at removed
  split at removed
  · cases removed
    exact member
  · cases removed
    exact (List.mem_filter.1 member).1

end Registry

namespace Engine

variable {engine changed : Engine} {key : Key}

private theorem registry_of_register {item : Handle}
    (registered : (engine.register key item).outcome = .ok changed) :
    ∃ registry, (engine.registry.register key item).outcome = .ok registry ∧
      { engine with registry } = changed := by
  rw [register, Traced.outcome_bind] at registered
  cases extended : (engine.registry.register key item).outcome with
  | error fault =>
      rw [extended] at registered
      cases registered
  | ok registry =>
      rw [extended] at registered
      exact ⟨registry, rfl, Except.ok.inj registered⟩

private theorem registry_of_remove (removed : (engine.remove key).outcome = .ok changed) :
    ∃ registry, (engine.registry.remove key).outcome = .ok registry ∧
      { engine with registry } = changed := by
  rw [remove, Traced.outcome_bind] at removed
  cases reduced : (engine.registry.remove key).outcome with
  | error fault =>
      rw [reduced] at removed
      cases removed
  | ok registry =>
      rw [reduced] at removed
      exact ⟨registry, rfl, Except.ok.inj removed⟩

private theorem registry_of_addParser {offer : Modifier.Offer}
    (added : (engine.addParser offer).outcome = .ok changed) :
    changed.registry = engine.registry := by
  cases offer with
  | other value => cases added
  | parser parser =>
      cases added
      rfl

theorem registry_of_addParsers {offers : List Modifier.Offer}
    (added : (engine.addParsers offers).outcome = .ok changed) : changed.registry = engine.registry := by
  induction offers generalizing engine with
  | nil =>
      cases added
      rfl
  | cons offer others ih =>
      rw [addParsers, Traced.outcome_bind] at added
      cases extended : (engine.addParser offer).outcome with
      | error fault =>
          rw [extended] at added
          cases added
      | ok more =>
          rw [extended] at added
          exact (ih added).trans (registry_of_addParser extended)

end Engine

namespace Custody

variable (custody : Custody)

/-! ### Sources -/

private theorem keeps_dataSource (source : DataSource) :
    custody.Keeps source.entity fun later object => later.Open object := by
  cases source with
  | nothing => exact .pure (.nothing custody)
  | named name => exact custody.keeps_find name
  | new data => exact .bind (custody.keeps_settle data) fun later _ data _ => later.keeps_newData .host data

private theorem keeps_stackSource (source : StackSource) :
    custody.Keeps source.entity fun later object => later.Open object := by
  cases source with
  | nothing => exact .pure (.nothing custody)
  | named name => exact custody.keeps_find name
  | new wanted amount data =>
      refine .bind (custody.keeps_dataSource data) fun later _ carried isOpen => ?_
      refine .bind (later.keeps_settle wanted) fun last before material _ => ?_
      exact last.keeps_assemble .host material amount fun _ => before.isOpen isOpen

private theorem keeps_slot (source : StackSource) : custody.Keeps source.slot fun _ _ => True :=
  .bind (custody.keeps_stackSource source) fun _ _ _ _ => .get_bind (.pure trivial)

private theorem keeps_slots (sources : List StackSource) :
    custody.Keeps (sources.mapM StackSource.slot) fun _ _ => True := by
  induction sources generalizing custody with
  | nil => exact .pure trivial
  | cons source others ih =>
      rw [List.mapM_cons]
      exact .bind (custody.keeps_slot source) fun later _ _ _ => .bind_answer (ih later)

/-! ### Lookups -/

private theorem keeps_readModifiers (tokens : List Text) {object : Entity} (isOpen : custody.Open object) :
    custody.Keeps (readModifiers tokens object) fun _ _ => True :=
  .get_bind (.then_pure (custody.keeps_putDataSlot isOpen _) fun _ _ => trivial)

theorem open_of_identified {token : Text} {handle : Handle} {amount : Int}
    (identified : custody.session.engine.identify token = .ok (some (.item handle, amount))) :
    custody.Open (.matcher handle) := by
  cases (Engine.identify_eq_some_iff token _ amount).1 identified with
  | item parts bound => exact custody.open_of_bound bound
  | itemAmount parts bound number => exact custody.open_of_bound bound

private theorem keeps_named {base : Base}
    (isOpen : ∀ handle, base = .item handle → custody.Open (.matcher handle)) :
    custody.Keeps (named base) fun later object => later.Open object := by
  cases base with
  | material material => exact custody.keeps_newMatcher rfl
  | item handle => exact .pure (isOpen handle rfl)

private theorem keeps_unchanged (tests : List Test) (snapshot original : Entity) :
    custody.Keeps (modified.unchanged tests snapshot original) fun _ _ => True := by
  unfold modified.unchanged
  split
  · exact .get_bind ((custody.keeps_settle _).weaken fun _ _ _ _ => trivial)
  · exact .pure trivial

theorem keeps_modified {base : Entity} (isOpen : custody.Open base) (modifiers : List Text) :
    custody.Keeps (modified base modifiers) fun later found? =>
      ∀ found, found? = some found → later.Open found := by
  have same : ∀ later : Custody, later.Open base → ∀ found, some base = some found → later.Open found := by
    rintro later isOpen found ⟨⟩
    exact isOpen
  refine .get_bind ?_
  split
  · exact .pure (same custody isOpen)
  · refine .bind (custody.keeps_representative base) fun custody before shown shownOpen => ?_
    have isOpen := before.isOpen isOpen
    split
    · rename_i cell
      refine .bind (custody.keeps_readMeta cell) fun custody before original _ => ?_
      have isOpen := before.isOpen isOpen
      have shownOpen := before.isOpen shownOpen
      split
      · exact .pure (same custody isOpen)
      · refine .bind (custody.keeps_copy .host _) fun custody before snapshot snapshotOpen => ?_
        have isOpen := before.isOpen isOpen
        have shownOpen := before.isOpen shownOpen
        refine .bind (custody.keeps_readModifiers modifiers snapshotOpen) fun custody before read _ => ?_
        have isOpen := before.isOpen isOpen
        have shownOpen := before.isOpen shownOpen
        split
        · exact .get_bind (.then_pure (custody.keeps_record _) fun _ _ => nofun)
        · refine .bind (custody.keeps_record _) fun custody before _ _ => ?_
          have isOpen := before.isOpen isOpen
          have shownOpen := before.isOpen shownOpen
          refine .bind (custody.keeps_unchanged _ _ _) fun custody before unchanged _ => ?_
          have isOpen := before.isOpen isOpen
          have shownOpen := before.isOpen shownOpen
          split
          · exact .pure (same custody isOpen)
          · refine .bind (custody.keeps_writeMeta shownOpen _) fun custody _ _ _ => ?_
            rw [map_eq_pure_bind]
            refine .bind (custody.keeps_newModified base _ _) fun custody _ made madeOpen => .pure ?_
            rintro found ⟨⟩
            exact madeOpen
    · exact .failLacking _ _

theorem keeps_counted {base : Entity} (isOpen : custody.Open base) (amount : Int) :
    custody.Keeps (counted base amount) fun later found => later.Open found := by
  unfold counted
  split
  · exact .pure isOpen
  · exact .get_bind (custody.keeps_newCounted base amount _)

theorem open_nothingFound : custody.Open nothingFound :=
  .of_serial rfl custody.positive (Session.faithful_of_keyless (by rintro handle ⟨⟩; rfl))

private theorem keeps_lookupAlternative (alternative : Text) :
    custody.Keeps (lookupAlternative alternative) fun later found => later.Open found := by
  unfold lookupAlternative
  split
  · exact .pure custody.open_nothingFound
  · rename_i token others _
    split
    · exact .pure custody.open_nothingFound
    · refine .get_bind (.bind (custody.keeps_settle _) fun later before named? identified => ?_)
      split
      · exact .then_pure (later.keeps_record _) fun last _ => last.open_nothingFound
      · rename_i base named
        have isOpen : ∀ handle, base = .item handle → later.Open (.matcher handle) := by
          rintro handle rfl
          exact before.isOpen (custody.open_of_identified identified)
        refine .bind (later.keeps_settle _) fun later before counted _ => ?_
        have isOpen := fun handle isItem => before.isOpen (isOpen handle isItem)
        refine .bind (later.keeps_named isOpen) fun later _ base baseOpen => ?_
        refine .bind (later.keeps_modified baseOpen _) fun later _ found? foundOpen => ?_
        split
        · exact .pure later.open_nothingFound
        · exact later.keeps_counted (foundOpen _ rfl) _

private theorem keeps_lookupFirst (alternatives : List Text) :
    custody.Keeps (lookupFirst alternatives) fun later found => later.Open found := by
  induction alternatives generalizing custody with
  | nil => exact .pure custody.open_nothingFound
  | cons first others ih =>
      refine .bind (custody.keeps_lookupAlternative first) fun later _ found isOpen => ?_
      split
      · exact ih later
      · exact .pure isOpen

theorem keeps_lookup (spec : Text) :
    custody.Keeps (lookup spec) fun later found => later.Open found := by
  unfold lookup
  split
  · exact custody.keeps_lookupAlternative _
  · exact custody.keeps_lookupFirst _

/-! ### Matchers that a host builds -/

private theorem keeps_newCustom (key : Key) (definition : Definition) (given : Entity) :
    custody.Keeps (MatcherSource.newCustom key definition given) fun later object => later.Open object := by
  refine .bind (custody.keeps_copy .keeping given) fun custody _ exhibit kept => ?_
  obtain ⟨content, shows, settled, _⟩ := custody.shows_kept kept
  split
  · refine .get_bind ?_
    split
    · rename_i stack plain
      have isPlain : content = .ofStack stack := (shows.slot_eq_iff stack).1 plain
      refine .bind custody.keeps_freshSerial fun custody before serial ⟨unknown, handedOut⟩ => ?_
      have shows := before.shows_kept shows kept
      have kept := before.kept _ kept
      refine .bind (custody.keeps_trace _) fun custody before made ⟨created, sameKnown⟩ => ?_
      have shows := before.shows_kept shows kept
      have kept := before.kept _ kept
      obtain ⟨numbered, isItem⟩ := CustomItem.made_of_create created
      have unknown : custody.known ≤ made.serial := by rw [sameKnown, numbered]; exact unknown
      have handedOut : made.serial < custody.session.nextSerial := by
        rw [numbered]
        exact Nat.lt_of_lt_of_le handedOut before.serials
      refine .bind (custody.keeps_keepExhibit unknown handedOut kept) fun custody before _ keeps => ?_
      refine custody.keeps_made rfl (Nat.lt_of_lt_of_le handedOut before.serials) ?_
      rw [Stack.settle_of_settled (Content.settled_of_ofStack (isPlain ▸ settled))] at isItem
      have readable : content.Readable := by
        rw [isPlain]
        exact Content.readable_ofStack (isPlain ▸ settled) (isItem ▸ made.readable)
      rintro handle ⟨⟩ _
      refine ⟨_, content, keeps, before.shows_kept shows kept, readable, fun other isOther => ?_⟩
      show other = made.toMatcher.representative
      rw [made.representative_toMatcher, isItem]
      exact Content.ofStack_inj (isOther.symm.trans isPlain)
    · rename_i other
      refine .bind (custody.keeps_settle _) fun later before accepted _ => ?_
      split
      · refine later.keeps_newShowing (before.kept _ kept) (fun serial stack => ?_)
          fun last serial stack after keeps => ?_
        · cases definition <;> rfl
        · rintro handle ⟨⟩ _
          refine ⟨_, content, keeps, (before.trans after).shows_kept shows kept,
            shows.readable settled other, fun stack isPlain => ?_⟩
          exact absurd ((shows.slot_eq_iff stack).2 isPlain) (other stack)
      · exact (later.keeps_trace _).weaken fun _ _ _ given => nomatch given.1
  · exact .failLacking _ _

theorem keeps_matcherSource (source : MatcherSource) :
    custody.Keeps source.entity fun later object => later.Open object := by
  induction source generalizing custody with
  | named name => exact custody.keeps_find name
  | empty => exact custody.keeps_newMatcher rfl
  | material wanted =>
      exact .bind (custody.keeps_settle wanted) fun later _ _ _ => later.keeps_newMatcher rfl
  | custom key test item =>
      exact .bind (custody.keeps_stackSource item) fun later _ given _ => later.keeps_newCustom key _ given
  | composed key definition item ih =>
      refine .bind (ih custody) fun later _ defining _ => ?_
      exact .bind (later.keeps_stackSource item) fun last _ given _ => last.keeps_newCustom key _ given
  | wrapped key definition ih =>
      refine .bind (ih custody) fun later _ defining _ => ?_
      exact .bind (later.keeps_representative defining) fun last _ given _ =>
        last.keeps_newCustom key _ given
  | modified base test shown ih =>
      refine .bind (ih custody) fun later _ below _ => ?_
      exact .bind (later.keeps_stackSource shown) fun last _ given _ => last.keeps_newModified below _ given
  | counted base amount policy ih =>
      refine .bind (ih custody) fun later _ below _ => ?_
      exact .bind (later.keeps_settle policy) fun last _ policy _ => last.keeps_newCounted below amount policy
  | lookup spec => exact custody.keeps_lookup spec
  | registered key => exact custody.keeps_registered key

/-! ### Edits -/

private theorem keeps_edit {object : Entity} (isOpen : custody.Open object) (edit : Edit) :
    custody.Keeps (edit.apply object) fun _ _ => True := by
  cases edit with
  | amount number => exact custody.keeps_putAmount isOpen number
  | material named =>
      exact .bind (custody.keeps_settle named) fun later before material _ =>
        later.keeps_putMaterial (before.isOpen isOpen) material
  | replaceData source =>
      exact .bind (custody.keeps_dataSource source) fun later before carried carriedOpen =>
        later.keeps_putCarried (before.isOpen isOpen) carriedOpen
  | data change =>
      exact .get_bind (.bind (custody.keeps_settle _) fun later before slot _ =>
        later.keeps_putDataSlot (before.isOpen isOpen) slot)

private theorem keeps_edits {object : Entity} (isOpen : custody.Open object) (edits : List Edit) :
    custody.Keeps (edits.forM (Edit.apply object)) fun _ _ => True := by
  induction edits generalizing custody with
  | nil => exact .pure trivial
  | cons edit others ih =>
      exact .bind (custody.keeps_edit isOpen edit) fun later before _ _ => ih later (before.isOpen isOpen)

private theorem keeps_editTarget (throughStack : Bool) {target : Entity} (isOpen : custody.Open target) :
    custody.Keeps (editTarget throughStack target) fun later object => later.Open object := by
  unfold editTarget
  split
  · refine .get_bind ?_
    split
    · rename_i carried carries
      exact .pure (custody.open_of_carried? isOpen carries)
    · exact .failLacking _ _
  · exact .pure isOpen

/-! ### Answers -/

private theorem keeps_stackAnswer (object : Entity) : custody.Keeps (stackAnswer object) fun _ _ => True :=
  .get_bind (.bind_answer (custody.keeps_settle _))

private theorem keeps_dataAnswer (object : Entity) : custody.Keeps (dataAnswer object) fun _ _ => True := by
  refine .get_bind (.bind (custody.keeps_settle _) fun later _ data? _ => ?_)
  split
  · exact .pure trivial
  · exact .pure trivial

private theorem keeps_contents (object : Entity) : custody.Keeps (contents object) fun _ _ => True := by
  unfold contents
  split
  · exact custody.keeps_stackAnswer _
  · exact custody.keeps_dataAnswer _

private theorem keeps_describe (object : Entity) : custody.Keeps (describe object) fun _ _ => True := by
  unfold describe
  split
  · refine .bind (custody.keeps_representative _) fun later _ shown _ => ?_
    refine .get_bind (.bind (later.keeps_settle _) fun last _ item _ => ?_)
    exact .bind_answer (last.keeps_settle _)
  · exact .bind (.discard (custody.keeps_representative _)) fun _ _ _ _ => .fail _
  · exact .pure trivial
  · exact .failLacking _ _

private theorem keeps_display (object : Entity) : custody.Keeps (display object) fun _ _ => True := by
  unfold display
  split
  · exact custody.keeps_stackAnswer _
  · exact custody.keeps_dataAnswer _
  · exact custody.keeps_describe _

theorem keeps_keepMatcher (name? : Option Text) {object : Entity} (isOpen : custody.Open object) :
    custody.Keeps (keepMatcher name? object) fun _ _ => True :=
  .bind (custody.keeps_keep name? isOpen) fun later _ _ _ => later.keeps_describe object

private theorem keeps_keepStack (name? : Option Text) {object : Entity} (isOpen : custody.Open object) :
    custody.Keeps (keepStack name? object) fun _ _ => True :=
  .bind (custody.keeps_keep name? isOpen) fun later _ _ _ => later.keeps_stackAnswer object

private theorem keeps_keepData (name? : Option Text) {object : Entity} (isOpen : custody.Open object) :
    custody.Keeps (keepData name? object) fun _ _ => True :=
  .bind (custody.keeps_keep name? isOpen) fun later _ _ _ => later.keeps_dataAnswer object

private theorem keeps_judgement (object : Entity) : custody.Keeps (judgement object) fun _ _ => True := by
  unfold judgement
  split
  · exact .pure trivial
  · exact .pure trivial
  · exact .failLacking _ _

private theorem keeps_inspect (object : Entity) : custody.Keeps (inspect object) fun _ _ => True := by
  unfold inspect
  split
  · exact .pure trivial
  · exact .bind (custody.keeps_settle _) fun later _ _ _ => .bind_answer (later.keeps_settle _)
  · exact .failLacking _ _

/-! ### The engine -/

theorem keeps_putEngine {engine : Engine}
    (bound : ∀ entry ∈ engine.registry.entries, custody.Open (.matcher entry.2)) :
    custody.Keeps (putEngine engine) fun _ _ => True :=
  have before : custody.Before { custody.toLedger with session := { custody.session with engine } } := {}
  have change : custody.Change { custody.toLedger with session := { custody.session with engine } } :=
    { before
      known_le := custody.known_le
      bound := fun entry member => .inr (before.isOpen (bound entry member)) }
  .of_change change rfl fun _ _ => trivial

private theorem keeps_countAnswer : custody.Keeps countAnswer fun _ _ => True :=
  .get_bind (.pure trivial)

/-- A change of the engine that binds no key to an unknown object. -/
theorem keeps_changeEngine (change : Engine → Traced Engine) {answer : Action Answer}
    (bound : ∀ engine, (change custody.session.engine).outcome = .ok engine →
      ∀ entry ∈ engine.registry.entries, custody.Open (.matcher entry.2))
    (answered : ∀ later : Custody, later.Keeps answer fun _ _ => True) :
    custody.Keeps (do
      putEngine (← trace (change (← get).engine))
      answer) fun _ _ => True := by
  refine .get_bind (.bind (custody.keeps_trace _) fun later before engine ⟨changed, _⟩ => ?_)
  refine .bind (later.keeps_putEngine fun entry member => ?_) fun last _ _ _ => answered last
  exact before.isOpen (bound engine changed entry member)

private theorem keeps_bind (key : Key) {item : Handle} (isOpen : custody.Open (.matcher item)) :
    custody.Keeps (Action.bind key item) fun _ _ => True := by
  refine custody.keeps_changeEngine (Engine.register · key item)
    (fun engine registered entry member => ?_) fun later => later.keeps_countAnswer
  obtain ⟨registry, extended, rfl⟩ := Engine.registry_of_register registered
  rcases Registry.mem_of_register extended member with old | rfl
  · exact custody.bound entry old
  · exact isOpen

private theorem keeps_remove (key : Key) : custody.Keeps (perform (.remove key)) fun _ _ => True := by
  refine custody.keeps_changeEngine (Engine.remove · key) (fun engine removed entry member => ?_)
    fun later => later.keeps_countAnswer
  obtain ⟨registry, reduced, rfl⟩ := Engine.registry_of_remove removed
  exact custody.bound entry (Registry.mem_of_remove reduced member)

private theorem keeps_addParser (offer : Modifier.Offer) :
    custody.Keeps (perform (.addParser offer)) fun _ _ => True := by
  refine custody.keeps_changeEngine (Engine.addParser · offer) (fun engine added entry member => ?_)
    fun later => .get_bind (.pure trivial)
  rw [Engine.registry_of_addParser added] at member
  exact custody.bound entry member

private theorem keeps_addDefaultParsers : custody.Keeps (perform .addDefaultParsers) fun _ _ => True := by
  refine custody.keeps_changeEngine (Engine.addParsers · Engine.defaultOffers)
    (fun engine added entry member => ?_) fun later => .get_bind (.pure trivial)
  rw [Engine.registry_of_addParsers added] at member
  exact custody.bound entry member

private theorem keeps_register (key : Key) {object : Entity} (isOpen : custody.Open object) :
    custody.Keeps (register key object) fun _ _ => True := by
  unfold register
  split
  · exact custody.keeps_bind key isOpen
  · exact .fail _
  · exact .failLacking _ _

private theorem keeps_ownKey (item : Handle) : custody.Keeps (ownKey item) fun _ _ => True := by
  unfold ownKey
  split
  · exact .pure trivial
  · exact .failLacking _ _

private theorem keeps_registerOwn {object : Entity} (isOpen : custody.Open object) :
    custody.Keeps (registerOwn object) fun _ _ => True := by
  unfold registerOwn
  split
  · exact .bind (custody.keeps_ownKey _) fun later before key _ => later.keeps_bind key (before.isOpen isOpen)
  · exact .failLacking _ _

/-! ### Commands -/

private theorem keeps_parse (tokens : List Text) (data : DataSource) (slots : List StackSource) :
    custody.Keeps (parse tokens data slots) fun _ _ => True := by
  refine .bind (custody.keeps_dataSource data) fun custody _ object isOpen => ?_
  refine .bind (custody.keeps_readModifiers tokens isOpen) fun custody _ traced _ => ?_
  refine .bind (custody.keeps_trace _) fun custody _ tests _ => ?_
  refine .get_bind (.bind (custody.keeps_settle _) fun custody _ shown? _ => ?_)
  exact .bind (custody.keeps_slots slots) fun later _ held _ => .bind_answer (later.keeps_settle _)

theorem keeps_perform (command : Command) : custody.Keeps (perform command) fun _ _ => True := by
  cases command with
  | make source name? =>
      exact .bind (custody.keeps_matcherSource source)
        fun later _ _ isOpen => later.keeps_keepMatcher name? isOpen
  | lookup spec name? =>
      exact .bind (custody.keeps_lookup spec) fun later _ _ isOpen => later.keeps_keepMatcher name? isOpen
  | get key name? =>
      exact .bind (custody.keeps_registered key) fun later _ _ isOpen => later.keeps_keepMatcher name? isOpen
  | register key source =>
      exact .bind (custody.keeps_matcherSource source) fun later _ _ isOpen => later.keeps_register key isOpen
  | registerOwn source =>
      exact .bind (custody.keeps_matcherSource source) fun later _ _ isOpen => later.keeps_registerOwn isOpen
  | remove key => exact custody.keeps_remove key
  | clear =>
      let engine := { custody.session.engine with registry := .empty }
      have cleared : custody.Keeps (putEngine engine) _ := custody.keeps_putEngine nofun
      exact .bind cleared fun later _ _ _ => later.keeps_countAnswer
  | count => exact custody.keeps_countAnswer
  | items => exact .get_bind (.pure trivial)
  | keys => exact .get_bind (.pure trivial)
  | isCustom slot =>
      refine .bind (custody.keeps_slot slot) fun later _ held _ => ?_
      exact .get_bind (.bind_answer (later.keeps_settle _))
  | findCustom slot name? =>
      refine .bind (custody.keeps_slot slot) fun custody _ held _ => ?_
      refine .get_bind (.bind (custody.keeps_settle _) fun later before found? found => ?_)
      split
      · exact .bind_answer (later.keeps_keep name? (.nothing later))
      · obtain ⟨_, key, _, _, bound, _⟩ := (Registry.find?_eq_some_iff _ held _).1 found
        refine .bind (later.keeps_keep name? (before.isOpen (custody.open_of_bound bound)))
          fun last _ _ _ => ?_
        exact .bind_answer (last.keeps_ownKey _)
  | accepts source slot =>
      refine .bind (custody.keeps_matcherSource source) fun custody _ object _ => ?_
      refine .bind (custody.keeps_judgement object) fun custody _ judge _ => ?_
      refine .bind (custody.keeps_slot slot) fun custody _ held _ => ?_
      exact .bind_answer (custody.keeps_settle _)
  | representative source name? =>
      refine .bind (custody.keeps_matcherSource source) fun custody _ object _ => ?_
      exact .bind (custody.keeps_representative object)
        fun later _ _ isOpen => later.keeps_keepStack name? isOpen
  | inspect source =>
      exact .bind (custody.keeps_matcherSource source) fun later _ object _ => later.keeps_inspect object
  | same first second =>
      refine .bind (custody.keeps_matcherSource first) fun later _ one _ => ?_
      exact .bind_answer (later.keeps_matcherSource second)
  | stack source name? =>
      exact .bind (custody.keeps_stackSource source)
        fun later _ _ isOpen => later.keeps_keepStack name? isOpen
  | plainStack named amount name? =>
      refine .bind (custody.keeps_settle named) fun custody _ material _ => ?_
      exact .bind (custody.keeps_newStack _) fun later _ _ isOpen => later.keeps_keepStack name? isOpen
  | data source name? =>
      exact .bind (custody.keeps_dataSource source) fun later _ _ isOpen => later.keeps_keepData name? isOpen
  | copy target name? =>
      refine .bind (custody.keeps_find target) fun custody _ object _ => ?_
      refine .bind (custody.keeps_copy .host object) fun custody _ copied isOpen => ?_
      exact .bind (custody.keeps_keep name? isOpen) fun later _ _ _ => later.keeps_contents copied
  | readData target name? =>
      refine .bind (custody.keeps_find target) fun custody _ object _ => ?_
      split
      · exact .bind (custody.keeps_readMeta _) fun later _ _ isOpen => later.keeps_keepData name? isOpen
      · exact .failLacking _ _
  | writeData target data =>
      refine .bind (custody.keeps_find target) fun custody _ object isOpen => ?_
      split
      · refine .bind (custody.keeps_dataSource data) fun custody before given _ => ?_
        exact .bind (custody.keeps_writeMeta (before.isOpen isOpen) given) fun later _ _ _ =>
          later.keeps_stackAnswer _
      · exact .failLacking _ _
  | edit target throughStack edits =>
      refine .bind (custody.keeps_find target) fun custody _ object isOpen => ?_
      refine .bind (custody.keeps_editTarget throughStack isOpen) fun custody _ edited isOpen => ?_
      exact .bind (custody.keeps_edits isOpen edits) fun later _ _ _ => later.keeps_contents object
  | showEntity target =>
      exact .bind (custody.keeps_find target) fun later _ object _ => later.keeps_display object
  | equal first second =>
      refine .bind (custody.keeps_find first) fun custody _ one _ => ?_
      refine .bind (custody.keeps_find second) fun custody _ other _ => ?_
      exact .get_bind (.bind_answer (custody.keeps_settle _))
  | addParser offer => exact custody.keeps_addParser offer
  | addDefaultParsers => exact custody.keeps_addDefaultParsers
  | parserNames => exact .get_bind (.pure trivial)
  | clearParsers =>
      let engine := { custody.session.engine with parsers := [] }
      have cleared : custody.Keeps (putEngine engine) _ := custody.keeps_putEngine custody.bound
      exact .bind cleared fun _ _ _ _ => .get_bind (.pure trivial)
  | parse tokens data slots => exact custody.keeps_parse tokens data slots
  | recorded => exact .get_bind (.pure trivial)
  | resolve name =>
      refine .get_bind ?_
      split
      · exact .pure trivial
      · exact .pure trivial
  | engine => exact .get_bind (.pure trivial)

end Custody

end ItemSpec

import ItemSpec.Proofs.Session.Keeping
set_option autoImplicit false

/-! What leaves the engine alone. Some commands bind or unbind keys and some add or drop parsers; the engine
is the same after all others as before, whether they succeed or not, lookups included. -/

namespace ItemSpec

def Command.changesEngine : Command → Bool
  | .register .. => true
  | .registerOwn _ => true
  | .remove _ => true
  | .clear => true
  | .addParser _ => true
  | .addDefaultParsers => true
  | .clearParsers => true
  | _ => false

namespace Action

/-- Whatever comes of an action, the engine is as it was. -/
def LeavesEngine {Result : Type} (action : Action Result) : Prop :=
  ∀ session, (action.on session).2.engine = session.engine

namespace LeavesEngine

variable {Result Later : Type}

/-! ### Actions put together -/

private theorem pure (result : Result) : LeavesEngine (pure result) :=
  fun _ => rfl

private theorem fail (failure : Failure) : LeavesEngine (Action.fail failure : Action Result) :=
  fun _ => rfl

private theorem failLacking (object : Entity) (part : String) :
    LeavesEngine (Action.failLacking object part : Action Result) :=
  fail _

private theorem modify {change : Session → Session}
    (same : ∀ session, (change session).engine = session.engine) :
    LeavesEngine (modify change : Action Unit) :=
  same

private theorem bind {first : Action Result} {next : Result → Action Later} (leaves : LeavesEngine first)
    (leavesNext : ∀ result, LeavesEngine (next result)) : LeavesEngine (first >>= next) := by
  intro session
  have sameThen := leaves session
  rw [on_bind]
  generalize first.on session = done at sameThen ⊢
  obtain ⟨outcome, after⟩ := done
  cases outcome with
  | error failure => exact sameThen
  | ok result => exact (leavesNext result after).trans sameThen

private theorem get_bind {next : Session → Action Later}
    (leavesNext : ∀ session, LeavesEngine (next session)) :
    LeavesEngine (get >>= next) :=
  fun session => leavesNext session session

private theorem bind_answer {first : Action Result} (leaves : LeavesEngine first)
    (answer : Result → Later) :
    LeavesEngine (first >>= fun result => Pure.pure (answer result)) :=
  leaves.bind fun _ => .pure _

private theorem map {action : Action Result} (leaves : LeavesEngine action) (change : Result → Later) :
    LeavesEngine (change <$> action) := by
  rw [map_eq_pure_bind]
  exact leaves.bind_answer change

/-! ### Events and objects -/

private theorem record (events : List Event) : LeavesEngine (record events) :=
  fun _ => rfl

private theorem trace (traced : Traced Result) : LeavesEngine (trace traced) := by
  refine .bind (.record _) fun _ => ?_
  split
  · exact .pure _
  · exact .fail _

private theorem settle (outcome : Except Fault Result) : LeavesEngine (settle outcome) :=
  .trace _

private theorem freshSerial : LeavesEngine freshSerial :=
  fun _ => rfl

private theorem newData (data : Meta) : LeavesEngine (newData data) :=
  fun _ => rfl

private theorem newCell (contents : StackCell) : LeavesEngine (newCell contents) :=
  fun _ => rfl

private theorem assemble (material : Material) (amount : Int) (carried : Entity) :
    LeavesEngine (assemble material amount carried) := by
  unfold Action.assemble
  split
  · exact .newCell _
  · split
    · exact .bind (.newData _) fun _ => .newCell _
    · exact .newCell _

private theorem newStack (stack : Stack) : LeavesEngine (newStack stack) := by
  unfold Action.newStack
  split
  · exact .newCell _
  · exact .bind (.newData _) fun _ => .newCell _

private theorem copyAsFar (depth : Nat) (object : Entity) : LeavesEngine (copyAsFar depth object) := by
  induction depth generalizing object with
  | zero =>
      unfold Action.copyAsFar
      split
      · exact .get_bind fun _ => .newData _
      · contradiction
      · exact .fail _
      · exact .failLacking _ _
  | succ depth ih =>
      unfold Action.copyAsFar
      split
      · exact .get_bind fun _ => .newData _
      · rename_i sameDepth
        cases sameDepth
        refine .get_bind fun _ => ?_
        dsimp only
        split
        · exact .bind (.pure _) fun _ => .assemble _ _ _
        · exact .bind (ih _) fun _ => .assemble _ _ _
      · contradiction
      · exact .failLacking _ _

private theorem copy (object : Entity) : LeavesEngine (copy object) :=
  .get_bind fun _ => .copyAsFar _ object

private theorem newMatcher (matcher : Matcher) : LeavesEngine (newMatcher matcher) :=
  .bind_answer .freshSerial _

private theorem keepExhibit (serial : Nat) (exhibit : Entity) : LeavesEngine (keepExhibit serial exhibit) :=
  fun _ => rfl

private theorem newShowing (exhibit : Entity) (make : Nat → Stack → Entity) :
    LeavesEngine (newShowing exhibit make) :=
  fun _ => rfl

private theorem newShowingAs (base : Entity) (make : Nat → Entity) :
    LeavesEngine (newShowingAs base make) := by
  refine .bind .freshSerial fun _ => .get_bind fun _ => ?_
  split
  · exact .pure _
  · exact .bind_answer (.keepExhibit _ _) _

private theorem newModified (base : Entity) (test : Test) (given : Entity) :
    LeavesEngine (newModified base test given) :=
  .bind (.copy given) fun _ => .get_bind fun _ => .newShowing _ _

private theorem newCounted (base : Entity) (amount : Int) (policy : StackPolicy) :
    LeavesEngine (newCounted base amount policy) :=
  .get_bind fun _ => .newShowingAs base _

/-! ### Changes in place -/

private theorem changeStack (cell : Nat) (change : StackCell → StackCell) :
    LeavesEngine (changeStack cell change) :=
  fun _ => rfl

private theorem changeExtras (object : Entity) (change : Extras → Extras) :
    LeavesEngine (changeExtras object change) :=
  fun _ => rfl

private theorem putDataSlot (object : Entity) (slot : DataSlot) :
    LeavesEngine (putDataSlot object slot) := by
  unfold Action.putDataSlot
  split
  · exact .modify fun _ => rfl
  · exact .changeExtras _ _
  · exact .pure _

private theorem putAmount (object : Entity) (amount : Int) : LeavesEngine (putAmount object amount) := by
  unfold Action.putAmount
  split
  · exact .changeStack _ _
  · exact .failLacking _ _
  · split
    · exact .fail _
    · exact .changeExtras _ _

private theorem putMaterial (object : Entity) (material : Material) :
    LeavesEngine (putMaterial object material) := by
  unfold Action.putMaterial
  split
  · exact .changeStack _ _
  · exact .failLacking _ _
  · split
    · exact .fail _
    · exact .changeExtras _ _

private theorem putCarried (object carried : Entity) : LeavesEngine (putCarried object carried) := by
  unfold Action.putCarried
  split
  · exact .changeStack _ _
  · exact .failLacking _ _
  · exact .changeExtras _ _

private theorem readMeta (cell : Nat) : LeavesEngine (readMeta cell) := by
  refine .get_bind fun _ => ?_
  split
  · exact .pure _
  · exact .copy _

private theorem writeMeta (cell : Nat) (given : Entity) : LeavesEngine (writeMeta cell given) := by
  refine .get_bind fun _ => ?_
  split
  · dsimp only
    split
    · exact .bind (.newData _) fun _ => .putCarried _ _
    · exact .bind (.copy _) fun _ => .putCarried _ _
  · exact .pure _

private theorem find (name : Text) : LeavesEngine (find name) := by
  refine .get_bind fun _ => ?_
  split
  · exact .pure _
  · exact .fail _

private theorem keep (name? : Option Text) (entity : Entity) : LeavesEngine (keep name? entity) := by
  unfold Action.keep
  split
  · exact .pure _
  · exact .modify fun _ => rfl

/-! ### Matchers and lookups -/

private theorem registered (key : Key) : LeavesEngine (registered key) := by
  refine .get_bind fun _ => ?_
  split
  · exact .pure _
  · exact .pure _

private theorem representative (object : Entity) : LeavesEngine (representative object) := by
  refine .get_bind fun _ => ?_
  split
  · refine .bind (.copy _) fun _ => ?_
    split
    · exact .pure _
    · exact .bind_answer (.putAmount _ _) _
  · split
    · exact .newStack _
    · exact .bind (.settle _) fun _ => .newStack _
    · exact .failLacking _ _

private theorem readModifiers (tokens : List Text) (object : Entity) :
    LeavesEngine (readModifiers tokens object) :=
  .get_bind fun _ => .bind_answer (.putDataSlot _ _) _

private theorem modified (base : Entity) (modifiers : List Text) :
    LeavesEngine (modified base modifiers) := by
  refine .get_bind fun _ => ?_
  split
  · exact .pure _
  · refine .bind (.representative base) fun shown => ?_
    split
    · refine .bind (.readMeta _) fun original => ?_
      split
      · exact .pure _
      · refine .bind (.copy _) fun snapshot => .bind (.readModifiers _ _) fun read => ?_
        split
        · exact .get_bind fun _ => .bind_answer (.record _) _
        · refine .bind (.record _) fun _ => .bind ?_ fun unchanged => ?_
          · unfold Action.modified.unchanged
            split
            · exact .get_bind fun _ => .settle _
            · exact .pure _
          · split
            · exact .pure _
            · exact .bind (.writeMeta _ _) fun _ => .map (.newModified _ _ _) _
    · exact .failLacking _ _

private theorem counted (base : Entity) (amount : Int) : LeavesEngine (counted base amount) := by
  unfold Action.counted
  split
  · exact .pure _
  · exact .get_bind fun _ => .newCounted _ _ _

private theorem named (base : Base) : LeavesEngine (named base) := by
  cases base with
  | material material => exact .newMatcher _
  | item handle => exact .pure _

private theorem lookupAlternative (alternative : Text) : LeavesEngine (lookupAlternative alternative) := by
  unfold Action.lookupAlternative
  split
  · exact .pure _
  · split
    · exact .pure _
    · refine .get_bind fun _ => .bind (.settle _) fun named? => ?_
      split
      · exact .bind_answer (.record _) _
      · refine .bind (.settle _) fun _ => .bind (.named _) fun base => .bind (.modified base _) fun found? => ?_
        split
        · exact .pure _
        · exact .counted _ _

private theorem lookupFirst (alternatives : List Text) : LeavesEngine (lookupFirst alternatives) := by
  induction alternatives with
  | nil => exact .pure _
  | cons first others ih =>
      refine .bind (.lookupAlternative first) fun found => ?_
      split
      · exact ih
      · exact .pure _

private theorem lookup (spec : Text) : LeavesEngine (lookup spec) := by
  unfold Action.lookup
  split
  · exact .lookupAlternative _
  · exact .lookupFirst _

/-! ### Sources -/

private theorem dataSource (source : DataSource) : LeavesEngine source.entity := by
  cases source with
  | nothing => exact .pure _
  | named name => exact .find name
  | new data => exact .bind (.settle data) fun _ => .newData _

private theorem stackSource (source : StackSource) : LeavesEngine source.entity := by
  cases source with
  | nothing => exact .pure _
  | named name => exact .find name
  | new wanted amount data => exact .bind (.dataSource data) fun _ => .bind (.settle wanted) fun _ => .assemble _ _ _

private theorem slot (source : StackSource) : LeavesEngine source.slot :=
  .bind (.stackSource source) fun _ => .get_bind fun _ => .pure _

private theorem newCustom (key : Key) (definition : Definition) (given : Entity) :
    LeavesEngine (MatcherSource.newCustom key definition given) := by
  refine .bind (.copy given) fun exhibit => ?_
  split
  · refine .get_bind fun _ => ?_
    split
    · exact .bind .freshSerial fun _ => .bind (.trace _) fun _ => .bind_answer (.keepExhibit _ _) _
    · refine .bind (.settle _) fun _ => ?_
      split
      · exact .newShowing _ _
      · exact .trace _
  · exact .failLacking _ _

private theorem matcherSource (source : MatcherSource) : LeavesEngine source.entity := by
  induction source with
  | named name => exact .find name
  | empty => exact .newMatcher _
  | material wanted => exact .bind (.settle wanted) fun _ => .newMatcher _
  | custom key test item => exact .bind (.stackSource item) fun _ => .newCustom _ _ _
  | composed key definition item ih => exact .bind ih fun _ => .bind (.stackSource item) fun _ => .newCustom _ _ _
  | wrapped key definition ih => exact .bind ih fun _ => .bind (.representative _) fun _ => .newCustom _ _ _
  | modified base test shown ih => exact .bind ih fun _ => .bind (.stackSource shown) fun _ => .newModified _ _ _
  | counted base amount policy ih => exact .bind ih fun _ => .bind (.settle policy) fun _ => .newCounted _ _ _
  | lookup spec => exact .lookup spec
  | registered key => exact .registered key

private theorem edit (object : Entity) (change : Edit) : LeavesEngine (change.apply object) := by
  cases change with
  | amount number => exact .putAmount _ _
  | material named => exact .bind (.settle named) fun _ => .putMaterial _ _
  | replaceData source => exact .bind (.dataSource source) fun _ => .putCarried _ _
  | data change => exact .get_bind fun _ => .bind (.settle _) fun _ => .putDataSlot _ _

/-! ### Answers -/

private theorem stackAnswer (object : Entity) : LeavesEngine (stackAnswer object) :=
  .get_bind fun _ => .bind_answer (.settle _) _

private theorem dataAnswer (object : Entity) : LeavesEngine (dataAnswer object) := by
  refine .get_bind fun _ => .bind (.settle _) fun data? => ?_
  split
  · exact .pure _
  · exact .pure _

private theorem contents (object : Entity) : LeavesEngine (contents object) := by
  unfold Action.contents
  split
  · exact .stackAnswer _
  · exact .dataAnswer _

private theorem describe (object : Entity) : LeavesEngine (describe object) := by
  unfold Action.describe
  split
  · exact .bind (.representative _) fun _ => .get_bind fun _ => .bind (.settle _) fun _ =>
      .bind_answer (.settle _) _
  · exact .bind (.map (.representative _) _) fun _ => .fail _
  · exact .pure _
  · exact .failLacking _ _

private theorem display (object : Entity) : LeavesEngine (display object) := by
  unfold Action.display
  split
  · exact .stackAnswer _
  · exact .dataAnswer _
  · exact .describe _

private theorem keepMatcher (name? : Option Text) (object : Entity) :
    LeavesEngine (keepMatcher name? object) :=
  .bind (.keep name? object) fun _ => .describe object

private theorem keepStack (name? : Option Text) (object : Entity) : LeavesEngine (keepStack name? object) :=
  .bind (.keep name? object) fun _ => .stackAnswer object

private theorem keepData (name? : Option Text) (object : Entity) : LeavesEngine (keepData name? object) :=
  .bind (.keep name? object) fun _ => .dataAnswer object

private theorem judgement (object : Entity) : LeavesEngine (judgement object) := by
  unfold Action.judgement
  split
  · exact .pure _
  · exact .pure _
  · exact .failLacking _ _

private theorem inspect (object : Entity) : LeavesEngine (inspect object) := by
  unfold Action.inspect
  split
  · exact .pure _
  · exact .bind (.settle _) fun _ => .bind_answer (.settle _) _
  · exact .failLacking _ _

private theorem ownKey (item : Handle) : LeavesEngine (ownKey item) := by
  unfold Action.ownKey
  split
  · exact .pure _
  · exact .failLacking _ _

private theorem editTarget (throughStack : Bool) (target : Entity) :
    LeavesEngine (editTarget throughStack target) := by
  unfold Action.editTarget
  split
  · refine .get_bind fun _ => ?_
    split
    · exact .pure _
    · exact .failLacking _ _
  · exact .pure _

private theorem forEach {Item : Type} {act : Item → Action Unit} (leaves : ∀ item, LeavesEngine (act item))
    (items : List Item) : LeavesEngine (items.forM act) := by
  induction items with
  | nil => exact .pure _
  | cons item others ih => exact .bind (leaves item) fun _ => ih

private theorem mapEach {Item : Type} {act : Item → Action Result}
    (leaves : ∀ item, LeavesEngine (act item))
    (items : List Item) : LeavesEngine (items.mapM act) := by
  induction items with
  | nil => exact .pure _
  | cons item others ih =>
      rw [List.mapM_cons]
      exact .bind (leaves item) fun _ => .bind_answer ih _

/-! ### Commands -/

private theorem perform {command : Command} (works : command.changesEngine = false) :
    LeavesEngine (perform command) := by
  cases command with
  | register key source => cases works
  | registerOwn source => cases works
  | remove key => cases works
  | clear => cases works
  | addParser offer => cases works
  | addDefaultParsers => cases works
  | clearParsers => cases works
  | make source name? => exact .bind (.matcherSource source) fun _ => .keepMatcher _ _
  | lookup spec name? => exact .bind (.lookup spec) fun _ => .keepMatcher _ _
  | get key name? => exact .bind (.registered key) fun _ => .keepMatcher _ _
  | count => exact .get_bind fun _ => .pure _
  | items => exact .get_bind fun _ => .pure _
  | keys => exact .get_bind fun _ => .pure _
  | isCustom slot => exact .bind (.slot slot) fun _ => .get_bind fun _ => .bind_answer (.settle _) _
  | findCustom slot name? =>
      refine .bind (.slot slot) fun _ => .get_bind fun _ => .bind (.settle _) fun found? => ?_
      split
      · exact .bind_answer (.keep _ _) _
      · exact .bind (.keep _ _) fun _ => .bind_answer (.ownKey _) _
  | accepts source slot =>
      exact .bind (.matcherSource source) fun _ => .bind (.judgement _) fun _ => .bind (.slot slot) fun _ =>
        .bind_answer (.settle _) _
  | representative source name? =>
      exact .bind (.matcherSource source) fun _ => .bind (.representative _) fun _ => .keepStack _ _
  | inspect source => exact .bind (.matcherSource source) fun _ => .inspect _
  | same first second => exact .bind (.matcherSource first) fun _ => .bind_answer (.matcherSource second) _
  | stack source name? => exact .bind (.stackSource source) fun _ => .keepStack _ _
  | plainStack named amount name? =>
      exact .bind (.settle named) fun _ => .bind (.newStack _) fun _ => .keepStack _ _
  | data source name? => exact .bind (.dataSource source) fun _ => .keepData _ _
  | copy target name? =>
      exact .bind (.find target) fun _ => .bind (.copy _) fun _ => .bind (.keep _ _) fun _ => .contents _
  | readData target name? =>
      refine .bind (.find target) fun object => ?_
      split
      · exact .bind (.readMeta _) fun _ => .keepData _ _
      · exact .failLacking _ _
  | writeData target data =>
      refine .bind (.find target) fun object => ?_
      split
      · exact .bind (.dataSource data) fun _ => .bind (.writeMeta _ _) fun _ => .stackAnswer _
      · exact .failLacking _ _
  | edit target throughStack edits =>
      exact .bind (.find target) fun _ => .bind (.editTarget _ _) fun edited =>
        .bind (.forEach (.edit edited) edits) fun _ => .contents _
  | showEntity target => exact .bind (.find target) fun _ => .display _
  | equal first second =>
      exact .bind (.find first) fun _ => .bind (.find second) fun _ => .get_bind fun _ =>
        .bind_answer (.settle _) _
  | parserNames => exact .get_bind fun _ => .pure _
  | parse tokens data slots =>
      exact .bind (.dataSource data) fun _ => .bind (.readModifiers tokens _) fun _ => .bind (.trace _) fun _ =>
        .get_bind fun _ => .bind (.settle _) fun _ => .bind (.mapEach .slot slots) fun _ =>
          .bind_answer (.settle _) _
  | recorded => exact .get_bind fun _ => .pure _
  | resolve name =>
      refine .get_bind fun _ => ?_
      split
      · exact .pure _
      · exact .pure _
  | engine => exact .get_bind fun _ => .pure _

end LeavesEngine

end Action

namespace Session

private theorem engine_step (session : Session) {command : Command}
    (works : command.changesEngine = false) :
    (session.step command).1.engine = session.engine :=
  Action.LeavesEngine.perform works session

theorem engine_run (session : Session) {commands : List Command}
    (work : ∀ command ∈ commands, command.changesEngine = false) :
    (session.run commands).engine = session.engine := by
  induction commands generalizing session with
  | nil => rfl
  | cons command others ih =>
      obtain ⟨works, othersWork⟩ := List.forall_mem_cons.1 work
      exact (ih (session.step command).1 othersWork).trans (session.engine_step works)

end Session

end ItemSpec

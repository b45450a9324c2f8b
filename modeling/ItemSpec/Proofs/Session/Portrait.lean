import ItemSpec.Proofs.Session.Making
set_option autoImplicit false

/-! What a matcher shows. A copy of a stack, or of metadata, is made of what the original is made of, cell
by cell, and it is new all the way down. A matcher is shown by a copy of what it keeps, or else by a stack
that is made for the occasion; either way by the same each time. -/

namespace ItemSpec

open ItemSpec.Action

namespace Session

variable {session after : Session}

structure Agrees (session after : Session) : Prop where
  dataCells : session.dataCells.length ≤ after.dataCells.length := by exact Nat.le_refl _
  stackCells : session.stackCells.length ≤ after.stackCells.length := by exact Nat.le_refl _
  dataAt : ∀ cell < session.dataCells.length, after.dataAt cell = session.dataAt cell := by
    exact fun _ _ => rfl
  cellAt : ∀ cell < session.stackCells.length, after.cellAt cell = session.cellAt cell := by
    exact fun _ _ => rfl

private theorem Shows.agrees {object : Entity} {content : Content} (shows : session.Shows object content)
    (agrees : session.Agrees after) : after.Shows object content := by
  induction shows with
  | nothing => exact .nothing
  | data inRange =>
      rw [← agrees.dataAt _ inRange]
      exact .data (Nat.lt_of_lt_of_le inRange agrees.dataCells)
  | stack inRange inside ih =>
      rw [← agrees.cellAt _ inRange] at ih ⊢
      exact .stack (Nat.lt_of_lt_of_le inRange agrees.stackCells) ih

private theorem agrees_newCell (contents : StackCell) :
    session.Agrees { session with stackCells := session.stackCells ++ [contents] } where
  stackCells := by simp
  cellAt cell inRange := by rw [cellAt_append, if_neg (Nat.ne_of_lt inRange)]

/-! ### New objects of a content -/

/-- The session after an object of this content was made of new cells, the innermost first. -/
inductive Makes (session : Session) : Content → Entity → Session → Prop where
  | data (data : Meta) :
      Makes session (.data data) (.data session.dataCells.length)
        { session with dataCells := session.dataCells ++ [data] }
  | bare (material : Material) (amount : Int) :
      Makes session (.stack material amount .nothing) (.stack session.stackCells.length)
        { session with stackCells := session.stackCells ++ [⟨material, amount, .nothing⟩] }
  | stack {inner : Content} {carried : Entity} {between : Session} (material : Material) (amount : Int)
      (inside : Makes session inner carried between) :
      Makes session (.stack material amount inner) (.stack between.stackCells.length)
        { between with stackCells := between.stackCells ++ [⟨material, amount, carried⟩] }

private theorem shows_newCell (contents : StackCell) {inner : Content}
    (inside : session.Shows contents.carried inner) :
    { session with stackCells := session.stackCells ++ [contents] : Session }.Shows
      (.stack session.stackCells.length) (.stack contents.material contents.amount inner) := by
  refine .of_cell ?_ ?_ (inside.agrees (agrees_newCell contents))
  · simp
  · rw [cellAt_append, if_pos rfl]

theorem Makes.shows {content : Content} {object : Entity} (makes : session.Makes content object after) :
    after.Shows object content := by
  induction makes with
  | data data =>
      have isNew : { session with dataCells := session.dataCells ++ [data] : Session }.dataAt
          session.dataCells.length = data := by
        simp [dataAt]
      have shows := @Shows.data { session with dataCells := session.dataCells ++ [data] }
        session.dataCells.length (by simp)
      rw [isNew] at shows
      exact shows
  | bare material amount => exact shows_newCell ⟨material, amount, .nothing⟩ .nothing
  | stack material amount inside ih => exact shows_newCell ⟨material, amount, _⟩ ih

theorem Makes.something {content : Content} {object : Entity} (makes : session.Makes content object after) :
    object ≠ .nothing := by
  cases makes <;> nofun

end Session

/-! ### Copies -/

open Session

variable {session : Session}

theorem newStack_on (stack : Stack) :
    ∃ object after, (newStack stack).on session = (.ok object, after) ∧
      session.Makes (.ofStack stack) object after := by
  obtain ⟨material, amount, meta?⟩ := stack
  cases meta? with
  | none => exact ⟨_, _, rfl, .bare material amount⟩
  | some data => exact ⟨_, _, rfl, .stack material amount (.data data)⟩

private theorem assemble_of_air (amount : Int) (carried : Entity) :
    assemble .air amount carried = newCell ⟨.air, amount, .nothing⟩ :=
  if_pos rfl

theorem assemble_of_solid {material : Material} (solid : material ≠ .air) (amount : Int)
    {carried : Entity} (something : carried ≠ .nothing) :
    assemble material amount carried = newCell ⟨material, amount, carried⟩ := by
  unfold assemble
  rw [if_neg solid]
  cases carried with
  | nothing => exact absurd rfl something
  | _ => rfl

theorem copyAsFar_data (depth cell : Nat) :
    (copyAsFar depth (.data cell)).on session = (newData (session.dataAt cell)).on session := by
  cases depth <;> rfl

theorem copyAsFar_stack (depth cell : Nat) {carried : Entity}
    (carries : (session.cellAt cell).carried = carried) (something : carried ≠ .nothing) :
    (copyAsFar (depth + 1) (.stack cell)).on session =
      (copyAsFar depth carried >>= fun copied =>
        assemble (session.cellAt cell).material (session.cellAt cell).amount copied).on session := by
  rw [copyAsFar, on_get_bind]
  generalize session.cellAt cell = contents at carries ⊢
  subst carries
  dsimp only
  split
  · rename_i bare
    exact absurd bare something
  · rfl

private theorem copyAsFar_bare (depth cell : Nat) (bare : (session.cellAt cell).carried = .nothing) :
    (copyAsFar (depth + 1) (.stack cell)).on session =
      (assemble (session.cellAt cell).material (session.cellAt cell).amount .nothing).on session := by
  rw [copyAsFar, on_get_bind]
  dsimp only
  rw [bare]
  rfl

/-- An object of settled content is copied, and the copy is of the same content. -/
theorem copyAsFar_on {object : Entity} {content : Content} (shows : session.Shows object content)
    (settled : content.Settled) (something : object ≠ .nothing) {depth : Nat}
    (enough : content.depth ≤ depth) :
    ∃ copied after, (copyAsFar depth object).on session = (.ok copied, after) ∧
      session.Makes content copied after := by
  induction shows generalizing depth with
  | nothing => exact absurd rfl something
  | data inRange =>
      exact ⟨_, _, copyAsFar_data depth _, .data _⟩
  | @stack cell inner inRange inside ih =>
      obtain ⟨settledHere, settledInside⟩ := settled
      cases depth with
      | zero => exact absurd enough (Nat.not_succ_le_zero _)
      | succ depth =>
          by_cases carries : (session.cellAt cell).carried = .nothing
          · have isBare : inner = .nothing := by
              rw [carries] at inside
              cases inside
              rfl
            have isAir := settledHere.2 isBare
            rw [isBare]
            refine ⟨_, _, ?_, .bare _ _⟩
            rw [copyAsFar_bare depth cell carries, isAir, assemble_of_air]
            rfl
          · obtain ⟨copied, between, ran, makes⟩ :=
              ih settledInside carries (Nat.le_of_succ_le_succ enough)
            have solid : (session.cellAt cell).material ≠ .air :=
              fun isAir => inside.something carries (settledHere.1 isAir)
            refine ⟨_, _, ?_, .stack _ _ makes⟩
            rw [copyAsFar_stack depth cell rfl carries, on_bind_of_ok ran,
              assemble_of_solid solid _ makes.something]
            rfl

/-! ### What is kept can be copied -/

namespace Custody

variable {custody : Custody}

private theorem copy_kept {object : Entity} (kept : custody.kept object) :
    ∃ content copied after, custody.session.Shows object content ∧
      (copy object).on custody.session = (.ok copied, after) ∧
      custody.session.Makes content copied after := by
  obtain ⟨content, shows, settled, shallow⟩ := custody.shows_kept kept
  have something : object ≠ .nothing := by
    rintro rfl
    exact custody.stored _ kept
  obtain ⟨copied, after, ran, makes⟩ := copyAsFar_on shows settled something shallow
  exact ⟨content, copied, after, shows, ran, makes⟩

end Custody

/-! ### What is shown -/

def Session.Portrays (session : Session) (object : Entity) (content : Content) : Prop :=
  ∃ shown after, (representative object).on session = (.ok shown, after) ∧ after.Shows shown content

theorem Session.Portrays.unique {object : Entity} {content other : Content}
    (portrays : session.Portrays object content) (portraysOther : session.Portrays object other) :
    content = other := by
  obtain ⟨shown, after, ran, shows⟩ := portrays
  obtain ⟨shownOther, afterOther, ranOther, showsOther⟩ := portraysOther
  obtain ⟨sameShown, rfl⟩ := Prod.mk.inj (ran.symm.trans ranOther)
  cases sameShown
  exact shows.unique showsOther

theorem changeStack_on (cell : Nat) (change : StackCell → StackCell) :
    (changeStack cell change).on session = (.ok (), { session with
      stackCells := session.stackCells.set cell (change (session.cellAt cell)) }) :=
  rfl

private theorem putAmount_stack_on {after : Session} {material : Material} {amount : Int} {inner : Content}
    {shown : Entity} (makes : session.Makes (.stack material amount inner) shown after) (other : Int) :
    ∃ last, (putAmount shown other).on after = (.ok (), last) ∧
      session.Makes (.stack material other inner) shown last := by
  have changed : ∀ (grown : Session) (contents : StackCell),
      (changeStack grown.stackCells.length fun contents => { contents with amount := other }).on
          { grown with stackCells := grown.stackCells ++ [contents] } =
        (.ok (), { grown with stackCells := grown.stackCells ++ [{ contents with amount := other }] }) := by
    intro grown contents
    have held := grown.cellAt_append contents grown.stackCells.length
    rw [if_pos rfl] at held
    rw [changeStack_on, held, List.set_append_right _ _ (Nat.le_refl _), Nat.sub_self]
    rfl
  cases makes with
  | bare => exact ⟨_, changed _ _, .bare material other⟩
  | stack _ _ inside => exact ⟨_, changed _ _, .stack material other inside⟩

private theorem putAmount_data_on {after : Session} {data : Meta} {shown : Entity}
    (makes : session.Makes (.data data) shown after) (other : Int) :
    ∃ last, (putAmount shown other).on after = (.ok (), last) ∧ last.Shows shown (.data data) := by
  have shows := makes.shows
  cases makes with
  | data => exact ⟨_, rfl, shows.agrees {}⟩

private theorem representative_of_copy {object exhibit copied : Entity} {after : Session}
    (keeps : session.exhibit? object = some exhibit)
    (ran : (copy exhibit).on session = (.ok copied, after)) :
    (representative object).on session =
      match object.ownAmount? with
      | none => (.ok copied, after)
      | some amount => (putAmount copied amount >>= fun _ => pure copied).on after := by
  simp only [representative, on_get_bind, keeps]
  rw [on_bind_of_ok ran]
  cases object.ownAmount? <;> rfl

def plainly : Entity → Option Stack
  | .matcher handle => some handle.matcher.representative
  | .hollow _ wrapper => wrapper.representative.toOption
  | _ => none

theorem representative_of_plain {object : Entity} {stack : Stack}
    (keepsNothing : session.exhibit? object = none) (shown : plainly object = some stack) :
    (representative object).on session = (newStack stack).on session := by
  simp only [representative, on_get_bind, keepsNothing]
  cases object with
  | matcher handle =>
      cases shown
      rfl
  | hollow serial wrapper =>
      cases told : wrapper.representative with
      | error fault =>
          rw [plainly, told] at shown
          cases shown
      | ok stack =>
          rw [plainly, told] at shown
          cases shown
          simp only [told]
          rw [on_bind_of_ok (settle_ok_on stack session)]
  | _ => cases shown

theorem representative_ne_ok {object : Entity} (keepsNothing : session.exhibit? object = none)
    (untold : plainly object = none) (shown : Entity) (after : Session) :
    (representative object).on session ≠ (.ok shown, after) := by
  intro ran
  simp only [representative, on_get_bind, keepsNothing] at ran
  cases object with
  | matcher handle => cases untold
  | hollow serial wrapper =>
      cases told : wrapper.representative with
      | error fault =>
          simp only [told] at ran
          rw [on_bind_of_error (settle_error_on fault session)] at ran
          cases ran
      | ok stack =>
          rw [plainly, told] at untold
          cases untold
  | _ => cases ran

theorem representative_of_none {object : Entity} (keepsNothing : session.exhibit? object = none)
    (untold : plainly object = none) (content : Content) : ¬session.Portrays object content :=
  fun ⟨shown, after, ran, _⟩ => representative_ne_ok keepsNothing untold shown after ran

namespace Custody

variable {custody : Custody} {object exhibit : Entity}

/-- What is shown for a matcher that keeps a stack is made anew, in the matcher's own amount. -/
theorem representative_of_stack (keeps : custody.session.exhibit? object = some exhibit)
    {material : Material} {amount : Int} {inner : Content}
    (shows : custody.session.Shows exhibit (.stack material amount inner)) :
    ∃ shown after, (representative object).on custody.session = (.ok shown, after) ∧
      custody.session.Makes (.stack material (object.ownAmount?.getD amount) inner) shown after := by
  obtain ⟨content, shown, after, showsHere, ran, makes⟩ := copy_kept (custody.kept_of_exhibit? keeps)
  cases shows.unique showsHere
  rw [representative_of_copy keeps ran]
  cases object.ownAmount? with
  | none => exact ⟨shown, after, rfl, makes⟩
  | some other =>
      obtain ⟨last, put, makesOther⟩ := putAmount_stack_on makes other
      exact ⟨shown, last, on_bind_of_ok put _, makesOther⟩

theorem portrays_of_exhibit (keeps : custody.session.exhibit? object = some exhibit) :
    ∃ content, custody.session.Shows exhibit content ∧
      custody.session.Portrays object (content.inAmount object.ownAmount?) := by
  obtain ⟨content, copied, after, shows, ran, makes⟩ := copy_kept (custody.kept_of_exhibit? keeps)
  refine ⟨content, shows, ?_⟩
  cases content with
  | stack material amount inner =>
      obtain ⟨shown, last, ranShown, makesShown⟩ := representative_of_stack keeps shows
      exact ⟨shown, last, ranShown, makesShown.shows⟩
  | data data =>
      unfold Session.Portrays
      rw [representative_of_copy keeps ran]
      cases object.ownAmount? with
      | none => exact ⟨copied, after, rfl, makes.shows⟩
      | some other =>
          obtain ⟨last, put, showsLast⟩ := putAmount_data_on makes other
          exact ⟨copied, last, on_bind_of_ok put _, showsLast⟩
  | nothing => cases makes

theorem portrays_of_plain {session : Session} (keepsNothing : session.exhibit? object = none)
    {stack : Stack} (shown : plainly object = some stack) : session.Portrays object (.ofStack stack) := by
  obtain ⟨made, after, ran, makes⟩ := @newStack_on session stack
  exact ⟨made, after, (representative_of_plain keepsNothing shown).trans ran, makes.shows⟩

end Custody

end ItemSpec

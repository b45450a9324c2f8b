import ItemSpec.Proofs.Session.Keeping
set_option autoImplicit false

/-! New objects and changes in place mind what is kept. A host can change open objects only, and what a
matcher is given to show is copied into keeping before the matcher is there. -/

namespace ItemSpec

open ItemSpec.Action

namespace Custody

variable (custody : Custody)

private theorem carriedOf_extras {object carried : Entity}
    (carries : (custody.session.extrasOf object).carried? = some carried) : custody.Open carried := by
  unfold Session.extrasOf at carries
  split at carries
  · rename_i entry found
    exact custody.extras entry (List.mem_of_find?_eq_some found) carried carries
  · cases carries

theorem open_of_carried? {object carried : Entity} (isOpen : custody.Open object)
    (carries : custody.session.carried? object = some carried) : custody.Open carried := by
  unfold Session.carried? at carries
  split at carries
  · cases carries
    exact custody.carried _ isOpen.unkept
  · exact custody.carriedOf_extras carries

/-! ### Copies -/

theorem keeps_assemble (place : Place) (material : Material) (amount : Int) {carried : Entity}
    (given : carried ≠ .nothing → custody.At place carried) :
    custody.Keeps (assemble material amount carried) fun later object => later.At place object := by
  unfold assemble
  split
  · rename_i isAir
    refine custody.keeps_newCell place ?_
    cases place with
    | host => exact Ledger.Open.nothing custody
    | keeping => exact ⟨iff_of_true isAir rfl, fun something => absurd rfl something⟩
  · rename_i solid
    split
    · refine .bind (custody.keeps_newData place .blank) fun later _ data placed => ?_
      refine later.keeps_newCell place ?_
      cases place with
      | host => exact placed
      | keeping =>
          have something : data ≠ .nothing := by
            rintro rfl
            exact later.stored _ placed
          exact ⟨iff_of_false solid something, fun _ => placed⟩
    · rename_i something
      have placed := given something
      refine custody.keeps_newCell place ?_
      cases place with
      | host => exact placed
      | keeping =>
          exact ⟨iff_of_false solid something, fun _ => placed⟩

/-- Whatever is copied, the copy is a new object of the place where it is wanted. -/
theorem keeps_copyAsFar (place : Place) (depth : Nat) (object : Entity) :
    custody.Keeps (copyAsFar depth object) fun later copied => later.At place copied := by
  induction depth generalizing custody object with
  | zero =>
      cases object with
      | data cell => exact custody.keeps_newData place _
      | stack cell => exact .fail _
      | matcher handle => exact .fail _
      | hollow serial wrapper => exact .fail _
      | nothing => exact .fail _
  | succ depth ih =>
      cases object with
      | data cell => exact custody.keeps_newData place _
      | stack cell =>
          refine .get_bind ?_
          dsimp only
          split
          · exact .pure_bind (custody.keeps_assemble place _ _ fun something => absurd rfl something)
          · exact .bind (ih custody _) fun later _ carried placed =>
              later.keeps_assemble place _ _ fun _ => placed
      | matcher handle => exact .fail _
      | hollow serial wrapper => exact .fail _
      | nothing => exact .fail _

theorem keeps_copy (place : Place) (object : Entity) :
    custody.Keeps (copy object) fun later copied => later.At place copied :=
  .get_bind (custody.keeps_copyAsFar place _ object)

theorem keeps_newStack (stack : Stack) :
    custody.Keeps (newStack stack) fun later object => later.Open object := by
  unfold newStack
  split
  · exact custody.keeps_newCell .host (Ledger.Open.nothing custody)
  · exact .bind (custody.keeps_newData .host _) fun later _ data isOpen =>
      later.keeps_newCell .host isOpen

/-! ### Matchers -/

theorem keeps_made {object : Entity} {serial : Nat} (numbered : object.serial? = some serial)
    (handedOut : serial < custody.session.nextSerial) (faithful : custody.session.Faithful object) :
    custody.Keeps (pure object) fun later made => later.Open made := by
  have known : serial < custody.learned.known := handedOut
  exact .pure_learned (.of_serial numbered known faithful)

theorem keeps_newMatcher {matcher : Matcher} (keyless : matcher.key? = none) :
    custody.Keeps (newMatcher matcher) fun later object => later.Open object := by
  refine .bind custody.keeps_freshSerial fun later _ serial given => ?_
  refine later.keeps_made rfl given.2 (Session.faithful_of_keyless ?_)
  rintro handle ⟨⟩
  exact keyless

theorem kept_of_exhibit? {object exhibit : Entity}
    (keeps : custody.session.exhibit? object = some exhibit) : custody.kept exhibit := by
  cases object with
  | matcher handle => exact custody.kept_of_lookup keeps
  | hollow serial wrapper => exact custody.kept_of_lookup keeps
  | _ => cases keeps

/-- A new matcher that keeps an exhibit is open, if it is true to the exhibit once that is kept for it. -/
theorem keeps_newShowing {exhibit : Entity} (kept : custody.kept exhibit)
    {make : Nat → Stack → Entity} (numbered : ∀ serial stack, (make serial stack).serial? = some serial)
    (faithful : ∀ (later : Custody) (serial : Nat) (stack : Stack), custody.Before later.toLedger →
      later.session.exhibits.lookup serial = some exhibit →
      later.session.Faithful (make serial stack)) :
    custody.Keeps (newShowing exhibit make) fun later object => later.Open object := by
  refine .bind custody.keeps_freshSerial fun later before serial ⟨unknown, handedOut⟩ => ?_
  refine .bind (later.keeps_keepExhibit unknown handedOut (before.kept _ kept)) fun last after _ keeps => ?_
  exact .get_bind (last.keeps_made (numbered _ _) (Nat.lt_of_lt_of_le handedOut after.serials)
    (faithful last serial _ (before.trans after) keeps))

private theorem keeps_newShowingAs (base : Entity) {make : Nat → Entity}
    (numbered : ∀ serial, (make serial).serial? = some serial)
    (keyless : ∀ serial handle, make serial = .matcher handle → handle.matcher.key? = none) :
    custody.Keeps (newShowingAs base make) fun later object => later.Open object := by
  refine .bind custody.keeps_freshSerial fun later _ serial ⟨unknown, handedOut⟩ => ?_
  refine .get_bind ?_
  dsimp only
  split
  · exact .pure_bind (later.keeps_made (numbered serial) handedOut
      (Session.faithful_of_keyless (keyless serial)))
  · rename_i exhibit shown
    refine .bind (later.keeps_keepExhibit unknown handedOut (later.kept_of_exhibit? shown))
      fun last after _ _ => ?_
    exact last.keeps_made (numbered serial) (Nat.lt_of_lt_of_le handedOut after.serials)
      (Session.faithful_of_keyless (keyless serial))

theorem keeps_newModified (base : Entity) (test : Test) (given : Entity) :
    custody.Keeps (newModified base test given) fun later object => later.Open object := by
  refine .bind (custody.keeps_copy .keeping given) fun later _ exhibit kept => ?_
  refine .get_bind (later.keeps_newShowing kept (fun serial stack => ?_) fun last serial stack _ _ => ?_)
  · split <;> rfl
  · refine Session.faithful_of_keyless fun handle isMatcher => ?_
    split at isMatcher
    · cases isMatcher
      rfl
    · cases isMatcher

theorem keeps_newCounted (base : Entity) (amount : Int) (policy : StackPolicy) :
    custody.Keeps (newCounted base amount policy) fun later object => later.Open object := by
  refine .get_bind (custody.keeps_newShowingAs base (fun serial => ?_) fun serial handle isMatcher => ?_)
  · split <;> rfl
  · split at isMatcher
    · cases isMatcher
      rfl
    · cases isMatcher

/-! ### Changes in place -/

private theorem keeps_putData {cell : Nat} (unkept : ¬custody.kept (.data cell)) (data : Meta) :
    custody.Keeps (putData cell data) fun _ _ => True := by
  let session := { custody.session with dataCells := custody.session.dataCells.set cell data }
  have sameData : ∀ other, custody.kept (.data other) →
      session.dataAt other = custody.session.dataAt other := by
    intro other kept
    have apart : cell ≠ other := by
      rintro rfl
      exact unkept kept
    simp only [session, Session.dataAt, List.getElem?_set_ne apart]
  have sameLength : custody.session.dataCells.length = session.dataCells.length :=
    List.length_set.symm
  have change : custody.Change { custody.toLedger with session } :=
    { before := { dataCells := Nat.le_of_eq sameLength, dataAt := sameData }
      known_le := custody.known_le }
  exact .of_change change rfl fun _ _ => trivial

private theorem keeps_changeStack {cell : Nat} (unkept : ¬custody.kept (.stack cell))
    {change : StackCell → StackCell}
    (carries : custody.Open (change (custody.session.cellAt cell)).carried) :
    custody.Keeps (changeStack cell change) fun _ _ => True := by
  let contents := change (custody.session.cellAt cell)
  let session := { custody.session with stackCells := custody.session.stackCells.set cell contents }
  have others : ∀ other, cell ≠ other → session.cellAt other = custody.session.cellAt other := by
    intro other apart
    simp only [session, Session.cellAt, List.getElem?_set_ne apart]
  have sameLength : custody.session.stackCells.length = session.stackCells.length :=
    List.length_set.symm
  have before : custody.Before { custody.toLedger with session } :=
    { stackCells := Nat.le_of_eq sameLength
      cellAt := by
        intro other kept
        refine others other ?_
        rintro rfl
        exact unkept kept }
  have changed : custody.Change { custody.toLedger with session } :=
    { before
      known_le := custody.known_le
      carried := by
        intro other _
        show (session.cellAt other).carried = _ ∨ Ledger.Open _ (session.cellAt other).carried
        by_cases apart : cell = other
        · subst apart
          by_cases inRange : cell < custody.session.stackCells.length
          · have changedCell : session.cellAt cell = contents := by
              simp only [session, Session.cellAt, List.getElem?_set_self inRange, Option.getD_some]
            rw [changedCell]
            exact .inr (before.isOpen carries)
          · have sameCells : session.stackCells = custody.session.stackCells :=
              List.set_eq_of_length_le (Nat.le_of_not_lt inRange)
            exact .inl (by simp only [Session.cellAt, sameCells])
        · rw [others other apart]
          exact .inl rfl }
  exact .of_change changed rfl fun _ _ => trivial

private theorem keeps_changeExtras (object : Entity) {change : Extras → Extras}
    (carries : ∀ carried, (change (custody.session.extrasOf object)).carried? = some carried →
      custody.Open carried) :
    custody.Keeps (changeExtras object change) fun _ _ => True := by
  let extras := (object, change (custody.session.extrasOf object)) :: custody.session.extras
  have before : custody.Before { custody.toLedger with session := { custody.session with extras } } := {}
  have changed : custody.Change { custody.toLedger with session := { custody.session with extras } } :=
    { before
      known_le := custody.known_le
      extras := by
        intro entry member
        rcases List.mem_cons.1 member with rfl | old
        · exact .inr fun carried isCarried => before.isOpen (carries carried isCarried)
        · exact .inl old }
  exact .of_change changed rfl fun _ _ => trivial

theorem keeps_putDataSlot {object : Entity} (isOpen : custody.Open object) (slot : DataSlot) :
    custody.Keeps (putDataSlot object slot) fun _ _ => True := by
  unfold putDataSlot
  split
  · exact custody.keeps_putData isOpen.unkept _
  · exact custody.keeps_changeExtras _ fun carried carries => custody.carriedOf_extras carries
  · exact .pure trivial

theorem keeps_putAmount {object : Entity} (isOpen : custody.Open object) (amount : Int) :
    custody.Keeps (putAmount object amount) fun _ _ => True := by
  unfold putAmount
  split
  · exact custody.keeps_changeStack isOpen.unkept (custody.carried _ isOpen.unkept)
  · exact .failLacking _ _
  · split
    · exact .fail _
    · exact custody.keeps_changeExtras _ fun carried carries => custody.carriedOf_extras carries

theorem keeps_putMaterial {object : Entity} (isOpen : custody.Open object) (material : Material) :
    custody.Keeps (putMaterial object material) fun _ _ => True := by
  unfold putMaterial
  split
  · exact custody.keeps_changeStack isOpen.unkept (custody.carried _ isOpen.unkept)
  · exact .failLacking _ _
  · split
    · exact .fail _
    · exact custody.keeps_changeExtras _ fun carried carries => custody.carriedOf_extras carries

theorem keeps_putCarried {object carried : Entity} (isOpen : custody.Open object)
    (carriedOpen : custody.Open carried) : custody.Keeps (putCarried object carried) fun _ _ => True := by
  unfold putCarried
  split
  · exact custody.keeps_changeStack isOpen.unkept carriedOpen
  · exact .failLacking _ _
  · refine custody.keeps_changeExtras _ fun other carries => ?_
    cases carries
    exact carriedOpen

/-! ### The metadata of a stack -/

theorem keeps_readMeta (cell : Nat) :
    custody.Keeps (readMeta cell) fun later object => later.Open object := by
  refine .get_bind ?_
  split
  · exact .pure (.nothing custody)
  · exact custody.keeps_copy .host _

theorem keeps_writeMeta {cell : Nat} (isOpen : custody.Open (.stack cell)) (given : Entity) :
    custody.Keeps (writeMeta cell given) fun _ _ => True := by
  refine .get_bind ?_
  split
  · have put : ∀ later : Custody, custody.Before later.toLedger → ∀ carried, later.Open carried →
        later.Keeps (putCarried (.stack cell) carried) fun _ _ => True :=
      fun later before carried carriedOpen =>
        later.keeps_putCarried (before.isOpen isOpen) carriedOpen
    dsimp only
    split
    · exact .bind (custody.keeps_newData .host _) put
    · exact .bind (custody.keeps_copy .host _) put
  · exact .pure trivial

/-! ### Names and what is shown -/

theorem open_of_name {name : Text} {object : Entity} (found : custody.session.find? name = some object) :
    custody.Open object := by
  obtain ⟨before, after, split, _⟩ := List.lookup_eq_some_iff.1 found
  exact custody.names (name, object) (split ▸ List.mem_append_right _ List.mem_cons_self)

theorem keeps_find (name : Text) : custody.Keeps (find name) fun later object => later.Open object := by
  refine .get_bind ?_
  split
  · rename_i object found
    exact .pure (custody.open_of_name found)
  · exact .fail _

theorem keeps_keep (name? : Option Text) {object : Entity} (isOpen : custody.Open object) :
    custody.Keeps (keep name? object) fun _ _ => True := by
  unfold keep
  split
  · exact .pure trivial
  · rename_i name
    let names := (name, object) :: custody.session.names
    have before : custody.Before { custody.toLedger with session := { custody.session with names } } := {}
    have change : custody.Change { custody.toLedger with session := { custody.session with names } } :=
      { before
        known_le := custody.known_le
        names := fun entry member => (List.mem_cons.1 member).elim
          (fun same => .inr (same ▸ before.isOpen isOpen)) .inl }
    exact .of_change change rfl fun _ _ => trivial

theorem open_of_bound {key : Key} {handle : Handle}
    (bound : custody.session.engine.registry.get? key = some handle) : custody.Open (.matcher handle) := by
  obtain ⟨before, after, split, _⟩ := List.lookup_eq_some_iff.1 bound
  exact custody.bound (key, handle) (split ▸ List.mem_append_right _ List.mem_cons_self)

theorem keeps_registered (key : Key) :
    custody.Keeps (registered key) fun later object => later.Open object := by
  refine .get_bind ?_
  split
  · rename_i handle bound
    exact .pure (custody.open_of_bound bound)
  · exact .pure (.nothing custody)

theorem keeps_representative (object : Entity) :
    custody.Keeps (representative object) fun later shown => later.Open shown := by
  refine .get_bind ?_
  split
  · refine .bind (custody.keeps_copy .host _) fun later _ shown isOpen => ?_
    dsimp only
    split
    · exact .pure_bind (.pure isOpen)
    · exact .then_pure (later.keeps_putAmount isOpen _) fun last before => before.isOpen isOpen
  · split
    · exact custody.keeps_newStack _
    · exact .bind (custody.keeps_settle _) fun later _ stack _ => later.keeps_newStack stack
    · exact .failLacking _ _

end Custody

end ItemSpec

import ItemSpec.Proofs.Engine.Genuine
import ItemSpec.Proofs.Registry.Contents
import ItemSpec.Proofs.Session.Isolation
set_option autoImplicit false

/-! Sessions as a host sets them up: keys are bound to custom items and stacks carry metadata. Each custom
item then shows the stack that it was made of. Whether a session is of this sort can be computed. -/

namespace ItemSpec

instance decideSettled (stack : Stack) : Decidable stack.Settled :=
  inferInstanceAs (Decidable (stack.material = .air ↔ stack.meta? = none))

/-- The custom item that a matcher with this serial number is, if it would pass the checks. -/
def CustomItem.ofMatcher? (serial : Nat) : Matcher → Option CustomItem
  | .custom number key test item =>
    if checks : number = serial ∧ item.Settled ∧ item.meta?.isSome ∧ test (.stack item) = .ok true then
      some ⟨number, key, .test test, item, checks.2.1, checks.2.2.1, checks.2.2.2⟩
    else none
  | .composed number key definition item =>
    if checks : number = serial ∧ item.Settled ∧ item.meta?.isSome ∧
        definition.accepts item = .ok true then
      some ⟨number, key, .matcher definition, item, checks.2.1, checks.2.2.1, checks.2.2.2⟩
    else none
  | _ => none

private theorem CustomItem.handle_of_ofMatcher? {handle : Handle} {item : CustomItem}
    (isItem : ofMatcher? handle.serial handle.matcher = some item) : handle = item.handle := by
  obtain ⟨serial, matcher⟩ := handle
  cases matcher with
  | custom number key test stack =>
      simp only [ofMatcher?, Option.dite_none_right_eq_some, Option.some.injEq] at isItem
      obtain ⟨⟨rfl, _⟩, rfl⟩ := isItem
      rfl
  | composed number key definition stack =>
      simp only [ofMatcher?, Option.dite_none_right_eq_some, Option.some.injEq] at isItem
      obtain ⟨⟨rfl, _⟩, rfl⟩ := isItem
      rfl
  | _ => cases isItem

/-- A registry passes the check only if its keys are bound to custom items. -/
theorem Registry.genuine_of_items {registry : Registry}
    (items : ∀ entry ∈ registry.entries,
      (CustomItem.ofMatcher? entry.2.serial entry.2.matcher).isSome = true) : registry.Genuine := by
  intro key handle bound
  obtain ⟨item, isItem⟩ :=
    Option.isSome_iff_exists.1 (items _ ((registry.get?_eq_some_iff key handle).1 bound))
  exact ⟨item, CustomItem.handle_of_ofMatcher? isItem⟩

def Entity.IsData : Entity → Prop
  | .nothing => True
  | .data _ => True
  | _ => False

instance decideIsData (object : Entity) : Decidable object.IsData :=
  match object with
  | .nothing => .isTrue trivial
  | .data _ => .isTrue trivial
  | .stack _ => .isFalse id
  | .matcher _ => .isFalse id
  | .hollow .. => .isFalse id

namespace Session

/-- Stacks carry metadata and no other objects. -/
def Plain (session : Session) : Prop :=
  ∀ contents ∈ session.stackCells, contents.carried.IsData

instance decidePlain (session : Session) : Decidable session.Plain :=
  inferInstanceAs (Decidable (∀ contents ∈ session.stackCells, contents.carried.IsData))

/-- Every key is bound to a custom item that shows its own stack. -/
def Genuine (session : Session) : Prop :=
  ∀ key handle, session.engine.registry.get? key = some handle →
    ∃ item : CustomItem, handle = item.handle ∧
      session.Portrays (.matcher handle) (.ofStack item.item)

private theorem Shows.ofStack_of_plain {session : Session} (plain : session.Plain) {cell : Nat}
    {content : Content}
    (shows : session.Shows (.stack cell) content) : ∃ stack, content = .ofStack stack := by
  cases shows with
  | stack inRange inside =>
      have isData : (session.cellAt cell).carried.IsData := by
        refine plain _ ?_
        rw [cellAt, List.getElem?_eq_getElem inRange]
        exact List.getElem_mem inRange
      generalize session.cellAt cell = contents at inside isData ⊢
      obtain ⟨material, amount, carried⟩ := contents
      cases inside with
      | nothing => exact ⟨⟨material, amount, none⟩, rfl⟩
      | data inRange => exact ⟨⟨material, amount, some _⟩, rfl⟩
      | stack _ _ => exact absurd isData id

end Session

private theorem CustomItem.ownAmount?_handle (item : CustomItem) :
    (Entity.matcher item.handle).ownAmount? = none := by
  obtain ⟨serial, key, definition, stack⟩ := item
  cases definition <;> rfl

private theorem CustomItem.key?_toMatcher (item : CustomItem) : item.toMatcher.key?.isSome := by
  obtain ⟨serial, key, definition, stack⟩ := item
  cases definition <;> rfl

namespace Custody

variable {custody : Custody}

theorem genuine_later {later : Custody} (genuine : custody.session.Genuine)
    (before : custody.Before later.toLedger) (sameEngine : later.session.engine = custody.session.engine) :
    later.session.Genuine := by
  intro key handle bound
  rw [sameEngine] at bound
  obtain ⟨item, isItem, portrays⟩ := genuine key handle bound
  exact ⟨item, isItem, (before.portrays_iff (custody.open_of_bound bound).made _).1 portrays⟩

theorem portrays_of_shows {object exhibit : Entity} (keeps : custody.session.exhibit? object = some exhibit)
    {content : Content} (shows : custody.session.Shows exhibit content) :
    custody.session.Portrays object (content.inAmount object.ownAmount?) := by
  obtain ⟨other, showsOther, portrays⟩ := portrays_of_exhibit keeps
  rw [shows.unique showsOther]
  exact portrays

theorem genuine_of_plain (customs : custody.session.engine.registry.Genuine)
    (plain : custody.session.Plain) : custody.session.Genuine := by
  intro key handle bound
  obtain ⟨item, rfl⟩ := customs key handle bound
  obtain ⟨cell, content, keeps, shows, _, own⟩ :=
    (custody.open_of_bound bound).faithful item.handle rfl item.key?_toMatcher
  obtain ⟨stack, rfl⟩ := shows.ofStack_of_plain plain
  have portrays := @portrays_of_shows custody (.matcher item.handle) _ keeps _ shows
  rw [item.ownAmount?_handle, own stack rfl] at portrays
  refine ⟨item, rfl, ?_⟩
  rw [← item.representative_toMatcher]
  exact portrays

end Custody

end ItemSpec

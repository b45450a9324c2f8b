import ItemSpec.Proofs.Session.Content
set_option autoImplicit false

/-! What matchers keep, apart from everything that a host can reach. Some cells of a session are kept: they
are the stacks that matchers show copies of, and what those stacks carry. No name stands for a kept cell,
and nothing that a name leads to carries one, so a host has no way to edit it. What a host does meet is true
to what is kept for it. -/

namespace ItemSpec

def Entity.serial? : Entity → Option Nat
  | .matcher handle => some handle.serial
  | .hollow serial _ => some serial
  | _ => none

namespace Session

def HasBelow (session : Session) (serials : Nat) : Entity → Prop
  | .data cell => cell < session.dataCells.length
  | .stack cell => cell < session.stackCells.length
  | .matcher handle => handle.serial < serials
  | .hollow serial _ => serial < serials
  | .nothing => True

def Made (session : Session) : Entity → Prop :=
  session.HasBelow session.nextSerial

/-- A custom item keeps a stack that carries something, and if that is a plain stack, it is what the item was
made of. -/
def Faithful (session : Session) (object : Entity) : Prop :=
  ∀ handle, object = .matcher handle → handle.matcher.key?.isSome →
    ∃ cell content, session.exhibits.lookup handle.serial = some (.stack cell) ∧
      session.Shows (.stack cell) content ∧ content.Readable ∧
      ∀ stack, content = .ofStack stack → stack = handle.matcher.representative

theorem faithful_of_keyless {session : Session} {object : Entity}
    (keyless : ∀ handle, object = .matcher handle → handle.matcher.key? = none) :
    session.Faithful object := by
  intro handle isMatcher hasKey
  rw [keyless handle isMatcher] at hasKey
  cases hasKey

end Session

/-- A session, and what is known of it beside its contents: which objects matchers keep for themselves, and
which serial numbers nobody has come across. -/
structure Ledger where
  session : Session
  kept : Entity → Prop
  /-- Every serial number from here on is unknown. -/
  known : Nat

namespace Ledger

variable (ledger : Ledger)

def Made : Entity → Prop :=
  ledger.session.HasBelow ledger.known

/-- An object that a host may work with. -/
structure Open (object : Entity) : Prop where
  made : ledger.Made object
  unkept : ¬ledger.kept object
  faithful : ledger.session.Faithful object

/-- A kept object is a cell. A kept stack is settled, and what it carries is kept too and was there before
the stack was. -/
def Stored : Entity → Prop
  | .data cell => cell < ledger.session.dataCells.length
  | .stack cell =>
    let contents := ledger.session.cellAt cell
    cell < ledger.session.stackCells.length ∧
      (contents.material = .air ↔ contents.carried = .nothing) ∧
      (contents.carried ≠ .nothing → ledger.kept contents.carried) ∧
      ∀ inner, contents.carried = .stack inner → inner < cell
  | _ => False

end Ledger

/-- A ledger that is in order: a host meets open objects only, and exhibits are kept. -/
structure Custody extends Ledger where
  positive : 0 < known
  known_le : known ≤ session.nextSerial
  names : ∀ entry ∈ session.names, toLedger.Open entry.2
  bound : ∀ entry ∈ session.engine.registry.entries, toLedger.Open (.matcher entry.2)
  carried : ∀ cell, ¬kept (.stack cell) → toLedger.Open (session.cellAt cell).carried
  extras : ∀ entry ∈ session.extras, ∀ carried, entry.2.carried? = some carried →
    toLedger.Open carried
  exhibits : ∀ entry ∈ session.exhibits,
    0 < entry.1 ∧ entry.1 < session.nextSerial ∧ kept entry.2
  stored : ∀ object, kept object → toLedger.Stored object

theorem Custody.kept_of_lookup (custody : Custody) {serial : Nat} {exhibit : Entity}
    (keeps : custody.session.exhibits.lookup serial = some exhibit) : custody.kept exhibit := by
  obtain ⟨before, after, split, _⟩ := List.lookup_eq_some_iff.1 keeps
  exact (custody.exhibits (serial, exhibit) (split ▸ List.mem_append_right _ List.mem_cons_self)).2.2

structure Ledger.Before (ledger later : Ledger) : Prop where
  dataCells : ledger.session.dataCells.length ≤ later.session.dataCells.length := by exact Nat.le_refl _
  stackCells : ledger.session.stackCells.length ≤ later.session.stackCells.length := by
    exact Nat.le_refl _
  serials : ledger.session.nextSerial ≤ later.session.nextSerial := by exact Nat.le_refl _
  known : ledger.known ≤ later.known := by exact Nat.le_refl _
  kept : ∀ object, ledger.kept object → later.kept object := by exact fun _ kept => kept
  /-- What comes to be kept was not there before. -/
  fresh : ∀ object, later.kept object → ledger.Made object → ledger.kept object := by
    exact fun _ kept _ => kept
  dataAt : ∀ cell, ledger.kept (.data cell) →
    later.session.dataAt cell = ledger.session.dataAt cell := by exact fun _ _ => rfl
  cellAt : ∀ cell, ledger.kept (.stack cell) →
    later.session.cellAt cell = ledger.session.cellAt cell := by exact fun _ _ => rfl
  exhibits : ∀ serial, serial < ledger.known →
    later.session.exhibits.lookup serial = ledger.session.exhibits.lookup serial := by
    exact fun _ _ => rfl

namespace Ledger

variable {ledger later : Ledger}

private theorem Before.made (before : ledger.Before later) {object : Entity} (made : ledger.Made object) :
    later.Made object := by
  cases object with
  | data cell => exact Nat.lt_of_lt_of_le made before.dataCells
  | stack cell => exact Nat.lt_of_lt_of_le made before.stackCells
  | matcher handle => exact Nat.lt_of_lt_of_le made before.known
  | hollow serial wrapper => exact Nat.lt_of_lt_of_le made before.known
  | nothing => trivial

theorem Before.refl (ledger : Ledger) : ledger.Before ledger where

theorem Before.trans {last : Ledger} (before : ledger.Before later) (after : later.Before last) :
    ledger.Before last where
  dataCells := Nat.le_trans before.dataCells after.dataCells
  stackCells := Nat.le_trans before.stackCells after.stackCells
  serials := Nat.le_trans before.serials after.serials
  known := Nat.le_trans before.known after.known
  kept object kept := after.kept object (before.kept object kept)
  fresh object kept made := before.fresh object (after.fresh object kept (before.made made)) made
  dataAt cell kept := (after.dataAt cell (before.kept _ kept)).trans (before.dataAt cell kept)
  cellAt cell kept := (after.cellAt cell (before.kept _ kept)).trans (before.cellAt cell kept)
  exhibits serial known := (after.exhibits serial (Nat.lt_of_lt_of_le known before.known)).trans
    (before.exhibits serial known)

private theorem Before.stored (before : ledger.Before later) {object : Entity} (kept : ledger.kept object)
    (stored : ledger.Stored object) : later.Stored object := by
  cases object with
  | data cell => exact Nat.lt_of_lt_of_le stored before.dataCells
  | stack cell =>
      obtain ⟨inRange, settled, inside, below⟩ := stored
      simp only [Stored, before.cellAt cell kept]
      exact ⟨Nat.lt_of_lt_of_le inRange before.stackCells, settled,
        fun something => before.kept _ (inside something), below⟩
  | matcher handle => exact stored
  | hollow serial wrapper => exact stored
  | nothing => exact stored

theorem Before.shows_kept {custody : Custody} (before : custody.Before later) {object : Entity}
    {content : Content} (shows : custody.session.Shows object content) (kept : custody.kept object) :
    later.session.Shows object content := by
  induction shows with
  | nothing => exact .nothing
  | data inRange =>
      rw [← before.dataAt _ kept]
      exact .data (Nat.lt_of_lt_of_le inRange before.dataCells)
  | @stack cell inner inRange inside ih =>
      refine .of_cell (Nat.lt_of_lt_of_le inRange before.stackCells) (before.cellAt _ kept) ?_
      by_cases bare : (custody.session.cellAt cell).carried = .nothing
      · rw [bare] at inside ⊢
        cases inside
        exact .nothing
      · exact ih ((custody.stored _ kept).2.2.1 bare)

theorem Before.isOpen {custody : Custody} (before : custody.Before later) {object : Entity}
    (isOpen : custody.Open object) : later.Open object where
  made := before.made isOpen.made
  unkept kept := isOpen.unkept (before.fresh object kept isOpen.made)
  faithful := by
    intro handle isMatcher hasKey
    obtain ⟨cell, content, keeps, shows, readable, own⟩ := isOpen.faithful handle isMatcher hasKey
    have known : handle.serial < custody.known := by
      have made := isOpen.made
      rw [isMatcher] at made
      exact made
    have kept := custody.kept_of_lookup keeps
    rw [← before.exhibits _ known] at keeps
    exact ⟨cell, content, keeps, before.shows_kept shows kept, readable, own⟩

theorem Open.of_serial {custody : Custody} {object : Entity} {serial : Nat}
    (numbered : object.serial? = some serial) (known : serial < custody.known)
    (faithful : custody.session.Faithful object) : custody.Open object := by
  cases object with
  | matcher handle =>
      cases numbered
      exact ⟨known, fun kept => custody.stored _ kept, faithful⟩
  | hollow number wrapper =>
      cases numbered
      exact ⟨known, fun kept => custody.stored _ kept, faithful⟩
  | _ => cases numbered

theorem Open.nothing (custody : Custody) : custody.Open .nothing :=
  ⟨trivial, fun kept => custody.stored _ kept, nofun⟩

end Ledger

namespace Custody

private theorem shows_kept_below (custody : Custody) {object : Entity} {bound : Nat}
    (kept : custody.kept object)
    (below : ∀ cell, object = .stack cell → cell < bound) :
    ∃ content, custody.session.Shows object content ∧ content.Settled ∧ content.depth ≤ bound := by
  induction bound generalizing object with
  | zero =>
      cases object with
      | data cell => exact ⟨_, .data (custody.stored _ kept), trivial, Nat.le_refl _⟩
      | stack cell => exact absurd (below cell rfl) (Nat.not_lt_zero cell)
      | _ => exact absurd (custody.stored _ kept) id
  | succ bound ih =>
      cases object with
      | data cell => exact ⟨_, .data (custody.stored _ kept), trivial, Nat.zero_le _⟩
      | stack cell =>
          obtain ⟨inRange, settledHere, keptInside, before⟩ := custody.stored _ kept
          by_cases bare : (custody.session.cellAt cell).carried = .nothing
          · have inside : custody.session.Shows (custody.session.cellAt cell).carried .nothing := by
              rw [bare]
              exact .nothing
            exact ⟨_, .stack inRange inside, ⟨settledHere.trans (iff_of_true bare rfl), trivial⟩,
              Nat.succ_le_succ (Nat.zero_le _)⟩
          · obtain ⟨content, shows, settled, shallow⟩ := ih (keptInside bare) fun inner isStack =>
              Nat.lt_of_lt_of_le (before inner isStack) (Nat.le_of_lt_succ (below cell rfl))
            have something := iff_of_false bare (shows.something bare)
            exact ⟨_, .stack inRange shows, ⟨settledHere.trans something, settled⟩,
              Nat.succ_le_succ shallow⟩
      | _ => exact absurd (custody.stored _ kept) id

theorem shows_kept (custody : Custody) {object : Entity} (kept : custody.kept object) :
    ∃ content, custody.session.Shows object content ∧ content.Settled ∧
      content.depth ≤ custody.session.stackCells.length := by
  refine custody.shows_kept_below kept ?_
  rintro cell rfl
  exact (custody.stored _ kept).1

/-- What it takes for a ledger that comes after one in order to be in order too: whatever is new in it is
as it should be. -/
structure Change (custody : Custody) (after : Ledger) : Prop where
  before : custody.Before after
  known_le : after.known ≤ after.session.nextSerial
  names : ∀ entry ∈ after.session.names,
    entry ∈ custody.session.names ∨ after.Open entry.2 := by exact fun _ same => .inl same
  bound : ∀ entry ∈ after.session.engine.registry.entries,
    entry ∈ custody.session.engine.registry.entries ∨ after.Open (.matcher entry.2) := by
    exact fun _ same => .inl same
  carried : ∀ cell, ¬after.kept (.stack cell) →
    (after.session.cellAt cell).carried = (custody.session.cellAt cell).carried ∨
      after.Open (after.session.cellAt cell).carried := by exact fun _ _ => .inl rfl
  extras : ∀ entry ∈ after.session.extras, entry ∈ custody.session.extras ∨
    ∀ carried, entry.2.carried? = some carried → after.Open carried := by
    exact fun _ same => .inl same
  exhibits : ∀ entry ∈ after.session.exhibits, entry ∈ custody.session.exhibits ∨
    (0 < entry.1 ∧ entry.1 < after.session.nextSerial ∧ after.kept entry.2) := by
    exact fun _ same => .inl same
  stored : ∀ object, after.kept object → custody.kept object ∨ after.Stored object := by
    exact fun _ kept => .inl kept

def Change.custody {custody : Custody} {after : Ledger} (change : custody.Change after) :
    Custody where
  toLedger := after
  positive := Nat.lt_of_lt_of_le custody.positive change.before.known
  known_le := change.known_le
  names entry member :=
    (change.names entry member).elim
      (fun same => change.before.isOpen (custody.names entry same)) id
  bound entry member :=
    (change.bound entry member).elim
      (fun same => change.before.isOpen (custody.bound entry same)) id
  carried cell unkept :=
    (change.carried cell unkept).elim
      (fun same => same ▸ change.before.isOpen
        (custody.carried cell fun kept => unkept (change.before.kept _ kept))) id
  extras entry member :=
    (change.extras entry member).elim
      (fun same carried carries => change.before.isOpen (custody.extras entry same carried carries)) id
  exhibits entry member :=
    (change.exhibits entry member).elim
      (fun same => (custody.exhibits entry same).imp_right fun ⟨handedOut, kept⟩ =>
        ⟨Nat.lt_of_lt_of_le handedOut change.before.serials, change.before.kept _ kept⟩) id
  stored object kept :=
    (change.stored object kept).elim
      (fun same => change.before.stored same (custody.stored object same)) id

end Custody

end ItemSpec

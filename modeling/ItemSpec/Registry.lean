import ItemSpec.Handle
set_option autoImplicit false

/-! The registry of custom items: an ordered map from keys. A key takes its place when it becomes
bound and keeps it while it stays bound, whatever items it is bound to; the order of places is the
order in which items are tried on a stack. The items are matchers, as objects; they are custom items
where the host keeps to what the registry is for, but any other matcher is taken as well. -/

namespace ItemSpec

structure Registry where
  entries : List (Key × Handle)
  distinct : (entries.map Prod.fst).Nodup

namespace Registry

/-- The entries with a key bound to an item, at its place or else at the end. -/
def place (key : Key) (item : Handle) : List (Key × Handle) → List (Key × Handle)
  | [] => [(key, item)]
  | entry :: others =>
    if entry.1 = key then (key, item) :: others else entry :: place key item others

private theorem keys_place (key : Key) (item : Handle) (entries : List (Key × Handle)) :
    (place key item entries).map Prod.fst =
      if key ∈ entries.map Prod.fst then entries.map Prod.fst
      else entries.map Prod.fst ++ [key] := by
  induction entries with
  | nil => rfl
  | cons entry others ih =>
    unfold place
    by_cases atEntry : entry.1 = key
    · simp [atEntry]
    · rw [if_neg atEntry, List.map_cons, ih]
      by_cases later : key ∈ others.map Prod.fst
      · simp [later]
      · simp [later, Ne.symm atEntry]

private theorem place_distinct (key : Key) (item : Handle) {entries : List (Key × Handle)}
    (distinct : (entries.map Prod.fst).Nodup) :
    ((place key item entries).map Prod.fst).Nodup := by
  rw [keys_place]
  split
  · exact distinct
  · rename_i absent
    refine List.nodup_append.2 ⟨distinct, List.pairwise_singleton _ _, ?_⟩
    intro bound member other atKey same
    rw [List.mem_singleton.1 atKey] at same
    exact absent (same ▸ member)

def empty : Registry := ⟨[], List.Pairwise.nil⟩

def get? (registry : Registry) (key : Key) : Option Handle :=
  registry.entries.lookup key

def keys (registry : Registry) : List Key :=
  registry.entries.map Prod.fst

def count (registry : Registry) : Nat :=
  registry.entries.length

def insert (registry : Registry) (key : Key) (item : Handle) : Registry :=
  ⟨place key item registry.entries, place_distinct key item registry.distinct⟩

def erase (registry : Registry) (key : Key) : Registry :=
  ⟨registry.entries.filter fun entry => entry.1 ≠ key,
    registry.distinct.sublist (List.filter_sublist.map _)⟩

/-- Whether a custom item of this key stands below the root of an item, at any depth. -/
def refersTo (item : Handle) (key : Key) : Bool :=
  item.matcher.descendants.any fun part => decide (part.key? = some key)

/-- Binds a key to an item. An item that refers to the key is refused. Binding a key to
the item that it is bound to changes nothing and is not reported. -/
def register (registry : Registry) (key : Key) (item : Handle) : Traced Registry :=
  if refersTo item key then do
    Traced.note (.selfReference key)
    Traced.fail (.selfReference key)
  else match registry.get? key with
    | none => do
      Traced.note (.registered key)
      pure (registry.insert key item)
    | some bound =>
      if bound.serial = item.serial then pure registry
      else do
        Traced.note (.overwritten key)
        Traced.note (.registered key)
        pure (registry.insert key item)

def remove (registry : Registry) (key : Key) : Traced Registry :=
  match registry.get? key with
  | none => pure registry
  | some _ => do
    Traced.note (.removed key)
    pure (registry.erase key)

/-- The items that are bound, each object once even if it has several keys. -/
def items (registry : Registry) : List Handle :=
  registry.entries.foldl
    (fun found entry =>
      if found.any fun item => item.serial == entry.2.serial then found else found ++ [entry.2]) []

/-- The first item in a list of entries that matches what stands in the place of a stack. -/
def firstMatch? (slot : Slot) : List (Key × Handle) → Except Fault (Option Handle)
  | [] => .ok none
  | entry :: others =>
    match entry.2.matcher.matchesSlot slot with
    | .ok true => .ok (some entry.2)
    | .ok false => firstMatch? slot others
    | .error fault => .error fault

def find? (registry : Registry) (slot : Slot) : Except Fault (Option Handle) :=
  firstMatch? slot registry.entries

def contains (registry : Registry) (slot : Slot) : Except Fault Bool :=
  (registry.find? slot).map Option.isSome

/-! ### The registry as an ordered map -/

private theorem lookup_bound (sought key : Key) (item : Handle)
    (entries : List (Key × Handle)) :
    List.lookup sought ((key, item) :: entries) =
      if sought = key then some item else entries.lookup sought := by
  by_cases same : sought = key
  · simp [same]
  · have apart : (sought == key) = false := by simpa using same
    rw [List.lookup_cons, apart, if_neg same]

theorem get?_insert (registry : Registry) (key sought : Key) (item : Handle) :
    (registry.insert key item).get? sought =
      if sought = key then some item else registry.get? sought := by
  show (place key item registry.entries).lookup sought = _
  unfold get?
  generalize registry.entries = entries
  induction entries with
  | nil => exact lookup_bound sought key item []
  | cons entry others ih =>
    obtain ⟨bound, held⟩ := entry
    unfold place
    by_cases atEntry : bound = key
    · simp only [atEntry, if_true, lookup_bound]
      split <;> rfl
    · simp only [if_neg atEntry, lookup_bound, ih]
      by_cases same : sought = bound
      · have notKey : sought ≠ key := fun atKey => atEntry (same.symm.trans atKey)
        simp [same, atEntry]
      · simp [same]

theorem get?_erase (registry : Registry) (key sought : Key) :
    (registry.erase key).get? sought = if sought = key then none else registry.get? sought := by
  show (registry.entries.filter _).lookup sought = _
  unfold get?
  generalize registry.entries = entries
  induction entries with
  | nil => simp
  | cons entry others ih =>
    obtain ⟨bound, held⟩ := entry
    by_cases atEntry : bound = key
    · rw [List.filter_cons_of_neg (by simpa using atEntry), ih, lookup_bound, atEntry]
      split <;> rfl
    · rw [List.filter_cons_of_pos (by simpa using atEntry), lookup_bound, ih, lookup_bound]
      by_cases same : sought = bound
      · simp [same, atEntry]
      · simp [same]

theorem keys_insert (registry : Registry) (key : Key) (item : Handle) :
    (registry.insert key item).keys =
      if key ∈ registry.keys then registry.keys else registry.keys ++ [key] :=
  keys_place key item registry.entries

theorem keys_erase (registry : Registry) (key : Key) :
    (registry.erase key).keys = registry.keys.filter fun bound => bound ≠ key := by
  simp only [keys, erase, List.filter_map]
  rfl

theorem length_keys (registry : Registry) : registry.keys.length = registry.count :=
  List.length_map _

end Registry

end ItemSpec

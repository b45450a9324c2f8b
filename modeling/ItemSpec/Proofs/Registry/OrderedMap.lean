import ItemSpec.Proofs.Registry.Contents
import ItemSpec.Proofs.Registry.History
set_option autoImplicit false

/-! The registry as an ordered map, over whole runs of changes. Each key is bound to the object that it was
last bound to, and the keys stand in the order in which they became bound; what is refused changes
nothing. -/

namespace ItemSpec.Registry

variable {objects : Nat → Matcher} {changes : List Change} {key : Key} {serial : Nat}

/-! ### What a change does -/

private theorem place_of_lookup {entries : List (Key × Handle)} {item : Handle}
    (bound : entries.lookup key = some item) : place key item entries = entries := by
  induction entries with
  | nil => cases bound
  | cons entry others ih =>
      obtain ⟨other, held⟩ := entry
      unfold place
      by_cases same : other = key
      · subst same
        rw [List.lookup_cons_self, Option.some.injEq] at bound
        rw [if_pos rfl, bound]
      · have apart : (key == other) = false := by simpa using Ne.symm same
        rw [List.lookup_cons, apart] at bound
        rw [if_neg same, ih bound]

private theorem insert_of_bound {registry : Registry} {item : Handle}
    (bound : registry.get? key = some item) :
    registry.insert key item = registry := by
  cases registry with
  | mk entries distinct =>
      unfold insert
      congr 1
      exact place_of_lookup bound

private theorem erase_of_unbound {registry : Registry} (unbound : registry.get? key = none) :
    registry.erase key = registry := by
  have absent : ∀ entry ∈ registry.entries, entry.1 ≠ key := by
    rintro ⟨other, item⟩ member rfl
    rw [(registry.get?_eq_some_iff other item).2 member] at unbound
    cases unbound
  cases registry with
  | mk entries distinct =>
      unfold erase
      congr 1
      exact List.filter_eq_self.2 fun entry member => decide_eq_true (absent entry member)

variable {registry : Registry}

theorem change_of_refused (refused : refersTo (object objects serial) key = true) :
    registry.change objects (.register key serial) =
      ⟨[.notice (.selfReference key)], .error (.selfReference key)⟩ := by
  simp only [change, register, refused, if_true]
  rfl

theorem change_of_taken (taken : refersTo (object objects serial) key = false) :
    registry.change objects (.register key serial) =
      match registry.get? key with
      | none => ⟨[.notice (.registered key)], .ok (registry.insert key (object objects serial))⟩
      | some bound =>
        if bound.serial = serial then ⟨[], .ok registry⟩
        else ⟨[.notice (.overwritten key), .notice (.registered key)],
          .ok (registry.insert key (object objects serial))⟩ := by
  simp only [change, register, taken, Bool.false_eq_true, if_false]
  cases registry.get? key with
  | none => rfl
  | some bound => rfl

private theorem change_remove :
    (registry.change objects (.remove key)).outcome = .ok (registry.erase key) := by
  simp only [change, remove]
  cases held : registry.get? key with
  | none => exact congrArg Except.ok (erase_of_unbound held).symm
  | some bound => rfl

theorem after_register_of_refused (refused : refersTo (object objects serial) key = true) :
    after objects registry (.register key serial) = registry := by
  simp only [after, change_of_refused refused]

/-- Registering binds, whatever was bound before. -/
theorem after_register (known : ∀ bound, registry.get? key = some bound → bound = object objects bound.serial)
    (taken : refersTo (object objects serial) key = false) :
    after objects registry (.register key serial) = registry.insert key (object objects serial) := by
  simp only [after, change_of_taken taken]
  cases held : registry.get? key with
  | none => rfl
  | some bound =>
      by_cases same : bound.serial = serial
      · have isObject : bound = object objects serial := by rw [known bound held, same]
        rw [isObject] at held
        simp only [same, if_true]
        exact (insert_of_bound held).symm
      · simp only [same, if_false]

theorem after_remove : after objects registry (.remove key) = registry.erase key := by
  simp only [after, change_remove]

/-! ### Whole runs -/

theorem ofChanges_concat (made : Change) :
    ofChanges objects (changes ++ [made]) = after objects (ofChanges objects changes) made := by
  rw [ofChanges, List.foldl_append]
  rfl

def Answers (objects : Nat → Matcher) (changes : List Change) (registry : Registry) : Prop :=
  ∀ key item, registry.get? key = some item ↔
    ∃ serial, item = object objects serial ∧ Stands objects changes key serial

/-- The keys stand in the order in which they became bound. -/
def InOrder (objects : Nat → Matcher) (changes : List Change) (keys : List Key) : Prop :=
  keys.Pairwise fun earlier later => ∀ moment next, BoundSince objects changes earlier moment →
    BoundSince objects changes later next → moment < next

theorem Answers.known (answers : Answers objects changes registry) :
    ∀ bound, registry.get? key = some bound → bound = object objects bound.serial := by
  intro bound held
  obtain ⟨serial, rfl, _⟩ := (answers key bound).1 held
  rfl

private theorem Answers.get?_eq_some_iff (answers : Answers objects changes registry) :
    registry.get? key = some (object objects serial) ↔ Stands objects changes key serial := by
  rw [answers]
  constructor
  · rintro ⟨other, same, stands⟩
    obtain rfl : serial = other := congrArg Handle.serial same
    exact stands
  · exact fun stands => ⟨serial, rfl, stands⟩

private theorem Answers.mem_keys_iff (answers : Answers objects changes registry) :
    key ∈ registry.keys ↔ ∃ serial, Stands objects changes key serial := by
  rw [registry.mem_keys_iff]
  constructor
  · rintro ⟨item, held⟩
    obtain ⟨serial, _, stands⟩ := (answers key item).1 held
    exact ⟨serial, stands⟩
  · rintro ⟨serial, stands⟩
    exact ⟨_, answers.get?_eq_some_iff.2 stands⟩

private theorem Answers.after (answers : Answers objects changes registry) (made : Change) :
    Answers objects (changes ++ [made]) (after objects registry made) := by
  intro key item
  simp only [stands_concat_iff]
  cases made with
  | register registered serial =>
      by_cases refused : refersTo (object objects serial) registered = true
      · have unbinding : ∀ other, ¬(Change.register registered serial).Binds objects key other := by
          rintro other binds
          obtain ⟨⟨rfl, rfl⟩, taken⟩ := (Change.binds_register_iff ..).1 binds
          rw [refused] at taken
          cases taken
        rw [after_register_of_refused refused, answers]
        simp [unbinding]
      · have taken : refersTo (object objects serial) registered = false := by simpa using refused
        rw [after_register answers.known taken, get?_insert]
        by_cases same : key = registered
        · subst same
          simp only [if_true, Option.some.injEq, Change.binds_register_iff, true_and]
          constructor
          · rintro rfl
            exact ⟨serial, rfl, .inl ⟨rfl, taken⟩⟩
          · rintro ⟨other, rfl, ⟨rfl, _⟩ | ⟨_, _, unregistered⟩⟩
            · rfl
            · exact absurd ⟨rfl, taken⟩ (unregistered serial)
        · simp [same, Ne.symm same, answers key item]
  | remove removed =>
      rw [after_remove, get?_erase]
      by_cases same : key = removed
      · simp [same]
      · simp [same, Ne.symm same, answers key item]
  | clear =>
      show Registry.empty.get? key = some item ↔ _
      simp [Registry.empty, get?]

/-- A key that is bound, and stays so, has been bound since the same moment. -/
theorem InOrder.of_sublist {made : Change} (answers : Answers objects changes registry) {kept : List Key}
    (ordered : InOrder objects changes registry.keys) (sublist : kept.Sublist registry.keys) :
    InOrder objects (changes ++ [made]) kept := by
  have since : ∀ key ∈ kept, ∀ moment, BoundSince objects (changes ++ [made]) key moment →
      BoundSince objects changes key moment := by
    intro key member moment sinceNow
    obtain ⟨serial, stands⟩ := answers.mem_keys_iff.1 (sublist.subset member)
    rcases boundSince_concat_iff.1 sinceNow with ⟨_, unbound, _⟩ | ⟨sinceThen, _⟩
    · exact absurd stands (unbound serial)
    · exact sinceThen
  refine List.Pairwise.imp_of_mem ?_ (ordered.sublist sublist)
  intro earlier later inEarlier inLater before moment next sinceEarlier sinceLater
  exact before moment next (since earlier inEarlier moment sinceEarlier) (since later inLater next sinceLater)

private theorem InOrder.after (answers : Answers objects changes registry)
    (ordered : InOrder objects changes registry.keys) (made : Change) :
    InOrder objects (changes ++ [made]) (after objects registry made).keys := by
  cases made with
  | register registered serial =>
      by_cases refused : refersTo (object objects serial) registered = true
      · rw [after_register_of_refused refused]
        exact ordered.of_sublist answers (List.Sublist.refl _)
      · have taken : refersTo (object objects serial) registered = false := by simpa using refused
        rw [after_register answers.known taken, keys_insert]
        split
        · exact ordered.of_sublist answers (List.Sublist.refl _)
        · rename_i unbound
          refine List.pairwise_append.2 ⟨ordered.of_sublist answers (List.Sublist.refl _),
            List.pairwise_singleton _ _, ?_⟩
          intro earlier member later isRegistered moment next sinceEarlier sinceLater
          rw [List.mem_singleton.1 isRegistered] at sinceLater
          have bound := answers.mem_keys_iff.1 member
          rw [answers.mem_keys_iff] at unbound
          rcases boundSince_concat_iff.1 sinceEarlier with ⟨_, never, _⟩ | ⟨sinceThen, _⟩
          · obtain ⟨serial, stands⟩ := bound
            exact absurd stands (never serial)
          rcases boundSince_concat_iff.1 sinceLater with ⟨rfl, _, _⟩ | ⟨sinceThenLater, _⟩
          · exact sinceThen.lt_length
          · exact absurd (stands_iff_boundSince.1.2 ⟨next, sinceThenLater⟩) unbound
  | remove removed =>
      rw [after_remove, keys_erase]
      exact ordered.of_sublist answers List.filter_sublist
  | clear => exact List.Pairwise.nil

theorem ofChanges_answers (objects : Nat → Matcher) (changes : List Change) :
    Answers objects changes (ofChanges objects changes) ∧
      InOrder objects changes (ofChanges objects changes).keys := by
  induction changes using List.reverseRecOn with
  | nil =>
      refine ⟨fun key item => ?_, List.Pairwise.nil⟩
      simp [ofChanges, Registry.empty, get?, not_stands_nil]
  | append_singleton changes made ih =>
      rw [ofChanges_concat]
      exact ⟨ih.1.after made, ih.2.after ih.1 made⟩

structure Follows (objects : Nat → Matcher) (changes : List Change) (registry : Registry) : Prop where
  get : ∀ key item, registry.get? key = some item ↔
    ∃ serial, item = object objects serial ∧ Stands objects changes key serial
  distinct : registry.keys.Nodup
  bound : ∀ key, key ∈ registry.keys ↔ ∃! moment, BoundSince objects changes key moment
  ordered : registry.keys.Pairwise fun earlier later => ∀ moment next,
    BoundSince objects changes earlier moment → BoundSince objects changes later next → moment < next
  counted : registry.count = registry.keys.length
  once : (registry.items.map Handle.serial).Nodup
  items : ∀ item, item ∈ registry.items ↔ ∃ key, registry.get? key = some item
  fewer : registry.items.length ≤ registry.count ∧ (registry.items.length < registry.count ↔
    ∃ key other item, key ≠ other ∧ registry.get? key = some item ∧ registry.get? other = some item)
  found : ∀ slot item, registry.find? slot = .ok (some item) ↔ registry.Holds slot item
  contains : ∀ slot, registry.contains slot = .ok true ↔ ∃ item, registry.Holds slot item
  missing : ∀ slot, (registry.find? slot = .ok none ↔
      ∀ key item, registry.get? key = some item → item.matcher.matchesSlot slot = .ok false) ∧
    (registry.contains slot = .ok false ↔ registry.find? slot = .ok none)

/-- What the next change does, by what was done before. -/
structure Responds (objects : Nat → Matcher) (changes : List Change) (registry : Registry) : Prop where
  refused : ∀ made fault, (registry.change objects made).outcome = .error fault ↔
    ∃ key serial, made = .register key serial ∧ refersTo (object objects serial) key = true ∧
      fault = .selfReference key
  registering : ∀ key serial, after objects registry (.register key serial) = registry ↔
    refersTo (object objects serial) key = true ∨ Stands objects changes key serial
  removing : ∀ key, after objects registry (.remove key) = registry ↔
    ∀ serial, ¬Stands objects changes key serial
  warned : ∀ key serial named,
    .notice (.overwritten named) ∈ (registry.change objects (.register key serial)).events ↔
      named = key ∧ refersTo (object objects serial) key = false ∧
        ∃ other, other ≠ serial ∧ Stands objects changes key other

private theorem Answers.bound_of_serial (answers : Answers objects changes registry) {item : Handle}
    (member : item.serial ∈ registry.items.map Handle.serial) (held : registry.get? key = some item) :
    item ∈ registry.items := by
  obtain ⟨other, inItems, sameSerial⟩ := List.mem_map.1 member
  obtain ⟨bound, heldOther⟩ := registry.bound_of_mem_items inItems
  rw [answers.known item held, ← sameSerial, ← answers.known other heldOther]
  exact inItems

private theorem Answers.follows (answers : Answers objects changes registry)
    (ordered : InOrder objects changes registry.keys) : Follows objects changes registry where
  get := answers
  distinct := registry.distinct
  ordered
  counted := registry.length_keys.symm
  once := registry.items_distinct
  bound := by
    intro key
    obtain ⟨boundIff, unique⟩ := @stands_iff_boundSince objects changes key
    rw [answers.mem_keys_iff, boundIff]
    exact ⟨fun ⟨moment, since⟩ =>
        ⟨moment, since, fun other sinceOther => unique other moment sinceOther since⟩,
      fun ⟨moment, since, _⟩ => ⟨moment, since⟩⟩
  items := by
    intro item
    refine ⟨registry.bound_of_mem_items, fun ⟨key, held⟩ => answers.bound_of_serial ?_ held⟩
    have entry := (registry.get?_eq_some_iff key item).1 held
    exact (registry.mem_items_serials_iff _).2 (List.mem_map.2 ⟨_, entry, rfl⟩)
  fewer := by
    refine ⟨registry.length_items_le_count, ?_⟩
    rw [registry.length_items_le_count.lt_iff_ne, Ne, registry.length_items_eq_count_iff]
    constructor
    · intro shared
      simp only [not_forall] at shared
      obtain ⟨key, other, item, bound, held, heldOther, sameSerial, apart⟩ := shared
      refine ⟨key, other, item, apart, held, ?_⟩
      rw [answers.known item held, sameSerial, ← answers.known bound heldOther]
      exact heldOther
    · intro ⟨key, other, item, apart, held, heldOther⟩ single
      exact apart (single key other item item held heldOther rfl)
  found := registry.find?_eq_some_iff
  contains := by
    intro slot
    simp only [← registry.find?_eq_some_iff]
    unfold contains
    cases registry.find? slot with
    | error fault => simp
    | ok item? => cases item? <;> simp
  missing := by
    intro slot
    refine ⟨registry.find?_eq_none_iff slot, ?_⟩
    unfold contains
    cases registry.find? slot with
    | error fault => simp
    | ok item? => cases item? <;> simp

theorem change_error_iff (objects : Nat → Matcher) (registry : Registry) (made : Change) (fault : Fault) :
    (registry.change objects made).outcome = .error fault ↔
      ∃ key serial, made = .register key serial ∧ refersTo (object objects serial) key = true ∧
        fault = .selfReference key := by
  cases made with
  | register key serial =>
      by_cases refused : refersTo (object objects serial) key = true
      · rw [change_of_refused refused]
        constructor
        · rintro ⟨⟩
          exact ⟨key, serial, rfl, refused, rfl⟩
        · rintro ⟨_, _, ⟨⟩, _, rfl⟩
          rfl
      · have taken : refersTo (object objects serial) key = false := by simpa using refused
        rw [change_of_taken taken]
        constructor
        · intro impossible
          split at impossible
          · cases impossible
          · split at impossible <;> cases impossible
        · rintro ⟨_, _, ⟨⟩, impossible, _⟩
          exact absurd impossible refused
  | remove key => simp [change_remove]
  | clear => simp [change]

private theorem Answers.after_register_eq_iff (answers : Answers objects changes registry) (key : Key)
    (serial : Nat) :
    Registry.after objects registry (.register key serial) = registry ↔
      refersTo (object objects serial) key = true ∨ Stands objects changes key serial := by
  by_cases refused : refersTo (object objects serial) key = true
  · simp [after_register_of_refused, refused]
  · have taken : refersTo (object objects serial) key = false := by simpa using refused
    rw [after_register answers.known taken, ← answers.get?_eq_some_iff]
    constructor
    · intro same
      refine .inr ?_
      rw [← same, get?_insert, if_pos rfl]
    · rintro (impossible | held)
      · exact absurd impossible refused
      · exact insert_of_bound held

private theorem Answers.after_remove_eq_iff (answers : Answers objects changes registry) (key : Key) :
    Registry.after objects registry (.remove key) = registry ↔
      ∀ serial, ¬Stands objects changes key serial := by
  rw [after_remove]
  constructor
  · intro same serial stands
    rw [← answers.get?_eq_some_iff, ← same, get?_erase, if_pos rfl] at stands
    cases stands
  · intro unbound
    refine erase_of_unbound (Option.eq_none_iff_forall_ne_some.2 fun item held => ?_)
    obtain ⟨serial, _, stands⟩ := (answers key item).1 held
    exact unbound serial stands

/-- A warning is given where another object is bound, and nowhere else. -/
theorem Answers.overwritten_iff (answers : Answers objects changes registry) (key : Key) (serial : Nat)
    (named : Key) :
    .notice (.overwritten named) ∈ (registry.change objects (.register key serial)).events ↔
      named = key ∧ refersTo (object objects serial) key = false ∧
        ∃ other, other ≠ serial ∧ Stands objects changes key other := by
  by_cases refused : refersTo (object objects serial) key = true
  · simp [change_of_refused refused, refused]
  · have taken : refersTo (object objects serial) key = false := by simpa using refused
    simp only [change_of_taken taken, taken, true_and, ← answers.get?_eq_some_iff]
    cases held : registry.get? key with
    | none => simp
    | some bound =>
        have isObject := answers.known bound held
        by_cases same : bound.serial = serial
        · have onlyThis : ∀ other, some bound = some (object objects other) → other = serial := by
            intro other isOther
            rw [← same, Option.some.inj isOther]
            rfl
          simp only [same, if_true, List.not_mem_nil, false_iff]
          rintro ⟨_, other, apart, isOther⟩
          exact apart (onlyThis other isOther)
        · have another : ∃ other, ¬other = serial ∧ bound = object objects other :=
            ⟨bound.serial, same, isObject⟩
          simpa [same] using fun _ => another

private theorem Answers.responds (answers : Answers objects changes registry) :
    Responds objects changes registry where
  refused := change_error_iff objects registry
  registering := answers.after_register_eq_iff
  removing := answers.after_remove_eq_iff
  warned := answers.overwritten_iff

/-- A registry is an ordered map of what was registered, over every run of changes. -/
theorem ofChanges_follows (objects : Nat → Matcher) (changes : List Change) :
    Follows objects changes (ofChanges objects changes) ∧
      Responds objects changes (ofChanges objects changes) := by
  obtain ⟨answers, ordered⟩ := ofChanges_answers objects changes
  exact ⟨answers.follows ordered, answers.responds⟩

example :
    let registry := ofChanges (fun _ => .empty)
      [.register ⟨"vault".toList, "gems".toList⟩ 1, .register ⟨"vault".toList, "coins".toList⟩ 1]
    registry.count = 2 ∧ registry.items.length = 1 := by
  decide

end ItemSpec.Registry

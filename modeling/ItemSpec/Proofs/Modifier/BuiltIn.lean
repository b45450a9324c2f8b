import ItemSpec.Modifier.BuiltIn
set_option autoImplicit false

/-! The parsers of the library on one list of tokens. What a parser asks for depends on the tokens
alone, so a run of any of them, in any order and as often as one likes, writes the same requests over
and over. Each request holds of what it has written, and no other kind of request touches it. -/

namespace ItemSpec

private theorem Levels.reaches_update (levels required : Levels) :
    (levels.update required).reaches required = true := by
  refine (reaches_iff _ _).2 fun enchantment least wanted => ?_
  rw [level, level?_update, wanted]
  exact Int.le_refl least

private theorem FlagSet.includes_union (flags required : FlagSet) :
    (flags.union required).includes required = true := by
  refine (includes_iff _ _).2 fun flag wanted => ?_
  rw [has_union, wanted, Bool.or_true]

private theorem Test.all_ok {tests : List Test} {slot : Slot}
    (sound : ∀ test ∈ tests, ∃ verdict, test slot = .ok verdict) :
    ∃ verdict, all tests slot = .ok verdict ∧
      (verdict = true ↔ ∀ test ∈ tests, test slot = .ok true) := by
  induction tests with
  | nil => exact ⟨true, rfl, by simp⟩
  | cons test rest ih =>
      obtain ⟨first, decided⟩ := sound test List.mem_cons_self
      obtain ⟨later, decidedLater, laterIff⟩ :=
        ih fun other member => sound other (List.mem_cons_of_mem _ member)
      refine ⟨first && later, ?_, ?_⟩
      · simp only [all, decided, decidedLater]
        cases first <;> rfl
      · simp only [Bool.and_eq_true, laterIff, List.forall_mem_cons, decided, Except.ok.injEq]

namespace Modifier

namespace Rule

variable {Request : Type} (rule : Rule Request)

private theorem test_stack (request : Request) (stack : Stack) :
    rule.test request (.stack stack) = .ok (stack.meta?.any (rule.holds request)) :=
  Test.ofData_stack rule.part (rule.holds request) stack

private theorem test_eq_true_iff (request : Request) (stack : Stack) :
    rule.test request (.stack stack) = .ok true ↔
      ∃ data, stack.meta? = some data ∧ rule.holds request data = true := by
  rw [test_stack, Except.ok.injEq]
  cases stack.meta? with
  | none => simp
  | some data => simp

end Rule

namespace BuiltIn

def Request : BuiltIn → Type
  | .enchantment => Levels
  | .modelData => Int
  | .unbreakable => Unit
  | .flag => FlagSet
  | .displayName => Text

def rule : (kind : BuiltIn) → Rule kind.Request
  | .enchantment => Enchanting.rule
  | .modelData => ModelData.rule
  | .unbreakable => Unbreakable.rule
  | .flag => Flag.rule
  | .displayName => DisplayName.rule

theorem mem_all (kind : BuiltIn) : kind ∈ all := by
  cases kind <;> decide

private theorem parser_eq (kind : BuiltIn) : kind.parser = kind.rule.parser := by
  cases kind <;> rfl

/-- What the tokens ask for; nothing where reading them is given up. -/
def asked (tokens : List Text) (kind : BuiltIn) : Option kind.Request :=
  match (kind.rule.request tokens).outcome with
  | .ok request? => request?
  | .error _ => none

def added (tokens : List Text) (kind : BuiltIn) : List Test :=
  (kind.asked tokens).toList.map kind.rule.test

def write (tokens : List Text) (data : Meta) (kind : BuiltIn) : Meta :=
  match kind.asked tokens with
  | none => data
  | some request => kind.rule.write request data

def writeAll (kinds : List BuiltIn) (tokens : List Text) (data : Meta) : Meta :=
  kinds.foldl (write tokens) data

def Satisfied (tokens : List Text) (data : Meta) (kind : BuiltIn) : Prop :=
  ∀ request, kind.asked tokens = some request → kind.rule.holds request data = true

/-! ### One parser -/

private theorem holds_write (kind : BuiltIn) (request : kind.Request) (data : Meta) :
    kind.rule.holds request (kind.rule.write request data) = true := by
  cases kind with
  | enchantment => exact data.enchants.reaches_update request
  | modelData => exact decide_eq_true rfl
  | unbreakable => rfl
  | flag => exact data.flags.includes_union request
  | displayName => exact decide_eq_true rfl

/-- Each kind of request looks at a part of its own. -/
theorem holds_write_of_ne {kind other : BuiltIn} (different : kind ≠ other)
    (request : kind.Request) (written : other.Request) (data : Meta) :
    kind.rule.holds request (other.rule.write written data) = kind.rule.holds request data := by
  cases kind <;> cases other <;> first | rfl | exact absurd rfl different

private theorem satisfied_write_self (tokens : List Text) (data : Meta) (kind : BuiltIn) :
    Satisfied tokens (write tokens data kind) kind := by
  intro request asked
  simp only [write, asked]
  exact kind.holds_write request data

private theorem satisfied_write {tokens : List Text} {data : Meta} {kind : BuiltIn}
    (satisfied : Satisfied tokens data kind) (other : BuiltIn) :
    Satisfied tokens (write tokens data other) kind := by
  by_cases same : kind = other
  · exact same ▸ satisfied_write_self tokens data kind
  · intro request asked
    have before := satisfied request asked
    unfold write
    cases wanted : other.asked tokens with
    | none => exact before
    | some written => exact (holds_write_of_ne same request written data).trans before

private theorem write_lore_tags (tokens : List Text) (data : Meta) (kind : BuiltIn) :
    (write tokens data kind).lore = data.lore ∧ (write tokens data kind).tags = data.tags := by
  unfold write
  cases kind.asked tokens with
  | none => exact ⟨rfl, rfl⟩
  | some request => cases kind <;> exact ⟨rfl, rfl⟩

theorem asked_nil (kind : BuiltIn) : kind.asked [] = none := by
  cases kind <;> rfl

/-! ### A run of parsers -/

private theorem satisfied_foldl {tokens : List Text} {data : Meta} {kind : BuiltIn}
    (kinds : List BuiltIn) (satisfied : Satisfied tokens data kind) :
    Satisfied tokens (writeAll kinds tokens data) kind := by
  induction kinds generalizing data with
  | nil => exact satisfied
  | cons other rest ih => exact ih (satisfied_write satisfied other)

/-- Whatever the order, what the tokens ask a parser of the run for holds at its end. -/
theorem satisfied_writeAll (kinds : List BuiltIn) (tokens : List Text) (data : Meta) :
    ∀ kind ∈ kinds, Satisfied tokens (writeAll kinds tokens data) kind := by
  intro kind member
  obtain ⟨before, after, rfl⟩ := List.append_of_mem member
  have reached := satisfied_write_self tokens (writeAll before tokens data) kind
  have kept := satisfied_foldl after reached
  simpa only [writeAll, List.foldl_append, List.foldl_cons] using kept

theorem writeAll_lore_tags (kinds : List BuiltIn) (tokens : List Text) (data : Meta) :
    (writeAll kinds tokens data).lore = data.lore ∧ (writeAll kinds tokens data).tags = data.tags := by
  induction kinds generalizing data with
  | nil => exact ⟨rfl, rfl⟩
  | cons kind rest ih =>
      obtain ⟨sameLore, sameTags⟩ := write_lore_tags tokens data kind
      obtain ⟨laterLore, laterTags⟩ := ih (write tokens data kind)
      exact ⟨laterLore.trans sameLore, laterTags.trans sameTags⟩

theorem writeAll_nil (kinds : List BuiltIn) (data : Meta) : writeAll kinds [] data = data := by
  induction kinds with
  | nil => rfl
  | cons kind rest ih =>
      have unwritten : write [] data kind = data := by simp only [write, asked_nil]
      rw [writeAll, List.foldl_cons, unwritten]
      exact ih

theorem apply_outcome (kind : BuiltIn) (tokens : List Text) (data : Meta) :
    (kind.parser.apply tokens data).result.outcome =
        (kind.rule.request tokens).outcome.map (fun request? => request?.map kind.rule.test) ∧
      (kind.parser.apply tokens data).data = write tokens data kind := by
  rw [parser_eq]
  unfold write asked
  simp only [Parser.apply, Parser.settle, Rule.parser]
  cases (kind.rule.request tokens).outcome with
  | error fault => exact ⟨rfl, rfl⟩
  | ok request? =>
      cases request? with
      | none => exact ⟨rfl, rfl⟩
      | some request => exact ⟨rfl, rfl⟩

/-- A run that is not given up has read every token for every parser of it; what it leaves behind and
the tests that it adds are those of its parsers, in order. -/
theorem readAll_ok {kinds : List BuiltIn} {tokens : List Text} {data : Meta} {tests : List Test}
    (read : (readAll (kinds.map parser) tokens data).result.outcome = .ok tests) :
    (∀ kind ∈ kinds, (kind.rule.request tokens).outcome = .ok (kind.asked tokens)) ∧
      tests = kinds.flatMap (added tokens) ∧
      (readAll (kinds.map parser) tokens data).data = writeAll kinds tokens data := by
  induction kinds generalizing data tests with
  | nil =>
      cases read
      exact ⟨fun _ member => absurd member List.not_mem_nil, rfl, rfl⟩
  | cons kind rest ih =>
      obtain ⟨applied, written⟩ := kind.apply_outcome tokens data
      cases requested : (kind.rule.request tokens).outcome with
      | error fault =>
          simp only [requested, Fault.error_map] at applied
          simp [readAll, inTurn, applied] at read
      | ok request? =>
          have asks : kind.asked tokens = request? := by simp only [asked, requested]
          simp only [requested, Fault.ok_map] at applied
          simp only [readAll, List.map_cons, inTurn, applied, written, Traced.outcome_bind,
            Fault.ok_bind] at read ⊢
          cases later : (readAll (rest.map parser) tokens (write tokens data kind)).result.outcome with
          | error fault =>
              rw [readAll] at later
              simp [later] at read
          | ok laterTests =>
              obtain ⟨everyLater, testsLater, writtenLater⟩ := ih later
              rw [readAll] at later
              simp only [later, Fault.ok_bind, Traced.outcome_pure, Except.ok.injEq] at read
              refine ⟨?_, ?_, writtenLater⟩
              · intro each member
                rcases List.mem_cons.1 member with rfl | inRest
                · rw [asks, requested]
                · exact everyLater each inRest
              · rw [← read, testsLater, List.flatMap_cons, added, asks]
                cases request? <;> rfl

theorem readAll_of_requested {kinds : List BuiltIn} {tokens : List Text} (data : Meta)
    (requested : ∀ kind ∈ kinds, (kind.rule.request tokens).outcome = .ok (kind.asked tokens)) :
    (readAll (kinds.map parser) tokens data).result.outcome = .ok (kinds.flatMap (added tokens)) ∧
      (readAll (kinds.map parser) tokens data).data = writeAll kinds tokens data := by
  have finishes : ∃ tests, (readAll (kinds.map parser) tokens data).result.outcome = .ok tests := by
    induction kinds generalizing data with
    | nil => exact ⟨[], rfl⟩
    | cons kind rest ih =>
        obtain ⟨requestedFirst, requestedRest⟩ := List.forall_mem_cons.1 requested
        obtain ⟨applied, written⟩ := kind.apply_outcome tokens data
        obtain ⟨tests, later⟩ := ih (write tokens data kind) requestedRest
        rw [readAll] at later
        rw [requestedFirst, Fault.ok_map] at applied
        simp only [readAll, List.map_cons, inTurn, applied, written, Traced.outcome_bind, later, Fault.ok_bind,
          Traced.outcome_pure]
        exact ⟨_, rfl⟩
  obtain ⟨tests, read⟩ := finishes
  obtain ⟨_, rfl, written⟩ := readAll_ok read
  exact ⟨read, written⟩

theorem readAll_of_unrequested {kinds : List BuiltIn} {tokens : List Text} (data : Meta)
    (unrequested : ¬∀ kind ∈ kinds, (kind.rule.request tokens).outcome = .ok (kind.asked tokens)) :
    ∃ fault, (readAll (kinds.map parser) tokens data).result.outcome = .error fault := by
  cases read : (readAll (kinds.map parser) tokens data).result.outcome with
  | error fault => exact ⟨fault, rfl⟩
  | ok tests => exact absurd (readAll_ok read).1 unrequested

theorem readAll_nil (kinds : List BuiltIn) (data : Meta) :
    (readAll (kinds.map parser) [] data).result.outcome = .ok [] ∧
      (readAll (kinds.map parser) [] data).data = data := by
  have unrequested : ∀ kind ∈ kinds, (kind.rule.request []).outcome = .ok (kind.asked []) := by
    intro kind _
    cases kind <;> rfl
  have untested : kinds.flatMap (added []) = [] := by
    refine List.flatMap_eq_nil_iff.2 fun kind _ => ?_
    rw [added, asked_nil]
    rfl
  obtain ⟨read, written⟩ := readAll_of_requested data unrequested
  exact ⟨read.trans (congrArg _ untested), written.trans (writeAll_nil kinds data)⟩

theorem all_added_ok (kinds : List BuiltIn) (tokens : List Text) (stack : Stack) :
    ∃ verdict, Test.all (kinds.flatMap (added tokens)) (.stack stack) = .ok verdict ∧
      (verdict = true ↔ ∀ kind ∈ kinds, ∀ request, kind.asked tokens = some request →
        ∃ data, stack.meta? = some data ∧ kind.rule.holds request data = true) := by
  have sound : ∀ test ∈ kinds.flatMap (added tokens), ∃ verdict, test (.stack stack) = .ok verdict := by
    intro test member
    obtain ⟨kind, _, fromKind⟩ := List.mem_flatMap.1 member
    obtain ⟨request, _, rfl⟩ := List.mem_map.1 fromKind
    exact ⟨_, kind.rule.test_stack request stack⟩
  obtain ⟨verdict, decided, verdictIff⟩ := Test.all_ok sound
  refine ⟨verdict, decided, verdictIff.trans ⟨?_, ?_⟩⟩
  · intro every kind member request asked
    refine (kind.rule.test_eq_true_iff request stack).1 (every _ (List.mem_flatMap.2 ⟨kind, member, ?_⟩))
    exact List.mem_map.2 ⟨request, Option.mem_toList.2 asked, rfl⟩
  · intro every test member
    obtain ⟨kind, kindMember, fromKind⟩ := List.mem_flatMap.1 member
    obtain ⟨request, asked, rfl⟩ := List.mem_map.1 fromKind
    exact (kind.rule.test_eq_true_iff request stack).2
      (every kind kindMember request (Option.mem_toList.1 asked))

end BuiltIn

end Modifier

end ItemSpec

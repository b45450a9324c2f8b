import ItemSpec.Modifier.Parser
set_option autoImplicit false

/-! A run of parsers, reply by reply. Each parser is asked about the metadata that the one before it left.
Either all of them answer, and a reply that adds no test stands for the test that every stack passes, or
there is a first that fails. -/

namespace ItemSpec.Modifier

/-- The test that a reply is, or stands for. To call what is no test is a fault. -/
def Reply.predicate : Reply → Test
  | .nothing => fun _ => .ok true
  | .anything => fun _ => .ok true
  | .test added => added
  | .invalid kind => fun _ => .error (.notCallable kind)

def Reply.added : Reply → List Test
  | .test added => [added]
  | _ => []

/-- What the parsers reply one after the other, and how they leave the metadata. -/
inductive Answers (tokens : List Text) : List Parser → Meta → List Reply → Meta → Prop where
  | nil {data : Meta} : Answers tokens [] data [] data
  | cons {parser : Parser} {others : List Parser} {before after : Meta} {reply : Reply}
      {replies : List Reply}
      (answered : (parser.read tokens before).result.outcome = .ok reply)
      (isTest : ∀ kind, reply ≠ .invalid kind)
      (later : Answers tokens others (parser.read tokens before).data replies after) :
      Answers tokens (parser :: others) before (reply :: replies) after

def Parser.Fails (parser : Parser) (tokens : List Text) (data : Meta) : Prop :=
  (∃ fault, (parser.read tokens data).result.outcome = .error fault) ∨
    ∃ kind, (parser.read tokens data).result.outcome = .ok (.invalid kind)

variable {tokens : List Text}

/-! ### One parser -/

private theorem Parser.apply_of_answered {parser : Parser} {data : Meta} {reply : Reply}
    (answered : (parser.read tokens data).result.outcome = .ok reply)
    (isTest : ∀ kind, reply ≠ .invalid kind) :
    ∃ test?, (parser.apply tokens data).result.outcome = .ok test? ∧ test?.toList = reply.added := by
  simp only [apply, settle, Traced.outcome_bind, answered, Fault.ok_bind, Traced.outcome_lift]
  cases reply with
  | nothing => exact ⟨none, rfl, rfl⟩
  | anything => exact ⟨none, rfl, rfl⟩
  | test added => exact ⟨some added, rfl, rfl⟩
  | invalid kind => exact absurd rfl (isTest kind)

private theorem Parser.Fails.apply {parser : Parser} {data : Meta} (fails : parser.Fails tokens data) :
    ∃ fault, (parser.apply tokens data).result.outcome = .error fault := by
  simp only [Parser.apply, settle, Traced.outcome_bind]
  rcases fails with ⟨fault, gaveUp⟩ | ⟨kind, replied⟩
  · exact ⟨fault, by rw [gaveUp, Fault.error_bind]⟩
  · exact ⟨.notTest parser.name kind, by rw [replied]; rfl⟩

/-! ### Runs in which every parser answers -/

theorem Answers.readAll {parsers : List Parser} {before after : Meta} {replies : List Reply}
    (answers : Answers tokens parsers before replies after) :
    (readAll parsers tokens before).data = after ∧
      (readAll parsers tokens before).result.outcome = .ok (replies.flatMap Reply.added) := by
  induction answers with
  | nil => exact ⟨rfl, rfl⟩
  | cons answered isTest later ih =>
      obtain ⟨test?, applied, adds⟩ := Parser.apply_of_answered answered isTest
      obtain ⟨left, collected⟩ := ih
      simp only [Modifier.readAll] at left collected
      simp only [Modifier.readAll, inTurn, applied]
      refine ⟨left, ?_⟩
      simp only [Traced.outcome_bind, applied, Fault.ok_bind]
      show ((inTurn _ _ (Parser.read _ tokens _).data).result.outcome >>= _) = _
      rw [collected, List.flatMap_cons, ← adds]
      rfl

/-- The replies that add no test can be left out: they never refuse, and never fault. -/
theorem Answers.all_added {parsers : List Parser} {before after : Meta} {replies : List Reply}
    (answers : Answers tokens parsers before replies after) (slot : Slot) :
    Test.all (replies.flatMap Reply.added) slot = Test.all (replies.map Reply.predicate) slot := by
  induction answers with
  | nil => rfl
  | @cons _ _ _ _ reply _ _ isTest _ ih =>
      cases reply with
      | nothing => exact ih
      | anything => exact ih
      | test added => exact congrArg (Verdict.both (added slot)) ih
      | invalid kind => exact absurd rfl (isTest kind)

theorem added_eq_nil_iff (replies : List Reply) :
    replies.flatMap Reply.added = [] ↔ ∀ test, Reply.test test ∉ replies := by
  rw [List.flatMap_eq_nil_iff]
  constructor
  · intro none test member
    cases none _ member
  · intro absent reply member
    cases reply with
    | test added => exact absurd member (absent added)
    | _ => rfl

/-! ### Runs in which a parser fails -/

/-- A run goes as far as the first parser that fails; the parsers behind it make no difference. -/
theorem Answers.readAll_fails {earlier : List Parser} {failing : Parser} {before snapshot : Meta}
    {replies : List Reply} (answers : Answers tokens earlier before replies snapshot)
    (fails : failing.Fails tokens snapshot) (others : List Parser) :
    (∃ fault, (Modifier.readAll (earlier ++ failing :: others) tokens before).result.outcome =
        .error fault) ∧
      Modifier.readAll (earlier ++ failing :: others) tokens before =
        Modifier.readAll (earlier ++ [failing]) tokens before := by
  induction answers with
  | nil =>
      obtain ⟨fault, gaveUp⟩ := fails.apply
      simp only [Modifier.readAll, List.nil_append, inTurn, gaveUp]
      exact ⟨⟨fault, rfl⟩, trivial⟩
  | @cons parser _ data _ _ _ answered isTest _ ih =>
      obtain ⟨test?, applied, _⟩ := Parser.apply_of_answered answered isTest
      obtain ⟨⟨fault, gaveUp⟩, same⟩ := ih fails
      have left : (parser.apply tokens data).data = (parser.read tokens data).data := rfl
      simp only [Modifier.readAll] at gaveUp same
      simp only [Modifier.readAll, List.cons_append, inTurn, applied, left]
      refine ⟨⟨fault, ?_⟩, by rw [same]⟩
      simp only [Traced.outcome_bind, applied, gaveUp, Fault.ok_bind, Fault.error_bind]

theorem answers_or_fails (parsers : List Parser) (tokens : List Text) (before : Meta) :
    (∃ replies after, Answers tokens parsers before replies after) ∨
      ∃ earlier failing others replies snapshot, parsers = earlier ++ failing :: others ∧
        Answers tokens earlier before replies snapshot ∧ failing.Fails tokens snapshot := by
  induction parsers generalizing before with
  | nil => exact .inl ⟨[], before, .nil⟩
  | cons parser others ih =>
      by_cases fails : parser.Fails tokens before
      · exact .inr ⟨[], parser, others, [], before, rfl, .nil, fails⟩
      · obtain ⟨noFault, noOther⟩ := not_or.1 fails
        cases answered : (parser.read tokens before).result.outcome with
        | error fault => exact absurd ⟨fault, answered⟩ noFault
        | ok reply =>
            have isTest : ∀ kind, reply ≠ .invalid kind := by
              rintro kind rfl
              exact noOther ⟨kind, answered⟩
            rcases ih (parser.read tokens before).data with
              ⟨replies, after, answers⟩ | ⟨earlier, failing, rest, replies, snapshot, rfl, answers, fails⟩
            · exact .inl ⟨_, after, .cons answered isTest answers⟩
            · exact .inr ⟨parser :: earlier, failing, rest, _, snapshot, rfl,
                .cons answered isTest answers, fails⟩

end ItemSpec.Modifier

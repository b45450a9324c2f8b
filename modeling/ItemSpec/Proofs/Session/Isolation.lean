import ItemSpec.Proofs.Session.Portrait
import ItemSpec.Proofs.Session.Working
set_option autoImplicit false

/-! Matchers are isolated from everything outside of them. Whatever a host goes on to do, a matcher that is
there shows what it showed before and judges as it did before. -/

namespace ItemSpec

open ItemSpec.Action

namespace Session

def Judges (session : Session) (object : Entity) (slot : Slot) (verdict : Verdict) : Prop :=
  ∃ test, (judgement object).on session = (.ok test, session) ∧ test slot = verdict

/-- A matcher is in one session what it is in the other, to anybody who asks it. -/
structure SameFor (session later : Session) (object : Entity) : Prop where
  portrays : ∀ content, session.Portrays object content ↔ later.Portrays object content
  judges : ∀ slot verdict, session.Judges object slot verdict ↔ later.Judges object slot verdict

/-- A verdict is a matter of the matcher alone. -/
theorem judges_iff (session later : Session) (object : Entity) (slot : Slot) (verdict : Verdict) :
    session.Judges object slot verdict ↔ later.Judges object slot verdict := by
  have untouched : ∀ {one other : Session}, one.Judges object slot verdict →
      other.Judges object slot verdict := by
    intro one other ⟨test, ran, judged⟩
    refine ⟨test, ?_, judged⟩
    cases object with
    | matcher handle => exact Prod.ext (Prod.mk.inj ran).1 rfl
    | hollow serial wrapper => exact Prod.ext (Prod.mk.inj ran).1 rfl
    | _ => cases ran
  exact ⟨untouched, untouched⟩

end Session

namespace Ledger.Before

variable {custody later : Custody}

private theorem exhibit?_eq (before : custody.Before later.toLedger) {object : Entity}
    (made : custody.Made object) :
    later.session.exhibit? object = custody.session.exhibit? object := by
  cases object with
  | matcher handle => exact before.exhibits _ made
  | hollow serial wrapper => exact before.exhibits _ made
  | _ => rfl

theorem portrays_iff (before : custody.Before later.toLedger) {object : Entity} (made : custody.Made object)
    (content : Content) :
    custody.session.Portrays object content ↔ later.session.Portrays object content := by
  have sameExhibit := before.exhibit?_eq made
  have both : ∀ {shown : Content}, custody.session.Portrays object shown →
      later.session.Portrays object shown →
      (custody.session.Portrays object content ↔ later.session.Portrays object content) := by
    intro shown here there
    constructor
    · intro portrays
      rw [portrays.unique here]
      exact there
    · intro portrays
      rw [portrays.unique there]
      exact here
  cases keeps : custody.session.exhibit? object with
  | some exhibit =>
      rw [keeps] at sameExhibit
      obtain ⟨shown, shows, portrays⟩ := Custody.portrays_of_exhibit keeps
      obtain ⟨shownLater, showsLater, portraysLater⟩ := Custody.portrays_of_exhibit sameExhibit
      have same := showsLater.unique (before.shows_kept shows (custody.kept_of_exhibit? keeps))
      rw [same] at portraysLater
      exact both portrays portraysLater
  | none =>
      rw [keeps] at sameExhibit
      cases told : plainly object with
      | some stack =>
          exact both (Custody.portrays_of_plain keeps told) (Custody.portrays_of_plain sameExhibit told)
      | none =>
          exact iff_of_false (representative_of_none keeps told content)
            (representative_of_none sameExhibit told content)

theorem sameFor (before : custody.Before later.toLedger) {object : Entity} (made : custody.Made object) :
    custody.session.SameFor later.session object where
  portrays := before.portrays_iff made
  judges := custody.session.judges_iff later.session object

end Ledger.Before

namespace Custody

private theorem portrays_matcher (custody : Custody) (handle : Handle) :
    ∃ content, custody.session.Portrays (.matcher handle) content := by
  cases keeps : custody.session.exhibit? (.matcher handle) with
  | some exhibit =>
      obtain ⟨content, _, portrays⟩ := portrays_of_exhibit keeps
      exact ⟨_, portrays⟩
  | none => exact ⟨_, portrays_of_plain keeps rfl⟩

/-! ### Sessions as they run -/

def initial : Custody where
  session := {}
  kept _ := False
  known := 1
  positive := Nat.one_pos
  known_le := Nat.le_refl 1
  names _ member := absurd member List.not_mem_nil
  bound _ member := absurd member List.not_mem_nil
  carried _ _ := ⟨trivial, id, nofun⟩
  extras _ member := absurd member List.not_mem_nil
  exhibits _ member := absurd member List.not_mem_nil
  stored _ := False.elim

private theorem keeps_registerAll (custody : Custody) (items : List MatcherSource) :
    custody.Keeps (items.forM fun source => discard (perform (.registerOwn source))) fun _ _ => True := by
  induction items generalizing custody with
  | nil => exact .pure trivial
  | cons source others ih =>
      exact .bind (.discard (custody.keeps_perform _)) fun later _ _ _ => ih later

private theorem keeps_prepare (setup : Session.Setup) :
    initial.Keeps (Session.prepare setup) fun _ _ => True := by
  refine .bind (initial.keeps_trace _) fun custody _ engine ⟨added, _⟩ => ?_
  refine .bind (custody.keeps_settle _) fun custody _ resolve _ => ?_
  refine .bind (custody.keeps_settle _) fun custody _ policy _ => ?_
  refine .bind (custody.keeps_putEngine fun entry member => ?_) fun later _ _ _ =>
    later.keeps_registerAll setup.items
  rw [Engine.registry_of_addParsers added] at member
  exact absurd member List.not_mem_nil

private theorem of_start {setup : Session.Setup} {session : Session}
    (started : Session.start setup = .ok session) :
    ∃ custody : Custody, custody.session = session := by
  obtain ⟨later, left, _⟩ := keeps_prepare setup
  unfold Session.start at started
  split at started
  · rename_i ran
    cases started
    exact ⟨later, left.trans (congrArg Prod.snd ran)⟩
  · cases started

private theorem step (custody : Custody) (command : Command) :
    ∃ later : Custody, later.session = (custody.session.step command).1 ∧
      custody.Before later.toLedger := by
  obtain ⟨later, left, before, _⟩ := custody.keeps_perform command
  exact ⟨later, left, before⟩

theorem run (custody : Custody) (commands : List Command) :
    ∃ later : Custody, later.session = custody.session.run commands ∧ custody.Before later.toLedger := by
  induction commands generalizing custody with
  | nil => exact ⟨custody, rfl, .refl _⟩
  | cons command others ih =>
      obtain ⟨next, stepped, toNext⟩ := custody.step command
      obtain ⟨last, ran, toLast⟩ := ih next
      refine ⟨last, ?_, toNext.trans toLast⟩
      rw [ran, stepped]
      rfl

theorem of_run {setup : Session.Setup} {session : Session} (started : Session.start setup = .ok session)
    (commands : List Command) :
    ∃ custody : Custody, custody.session = session.run commands ∧
      custody.known = custody.session.nextSerial := by
  obtain ⟨custody, rfl⟩ := of_start started
  obtain ⟨reached, ran, _⟩ := custody.run commands
  exact ⟨reached.learned, ran, rfl⟩

theorem made_iff {custody : Custody} (known : custody.known = custody.session.nextSerial)
    (object : Entity) : custody.session.Made object ↔ custody.Made object := by
  rw [Session.Made, Ledger.Made, known]

end Custody

namespace Session

/-- What is there at some time of a session is there to the end, each matcher as it was: whatever stacks and
metadata are edited, whatever is registered or removed or looked up. A matcher that has a name or is bound to
a key is among what is there, and every matcher has something to show. -/
theorem run_isolates {setup : Setup} {session : Session} (started : start setup = .ok session)
    (earlier later : List Command) :
    let reached := session.run earlier
    (∀ object, reached.Made object → reached.SameFor (reached.run later) object) ∧
      (∀ handle, reached.Made (.matcher handle) → ∃ content, reached.Portrays (.matcher handle) content) ∧
      (∀ name object, reached.find? name = some object → reached.Made object) ∧
      ∀ key handle, reached.engine.registry.get? key = some handle → reached.Made (.matcher handle) := by
  obtain ⟨custody, isReached, known⟩ := Custody.of_run started earlier
  rw [← isReached]
  simp only [Custody.made_iff known]
  refine ⟨?_, ?_, ?_, ?_⟩
  · intro object made
    obtain ⟨last, ran, before⟩ := custody.run later
    rw [← ran]
    exact before.sameFor made
  · intro handle _
    exact custody.portrays_matcher handle
  · intro name object found
    exact (custody.open_of_name found).made
  · intro key handle bound
    exact (custody.open_of_bound bound).made

/-- Gems whose given stack is edited, and so is the metadata of the stack that is shown for them. -/
theorem run_isolates_gems :
    let setup : Setup := { offers := [] }
    let key : Key := ⟨"vault".toList, "gems".toList⟩
    let stack := StackSource.new (.ok .diamond) 5 (.new (.ok .blank))
    let gems := MatcherSource.custom key (.leastAmount 5) (.named "given".toList)
    let earlier := [Command.stack stack (some "given".toList), .registerOwn gems,
      .representative (.registered key) (some "shown".toList)]
    let later := [Command.edit "given".toList false [.amount 1, .replaceData .nothing],
      .edit "shown".toList true [.data (.addLore "Worn".toList)], .lookup "vault:gems 7".toList none,
      .remove key, .clear]
    ∃ session handle, start setup = .ok session ∧
      (session.run earlier).engine.registry.get? key = some handle ∧
      (session.run earlier).SameFor ((session.run earlier).run later) (.matcher handle) ∧
      ∃ content, ((session.run earlier).run later).Portrays (.matcher handle) content := by
  intro setup key stack gems earlier later
  have started : start setup = .ok {} := rfl
  obtain ⟨isolated, portrayed, _, registered⟩ := run_isolates started earlier later
  have isBound : ((run {} earlier).engine.registry.get? key).isSome = true := by decide +kernel
  obtain ⟨handle, bound⟩ := Option.isSome_iff_exists.1 isBound
  have made := registered key handle bound
  have same := isolated _ made
  obtain ⟨content, portrays⟩ := portrayed handle made
  exact ⟨_, handle, started, bound, same, content, (same.portrays _).1 portrays⟩

end Session

end ItemSpec

import ItemSpec.Proofs.Engine.Order
import ItemSpec.Proofs.Number
import ItemSpec.Service.Endpoint
set_option autoImplicit false

/-! Where a lookup has no answer. Parsers are never the cause, whatever they do; the one cause is an
amount that the number reader gives up on, and the service passes it on. -/

namespace ItemSpec

namespace Engine

open Traced (outcome_bind outcome_lift)

inductive NameOverflows (engine : Engine) (token digits : Text) : Prop where
  | material {name written : Text} (parts : Text.cut ':' (Text.lower token) = [name, written])
      (unbound : engine.registry.get? (Key.of name written) = none)
      (overlong : Number.Overlong written digits)
  | item {scope name written : Text}
      (parts : Text.cut ':' (Text.lower token) = [scope, name, written])
      (overlong : Number.Overlong written digits)

inductive Overflows (engine : Engine) (alternative digits : Text) : Prop where
  | naming {token : Text} {others : List Text}
      (tokens : Text.cut ' ' (Text.dropTrailing ' ' alternative) = token :: others)
      (overflows : engine.NameOverflows token digits)
  | amount {token written : Text} {others : List Text} {base : Base} {named : Int}
      (tokens : Text.cut ' ' (Text.dropTrailing ' ' alternative) = token :: written :: others)
      (notEmpty : token ≠ []) (names : engine.Names token base named)
      (overlong : Number.Overlong written digits)

/-- The first alternative of a spec that names an item or has an overlong amount has the latter. -/
def Breaks (engine : Engine) (spec digits : Text) : Prop :=
  ∃ alternative, engine.Reaches spec alternative ∧ engine.Overflows alternative digits

variable {engine : Engine}

/-! ### One alternative -/

private theorem NameOverflows.notEmpty {token digits : Text}
    (overflows : engine.NameOverflows token digits) :
    token ≠ [] := by
  intro isEmpty
  subst isEmpty
  cases overflows with
  | material parts unbound overlong => cases parts
  | item parts overlong => cases parts

private theorem identify_eq_error_iff (token : Text) (fault : Fault) :
    engine.identify token = .error fault ↔
      ∃ digits, engine.NameOverflows token digits ∧ fault = .digitLimit digits.length := by
  constructor
  · intro gaveUp
    unfold identify at gaveUp
    split at gaveUp
    · cases gaveUp
    · rename_i first second parts
      split at gaveUp
      · cases gaveUp
      · rename_i unbound
        cases number : Number.read second with
        | ok amount? => simp [number] at gaveUp
        | error cause =>
            rw [number] at gaveUp
            cases gaveUp
            obtain ⟨digits, overlong, same⟩ := (Number.read_eq_error_iff second fault).1 number
            exact ⟨digits, .material parts unbound overlong, same⟩
    · rename_i first second third parts
      cases number : Number.read third with
      | ok amount? => simp [number] at gaveUp
      | error cause =>
          rw [number] at gaveUp
          cases gaveUp
          obtain ⟨digits, overlong, same⟩ := (Number.read_eq_error_iff third fault).1 number
          exact ⟨digits, .item parts overlong, same⟩
    · cases gaveUp
  · intro ⟨digits, overflows, same⟩
    cases overflows with
    | material parts unbound overlong =>
        have number := (Number.read_eq_error_iff _ fault).2 ⟨digits, overlong, same⟩
        simp [identify, parts, unbound, number]
    | item parts overlong =>
        have number := (Number.read_eq_error_iff _ fault).2 ⟨digits, overlong, same⟩
        simp [identify, parts, number]

private theorem takeAmount_eq_error_iff (named : Int) (others : List Text) (fault : Fault) :
    takeAmount named others = .error fault ↔ ∃ written rest digits, others = written :: rest ∧
      Number.Overlong written digits ∧ fault = .digitLimit digits.length := by
  cases others with
  | nil => simp [takeAmount]
  | cons token others =>
      have faults : takeAmount named (token :: others) = .error fault ↔
          Number.read token = .error fault := by
        cases number : Number.read token <;> simp [takeAmount, number]
      rw [faults, Number.read_eq_error_iff]
      constructor
      · rintro ⟨digits, overlong, same⟩
        exact ⟨token, others, digits, rfl, overlong, same⟩
      · rintro ⟨written, rest, digits, split, overlong, same⟩
        cases split
        exact ⟨digits, overlong, same⟩

theorem order?_eq_error_iff (alternative : Text) (fault : Fault) :
    engine.order? alternative = .error fault ↔
      ∃ digits, engine.Overflows alternative digits ∧ fault = .digitLimit digits.length := by
  constructor
  · intro gaveUp
    unfold order? at gaveUp
    split at gaveUp
    · cases gaveUp
    · rename_i token others tokens
      split at gaveUp
      · cases gaveUp
      · rename_i notEmpty
        cases identified : engine.identify token with
        | error cause =>
            rw [identified] at gaveUp
            cases gaveUp
            obtain ⟨digits, overflows, same⟩ := (identify_eq_error_iff token fault).1 identified
            exact ⟨digits, .naming tokens overflows, same⟩
        | ok named? =>
            rw [identified] at gaveUp
            cases named? with
            | none => cases gaveUp
            | some named =>
                obtain ⟨base, named⟩ := named
                cases taken : takeAmount named others with
                | ok counted =>
                    simp only [Fault.ok_bind, taken] at gaveUp
                    cases gaveUp
                | error cause =>
                    simp only [Fault.ok_bind, taken] at gaveUp
                    cases gaveUp
                    obtain ⟨written, rest, digits, rfl, overlong, same⟩ :=
                      (takeAmount_eq_error_iff named others fault).1 taken
                    have names := (identify_eq_some_iff token base named).1 identified
                    exact ⟨digits, .amount tokens notEmpty names overlong, same⟩
  · intro ⟨digits, overflows, same⟩
    cases overflows with
    | naming tokens overflows =>
        have identified := (identify_eq_error_iff _ fault).2 ⟨digits, overflows, same⟩
        simp only [order?, tokens, if_neg overflows.notEmpty, identified, Fault.error_bind]
    | @amount token written others base named tokens notEmpty names overlong =>
        have identified := (identify_eq_some_iff token base named).2 names
        have taken := (takeAmount_eq_error_iff named (written :: others) fault).2
          ⟨written, others, digits, rfl, overlong, same⟩
        simp only [order?, tokens, if_neg notEmpty, identified, taken, Fault.ok_bind,
          Fault.error_bind]

/-- Filling an order never faults, so the reading of an alternative is what does. -/
theorem lookupAlternative_eq_error_iff (alternative : Text) (fault : Fault) :
    (engine.lookupAlternative alternative).outcome = .error fault ↔
      ∃ digits, engine.Overflows alternative digits ∧ fault = .digitLimit digits.length := by
  rw [lookupAlternative_outcome, ← order?_eq_error_iff]
  cases engine.order? alternative with
  | error cause => simp
  | ok order? =>
      cases order? with
      | none => simp
      | some order =>
          obtain ⟨dressed?, modified⟩ := engine.modify_outcome order.base.found order.modifiers
          simp only [Fault.ok_bind, fill, outcome_bind, modified]
          cases dressed? <;> simp

/-! ### A whole spec -/

theorem lookup_eq_error_iff (spec : Text) (fault : Fault) :
    (engine.lookup spec).outcome = .error fault ↔
      ∃ digits, engine.Breaks spec digits ∧ fault = .digitLimit digits.length := by
  have ends : Ends (.error fault) := fun _ same => nomatch same
  rw [lookup_outcome_iff ends]
  constructor
  · intro ⟨alternative, reached, broken⟩
    obtain ⟨digits, overflows, same⟩ := (lookupAlternative_eq_error_iff alternative fault).1 broken
    exact ⟨digits, ⟨alternative, reached, overflows⟩, same⟩
  · intro ⟨digits, ⟨alternative, reached, overflows⟩, same⟩
    exact ⟨alternative, reached,
      (lookupAlternative_eq_error_iff alternative fault).2 ⟨digits, overflows, same⟩⟩

private theorem faults_iff_breaks (spec : Text) :
    (∃ fault, (engine.lookup spec).outcome = .error fault) ↔ ∃ digits, engine.Breaks spec digits := by
  simp only [lookup_eq_error_iff]
  constructor
  · intro ⟨fault, digits, breaks, _⟩
    exact ⟨digits, breaks⟩
  · intro ⟨digits, breaks⟩
    exact ⟨_, digits, breaks, rfl⟩

end Engine

namespace Service

private theorem lookup_eq_broken_iff (engine : Engine) (spec : Text) :
    lookup engine spec = .broken ↔ ∃ digits, engine.Breaks spec digits := by
  rw [← Engine.faults_iff_breaks]
  unfold lookup
  cases (engine.lookup spec).outcome with
  | error fault => simp
  | ok found => simp

/-- Once its material is known, a request for a verdict breaks down with the lookup or with a test. -/
theorem judge_eq_broken_iff (engine : Engine) (form : MatchForm) :
    judge engine form = .broken ↔
      ∃ material, material? engine form.item.material = some material ∧
        ((∃ digits, engine.Breaks form.spec digits) ∨
          ∃ found fault, (engine.lookup form.spec).outcome = .ok found ∧
            found.matcher.accepts (form.item.toStack material) = .error fault) := by
  rw [← Engine.faults_iff_breaks]
  unfold judge
  cases material? engine form.item.material with
  | none => simp [detail]
  | some material =>
      cases (engine.lookup form.spec).outcome with
      | error fault => simp
      | ok found =>
          cases judged : found.matcher.accepts (form.item.toStack material) with
          | error fault => simp [judged]
          | ok verdict => simp [judged]

end Service

namespace Engine

/-- Lookups and requests break down at overlong amounts, and a request for a verdict at a test that
faults; nothing else in a spec, and nothing that a parser does, is in the way of an answer. -/
theorem lookup_total_but_for_overlong (engine : Engine) (spec : Text) :
    (∀ fault, (engine.lookup spec).outcome = .error fault ↔
      ∃ digits, engine.Breaks spec digits ∧ fault = .digitLimit digits.length) ∧
    (Service.lookup engine spec = .broken ↔ ∃ digits, engine.Breaks spec digits) ∧
    ∀ item, Service.judge engine ⟨spec, item⟩ = .broken ↔
      ∃ material, Service.material? engine item.material = some material ∧
        ((∃ digits, engine.Breaks spec digits) ∨
          ∃ found fault, (engine.lookup spec).outcome = .ok found ∧
            found.matcher.accepts (item.toStack material) = .error fault) :=
  ⟨lookup_eq_error_iff spec, Service.lookup_eq_broken_iff engine spec,
    fun item => Service.judge_eq_broken_iff engine ⟨spec, item⟩⟩

/-- Diamonds, with one zero too many in front of their number. -/
theorem lookup_diamonds_faults :
    let engine : Engine := { parsers := Modifier.BuiltIn.all.map Modifier.BuiltIn.parser }
    let numeral := List.replicate 4300 '0' ++ ['5']
    (engine.lookup ("DIAMOND".toList ++ ' ' :: numeral)).outcome = .error (.digitLimit 4301) := by
  intro engine numeral
  have length : numeral.length = 4301 := by
    rw [List.length_append, List.length_replicate, List.length_singleton]
  have overlong : Number.Overlong numeral numeral := Number.overlong_padded rfl (Nat.le_refl 4300)
  have noSeparator : ∀ separator, Decimal.isDigit separator = false → separator ∉ numeral := by
    intro separator noDigit member
    obtain ⟨_, _, every, _⟩ := overlong
    rw [every separator member] at noDigit
    cases noDigit
  have single : '?' ∉ "DIAMOND".toList ++ ' ' :: numeral := by
    intro member
    rcases List.mem_append.1 member with inName | inRest
    · exact absurd inName (by decide)
    · exact noSeparator '?' rfl ((List.mem_cons.1 inRest).resolve_left (by decide))
  have tokens : Text.cut ' ' (Text.dropTrailing ' ' ("DIAMOND".toList ++ ' ' :: numeral)) =
      ["DIAMOND".toList, numeral] := by
    have kept : Text.dropTrailing ' ' (("DIAMOND".toList ++ ' ' :: List.replicate 4300 '0') ++ ['5']) =
        ("DIAMOND".toList ++ ' ' :: List.replicate 4300 '0') ++ ['5'] :=
      Text.dropTrailing_append (by decide) _
    rw [List.append_assoc, List.cons_append] at kept
    rw [kept, Text.cut_append (by decide), Text.cut_of_not_mem (noSeparator ' ' rfl)]
  have parts : Text.cut ':' (Text.lower "DIAMOND".toList) = ["diamond".toList] := by decide +kernel
  have names : engine.Names "DIAMOND".toList (.material .diamond) 1 :=
    .material parts (by decide +kernel) (by decide)
  have reached : engine.Reaches ("DIAMOND".toList ++ ' ' :: numeral) _ :=
    (reaches_iff_of_cut (Text.cut_of_not_mem single) _).2 rfl
  have overflows := Overflows.amount tokens (by decide) names overlong
  exact (lookup_eq_error_iff _ _).2 ⟨numeral, ⟨_, reached, overflows⟩, by rw [length]⟩

end Engine

end ItemSpec

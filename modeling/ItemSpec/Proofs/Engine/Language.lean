import ItemSpec.Proofs.Engine.Genuine
import ItemSpec.Proofs.Engine.KeySpelling
import ItemSpec.Proofs.Engine.Totality
import ItemSpec.Proofs.Modifier.Legibility
set_option autoImplicit false

/-! The language of specs. Whether an alternative names an item is a matter of its first token alone: of the
text up to the first space, once the spaces at the end are dropped. Nothing behind that token, well formed or
not, takes the item away again. -/

namespace ItemSpec

open Text (Brief cut lower)

/-- A base as it is, or with modifiers, with an amount or with both. -/
inductive Found.Bears (base : Found) : Found → Prop where
  | bare : Bears base base
  | modified (test : Test) (shown : Stack) : Bears base (.new (.modified base.matcher test shown))
  | counted (amount : Int) (policy : StackPolicy) : Bears base (.new (.counted base.matcher amount policy))
  | both (test : Test) (shown : Stack) (amount : Int) (policy : StackPolicy) :
      Bears base (.new (.counted (.modified base.matcher test shown) amount policy))

theorem Base.Genuine.notEmpty {base : Base} (genuine : base.Genuine) :
    base.found.matcher.isEmpty = false := by
  cases genuine with
  | material solid => rfl
  | item item => exact item.isEmpty_handle

theorem Found.Bears.notEmpty {base found : Found} (bears : base.Bears found)
    (baseNotEmpty : base.matcher.isEmpty = false) : found.matcher.isEmpty = false := by
  cases bears with
  | bare => exact baseNotEmpty
  | _ => rfl

namespace Engine

open Modifier (BuiltIn)

def naming (alternative : Text) : Text :=
  (Text.dropTrailing ' ' alternative).takeWhile (· ≠ ' ')

/-- What a token stands for. A key that is bound stands before a material in an amount. -/
inductive Denotes (engine : Engine) (token : Text) : Base → Prop where
  | material {material : Material} (whole : ':' ∉ token) (resolved : engine.resolve token = some material)
      (solid : material ≠ .air) : Denotes engine token (.material material)
  | item {scope name : Text} {item : Handle} (parts : cut ':' (lower token) = [scope, name])
      (bound : engine.registry.get? ⟨scope, name⟩ = some item) : Denotes engine token (.item item)
  | materialAmount {name written : Text} {material : Material} {amount : Int}
      (parts : cut ':' (lower token) = [name, written])
      (unbound : engine.registry.get? ⟨name, written⟩ = none)
      (resolved : engine.resolve name = some material) (solid : material ≠ .air)
      (number : Number.read written = .ok (some amount)) : Denotes engine token (.material material)
  | itemAmount {scope name written : Text} {item : Handle} {amount : Int}
      (parts : cut ':' (lower token) = [scope, name, written])
      (bound : engine.registry.get? ⟨scope, name⟩ = some item)
      (number : Number.read written = .ok (some amount)) : Denotes engine token (.item item)

def Accepts (engine : Engine) (alternative : Text) (base : Base) : Prop :=
  naming alternative ≠ [] ∧ engine.Denotes (naming alternative) base

variable {engine : Engine}

/-! ### The first token -/

private theorem not_mem_of_cut {separator : Char} {text piece : Text}
    (pieces : cut separator text = [piece]) :
    separator ∉ text := by
  have joined := Text.join_cut separator text
  rw [pieces] at joined
  have isPiece : text ∈ cut separator text := by
    rw [pieces, ← joined]
    exact List.mem_singleton_self _
  exact Text.not_mem_of_mem_cut isPiece

private theorem lower_of_mem_cut {text part : Text} (member : part ∈ cut ':' (lower text)) :
    lower part = part := by
  refine Text.lowerAfter_of_isLower fun letter inPart => ?_
  have inText := (Text.infix_of_mem_cut member).subset inPart
  rw [lower, ← Text.lowerWithin_false] at inText
  exact Text.isLower_of_mem_lowerWithin inText

private theorem keyOf_parts {text scope name : Text} {rest : List Text}
    (parts : cut ':' (lower text) = scope :: name :: rest) : Key.of scope name = ⟨scope, name⟩ := by
  have lowered : ∀ part ∈ scope :: name :: rest, lower part = part :=
    fun _ member => lower_of_mem_cut (parts ▸ member)
  obtain ⟨lowerScope, lowerName, _⟩ := by simpa only [List.forall_mem_cons] using lowered
  rw [Key.of, lowerScope, lowerName]

private theorem denotes_iff (token : Text) (base : Base) :
    engine.Denotes token base ↔ ∃ named, engine.Names token base named := by
  constructor
  · intro denotes
    cases denotes with
    | material whole resolved solid => exact ⟨1, .material (Text.cut_lower_of_not_mem whole) resolved solid⟩
    | item parts bound => exact ⟨1, .item parts (keyOf_parts parts ▸ bound)⟩
    | materialAmount parts unbound resolved solid number =>
        exact ⟨_, .materialAmount parts (keyOf_parts parts ▸ unbound) resolved solid number⟩
    | itemAmount parts bound number => exact ⟨_, .itemAmount parts (keyOf_parts parts ▸ bound) number⟩
  · rintro ⟨named, names⟩
    cases names with
    | material parts resolved solid =>
        exact .material (mt (Text.colon_mem_lower_iff token).2 (not_mem_of_cut parts)) resolved solid
    | item parts bound => exact .item parts (keyOf_parts parts ▸ bound)
    | materialAmount parts unbound resolved solid number =>
        exact .materialAmount parts (keyOf_parts parts ▸ unbound) resolved solid number
    | itemAmount parts bound number => exact .itemAmount parts (keyOf_parts parts ▸ bound) number

private theorem counts_of_brief {others : List Text} (brief : ∀ token ∈ others, Brief token) (named : Int) :
    ∃ amount modifiers, Counts named others amount modifiers := by
  cases others with
  | nil => exact ⟨_, _, .nothing⟩
  | cons token rest =>
      obtain ⟨number?, number⟩ := Number.read_of_brief (brief token List.mem_cons_self)
      cases number? with
      | none => exact ⟨_, _, .unwritten number⟩
      | some amount => exact ⟨_, _, .written number⟩

private theorem brief_of_mem_tokens {alternative token : Text} (brief : Brief alternative)
    (member : token ∈ cut ' ' (Text.dropTrailing ' ' alternative)) : Brief token :=
  brief.part ((Text.infix_of_mem_cut member).trans (Text.dropTrailing_prefix ' ' alternative).isInfix)

theorem tokens_eq (alternative : Text) :
    ∃ others, cut ' ' (Text.dropTrailing ' ' alternative) = naming alternative :: others :=
  Text.cut_eq_cons ' ' _

private theorem accepts_iff {alternative : Text} (brief : Brief alternative) (base : Base) :
    engine.Accepts alternative base ↔ ∃ order, engine.Reads alternative order ∧ order.base = base := by
  obtain ⟨others, tokens⟩ := tokens_eq alternative
  unfold Accepts
  rw [denotes_iff]
  constructor
  · rintro ⟨notEmpty, named, names⟩
    have briefOthers : ∀ token ∈ others, Brief token := fun token member =>
      brief_of_mem_tokens brief (tokens ▸ List.mem_cons_of_mem _ member)
    obtain ⟨amount, modifiers, counts⟩ := counts_of_brief briefOthers named
    exact ⟨_, .intro tokens notEmpty names counts, rfl⟩
  · rintro ⟨order, ⟨tokensOther, notEmpty, names, _⟩, rfl⟩
    obtain ⟨rfl, rfl⟩ := List.cons.inj (tokens.symm.trans tokensOther)
    exact ⟨notEmpty, _, names⟩

/-! ### One alternative -/

private theorem not_overflows {alternative digits : Text} (brief : Brief alternative) :
    ¬engine.Overflows alternative digits := by
  have briefParts : ∀ {token part}, Brief token → part ∈ cut ':' (lower token) → Brief part :=
    fun briefToken member => briefToken.lower.part (Text.infix_of_mem_cut member)
  intro overflows
  cases overflows with
  | @naming token others tokens overflows =>
      have briefToken : Brief token := brief_of_mem_tokens brief (by rw [tokens]; exact List.mem_cons_self)
      cases overflows with
      | material parts unbound overlong =>
          exact Number.not_overlong (briefParts briefToken (by rw [parts]; simp)) overlong
      | item parts overlong =>
          exact Number.not_overlong (briefParts briefToken (by rw [parts]; simp)) overlong
  | amount tokens notEmpty names overlong =>
      exact Number.not_overlong (brief_of_mem_tokens brief (by rw [tokens]; simp)) overlong

private theorem Reads.brief {alternative : Text} {order : Order} (reads : engine.Reads alternative order)
    (brief : Brief alternative) : ∀ token ∈ order.modifiers, Brief token := by
  obtain ⟨tokens, notEmpty, names, counts⟩ := reads
  intro token member
  refine brief_of_mem_tokens brief ?_
  rw [tokens]
  refine List.mem_cons_of_mem _ ?_
  cases counts with
  | nothing => cases member
  | written number => exact List.mem_cons_of_mem _ member
  | unwritten word => exact member

private theorem dress_bears (base : Found) (tests : List Test) (before after : Meta) (amount : Int) :
    base.Bears (engine.count (dress base tests before after) amount) := by
  unfold count dress
  split
  · split
    · exact .bare
    · exact .modified _ _
  · split
    · exact .counted _ _
    · exact .both _ _ _ _

variable {kinds : List BuiltIn} (parsers : engine.parsers = kinds.map BuiltIn.parser)

include parsers

theorem fill_bears {order : Order} (genuine : order.base.Genuine)
    (readable : ∀ token ∈ order.modifiers, ¬Modifier.Unreadable token) :
    ∃ found, (engine.fill order).outcome = .ok found ∧ order.base.found.Bears found := by
  obtain ⟨data, shown⟩ := genuine.readable
  have modified := modify_of_requested parsers shown fun kind _ => BuiltIn.requested_of_readable readable kind
  simp only [fill, Traced.outcome_bind, modified, Fault.ok_bind]
  exact ⟨_, rfl, dress_bears _ _ _ _ _⟩

variable (customs : engine.registry.Genuine)

include customs

private theorem lookupAlternative_of_brief {alternative : Text} (brief : Brief alternative) :
    (∀ base, engine.Accepts alternative base → ∃ found,
        (engine.lookupAlternative alternative).outcome = .ok found ∧ found.matcher.isEmpty = false ∧
          base.found.Bears found) ∧
      ((∀ base, ¬engine.Accepts alternative base) →
        (engine.lookupAlternative alternative).outcome = .ok .nothing) := by
  constructor
  · intro base accepts
    obtain ⟨order, reads, rfl⟩ := (accepts_iff brief base).1 accepts
    have genuine := reads.genuine customs
    obtain ⟨found, filled, bears⟩ := fill_bears parsers genuine fun token member =>
      Modifier.not_unreadable_of_brief (reads.brief brief token member)
    rw [lookupAlternative_of_reads reads]
    exact ⟨found, filled, bears.notEmpty genuine.notEmpty, bears⟩
  · intro refused
    rw [lookupAlternative_outcome]
    cases read : engine.order? alternative with
    | error fault =>
        obtain ⟨digits, overflows, _⟩ := (order?_eq_error_iff alternative fault).1 read
        exact absurd overflows (not_overflows brief)
    | ok order? =>
        cases order? with
        | none => rfl
        | some order =>
            have reads := (order?_eq_some_iff alternative order).1 read
            exact absurd ((accepts_iff brief order.base).2 ⟨order, reads, rfl⟩) (refused order.base)

/-! ### A whole spec -/

/-- The first alternative of the language decides. -/
theorem lookup_of_first {spec alternative : Text} {before after : List Text} {base : Base} (brief : Brief spec)
    (split : cut '?' spec = before ++ alternative :: after)
    (refused : ∀ earlier ∈ before, ∀ other, ¬engine.Accepts earlier other)
    (accepts : engine.Accepts alternative base) :
    ∃ found, (engine.lookup spec).outcome = .ok found ∧ found.matcher.isEmpty = false ∧
      base.found.Bears found := by
  have briefPiece : ∀ piece ∈ before ++ alternative :: after, Brief piece := fun piece member =>
    brief.part (Text.infix_of_mem_cut (split ▸ member))
  obtain ⟨found, looked, notEmpty, bears⟩ :=
    (lookupAlternative_of_brief parsers customs (briefPiece alternative (by simp))).1 base accepts
  have passed : ∀ earlier ∈ before, ∃ found, (engine.lookupAlternative earlier).outcome = .ok found ∧
      found.matcher.isEmpty = true := by
    intro earlier member
    have briefEarlier := briefPiece earlier (List.mem_append_left _ member)
    exact ⟨_, (lookupAlternative_of_brief parsers customs briefEarlier).2 (refused earlier member), rfl⟩
  have ends : Ends (.ok found) := fun _ same => Except.ok.inj same ▸ notEmpty
  exact ⟨found, (lookup_outcome_iff ends spec).2 ⟨alternative, ⟨before, after, split, passed⟩, looked⟩,
    notEmpty, bears⟩

omit parsers customs in
theorem lookup_of_brief {spec : Text} (brief : Brief spec) : ∃ found, (engine.lookup spec).outcome = .ok found := by
  cases looked : (engine.lookup spec).outcome with
  | ok found => exact ⟨found, rfl⟩
  | error fault =>
      obtain ⟨digits, ⟨alternative, ⟨before, after, split, _⟩, overflows⟩, _⟩ :=
        (lookup_eq_error_iff spec fault).1 looked
      have member : alternative ∈ cut '?' spec := by rw [split]; simp
      exact absurd overflows (not_overflows (brief.part (Text.infix_of_mem_cut member)))

omit parsers customs in
private theorem exists_first {Item : Type} {holds : Item → Prop} {items : List Item}
    (some : ∃ item ∈ items, holds item) :
    ∃ before item after, items = before ++ item :: after ∧ (∀ earlier ∈ before, ¬holds earlier) ∧
      holds item := by
  induction items with
  | nil =>
      obtain ⟨item, member, _⟩ := some
      cases member
  | cons first others ih =>
      by_cases here : holds first
      · exact ⟨[], first, others, rfl, fun _ member => absurd member List.not_mem_nil, here⟩
      · obtain ⟨item, member, held⟩ := some
        have later := (List.mem_cons.1 member).resolve_left fun same => here (same ▸ held)
        obtain ⟨before, item, after, rfl, silent, held⟩ := ih ⟨item, later, held⟩
        exact ⟨first :: before, item, after, rfl, List.forall_mem_cons.2 ⟨here, silent⟩, held⟩

/-- A spec without long runs of digits always has an answer, and finds an item exactly if one of its
alternatives is of the language. What it finds bears the base of the first such alternative. -/
theorem lookup_language {spec : Text} (brief : Brief spec) :
    ∃ found, (engine.lookup spec).outcome = .ok found ∧
      (found.matcher.isEmpty = false ↔ ∃ alternative ∈ cut '?' spec, ∃ base, engine.Accepts alternative base) ∧
      ∀ before alternative after base, cut '?' spec = before ++ alternative :: after →
        (∀ earlier ∈ before, ∀ other, ¬engine.Accepts earlier other) → engine.Accepts alternative base →
        base.found.Bears found := by
  obtain ⟨found, looked⟩ : ∃ found, (engine.lookup spec).outcome = .ok found := lookup_of_brief brief
  have first : ∀ before alternative after base, cut '?' spec = before ++ alternative :: after →
      (∀ earlier ∈ before, ∀ other, ¬engine.Accepts earlier other) → engine.Accepts alternative base →
      found.matcher.isEmpty = false ∧ base.found.Bears found := by
    intro before alternative after base split refused accepts
    obtain ⟨other, lookedOther, given⟩ := lookup_of_first parsers customs brief split refused accepts
    cases looked.symm.trans lookedOther
    exact given
  refine ⟨found, looked, ⟨?_, ?_⟩, fun before alternative after base split refused accepts =>
    (first before alternative after base split refused accepts).2⟩
  · intro notEmpty
    obtain ⟨order, _, @⟨alternative, ⟨before, after, split, _⟩, _, reads⟩, _⟩ := lookup_orders looked notEmpty
    have member : alternative ∈ cut '?' spec := by rw [split]; simp
    exact ⟨alternative, member, order.base,
      (accepts_iff (brief.part (Text.infix_of_mem_cut member)) _).2 ⟨order, reads, rfl⟩⟩
  · intro accepted
    obtain ⟨before, alternative, after, split, refused, base, accepts⟩ := exists_first accepted
    have refusedAll : ∀ earlier ∈ before, ∀ other, ¬engine.Accepts earlier other :=
      fun earlier member other accepts => refused earlier member ⟨other, accepts⟩
    exact (first before alternative after base split refusedAll accepts).1

omit parsers customs

/-- Gems in their second spelling, behind an alternative that names air. -/
theorem lookup_language_gems :
    let engine := offering .gems BuiltIn.all
    let spec := "air 3?Vault:Gems:9  sharpness: flag:none name:\"?paper".toList
    let alternative := "Vault:Gems:9  sharpness: flag:none name:\"".toList
    Brief spec ∧ cut '?' spec = ["air 3".toList] ++ alternative :: ["paper".toList] ∧
      (∀ base, ¬engine.Accepts "air 3".toList base) ∧
      engine.Accepts alternative (.item CustomItem.gems.handle) ∧
      ∃ found, (engine.lookup spec).outcome = .ok found ∧ found.matcher.isEmpty = false ∧
        (Base.item CustomItem.gems.handle).found.Bears found := by
  intro engine spec alternative
  have brief : Brief spec := Text.brief_of_length (by decide +kernel)
  have split : cut '?' spec = ["air 3".toList] ++ alternative :: ["paper".toList] := by decide +kernel
  have refused : ∀ base, ¬engine.Accepts "air 3".toList base := by
    rintro base ⟨_, denotes⟩
    have isName : naming "air 3".toList = "air".toList := by decide +kernel
    have single : cut ':' (lower "air".toList) = ["air".toList] := by decide +kernel
    have unresolved : engine.resolve "air".toList = none := by decide +kernel
    rw [isName] at denotes
    cases denotes with
    | material whole resolved solid => cases unresolved.symm.trans resolved
    | item parts bound => cases single.symm.trans parts
    | materialAmount parts unbound resolved solid number => cases single.symm.trans parts
    | itemAmount parts bound number => cases single.symm.trans parts
  have isKey : naming alternative = "Vault:Gems:9".toList := by decide +kernel
  have parts : cut ':' (lower "Vault:Gems:9".toList) = ["vault".toList, "gems".toList, "9".toList] := by
    decide +kernel
  have number : Number.read "9".toList = .ok (some 9) := by decide +kernel
  have accepts : engine.Accepts alternative (.item CustomItem.gems.handle) := by
    refine ⟨by rw [isKey]; decide, ?_⟩
    rw [isKey]
    exact .itemAmount parts rfl number
  obtain ⟨found, looked, notEmptyIff, first⟩ :=
    lookup_language rfl (offering_genuine .gems BuiltIn.all) brief
  have member : alternative ∈ cut '?' spec := by rw [split]; simp
  have notEmpty := notEmptyIff.2 ⟨alternative, member, _, accepts⟩
  exact ⟨brief, split, refused, accepts, found, looked, notEmpty,
    first _ _ _ _ split (List.forall_mem_singleton.2 refused) accepts⟩

end Engine

end ItemSpec

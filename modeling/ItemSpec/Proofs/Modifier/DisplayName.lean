import ItemSpec.Modifier.DisplayName
set_option autoImplicit false

/-! Display names as texts ask for them. A name can begin where the text begins or behind a blank; of
the quoted names the leftmost is meant, and without a quoted name the leftmost bare one. -/

namespace ItemSpec.Modifier.DisplayName

private theorem takeWhile_eq_iff (inside : Char → Bool) (text body : Text) :
    text.takeWhile inside = body ↔
      ∃ rest, text = body ++ rest ∧ (∀ letter ∈ body, inside letter = true) ∧
        ∀ letter, rest.head? = some letter → inside letter = false := by
  constructor
  · rintro rfl
    refine ⟨text.dropWhile inside, List.takeWhile_append_dropWhile.symm,
      List.all_eq_true.1 List.all_takeWhile, ?_⟩
    intro letter first
    simpa [first] using List.head?_dropWhile_not inside text
  · rintro ⟨rest, rfl, every, boundary⟩
    rw [List.takeWhile_append_of_pos every]
    cases rest with
    | nil => simp
    | cons letter others =>
        have outside : ¬inside letter = true := by simp [boundary letter rfl]
        rw [List.takeWhile_cons_of_neg outside, List.append_nil]

def Opened (text rest : Text) : Prop :=
  ∃ head, text = head ++ rest ∧ head.map Char.toLower = opening

def Quoted (text name : Text) : Prop :=
  quoteMark ∉ name ∧ ∃ rest, Opened text (quoteMark :: name ++ quoteMark :: rest)

def isBare (letter : Char) : Bool :=
  !Text.isBlank letter && letter ≠ quoteMark

/-- A text begins with a bare name, which ends where no letter of it can follow. -/
def Bare (text name : Text) : Prop :=
  name ≠ [] ∧ (∀ letter ∈ name, isBare letter = true) ∧
    ∃ rest, Opened text (name ++ rest) ∧ ∀ letter, rest.head? = some letter → isBare letter = false

/-- A name in a form begins at a place of a text: at its start or behind a blank. -/
def Begins (form : Text → Text → Prop) (text : Text) : Nat → Text → Prop
  | 0, name => form text name
  | place + 1, name =>
    (∃ blank, text[place]? = some blank ∧ Text.isBlank blank = true) ∧
      form (text.drop (place + 1)) name

/-- The leftmost name in a form. -/
def Leftmost (form : Text → Text → Prop) (text name : Text) : Prop :=
  ∃ place, Begins form text place name ∧ ∀ earlier < place, ∀ other, ¬Begins form text earlier other

def Asks (text name : Text) : Prop :=
  Leftmost Quoted text name ∨
    (∀ place other, ¬Begins Quoted text place other) ∧ Leftmost Bare text name

/-! ### One name -/

private theorem behindOpening?_eq_some_iff (text rest : Text) :
    behindOpening? text = some rest ↔ Opened text rest := by
  unfold behindOpening?
  constructor
  · intro found
    split at found
    · rename_i opened
      cases found
      exact ⟨text.take opening.length, (List.take_append_drop _ _).symm, opened⟩
    · cases found
  · rintro ⟨head, rfl, opened⟩
    have length : head.length = opening.length := by rw [← opened, List.length_map]
    simp only [← length, List.take_left', List.drop_left', opened, if_true]

private theorem quoted?_eq_some_iff (text name : Text) : quoted? text = some name ↔ Quoted text name := by
  constructor
  · intro found
    unfold quoted? at found
    split at found
    · rename_i mark rest behind
      split at found
      · rename_i closed
        have opened := (behindOpening?_eq_some_iff text (mark :: rest)).1 behind
        obtain ⟨tail, split, inside, boundary⟩ :=
          (takeWhile_eq_iff (fun letter => decide (letter ≠ quoteMark)) rest name).1
            (Option.some.inj found)
        have unquoted : quoteMark ∉ name := by
          intro member
          simpa using inside quoteMark member
        cases tail with
        | nil =>
            rw [List.append_nil] at split
            exact absurd (split ▸ closed.2) unquoted
        | cons next others =>
            have atQuote : next = quoteMark := by simpa using boundary next rfl
            refine ⟨unquoted, others, ?_⟩
            rw [closed.1, split, atQuote] at opened
            exact opened
      · cases found
    · cases found
  · intro ⟨unquoted, rest, opened⟩
    have behind := (behindOpening?_eq_some_iff _ _).2 opened
    simp only [quoted?, behind, List.cons_append]
    have member : quoteMark ∈ name ++ quoteMark :: rest :=
      List.mem_append_right _ List.mem_cons_self
    rw [if_pos ⟨trivial, member⟩]
    refine congrArg some ((takeWhile_eq_iff _ _ _).2 ⟨quoteMark :: rest, rfl, ?_, ?_⟩)
    · intro letter inName
      exact decide_eq_true fun same => unquoted (same ▸ inName)
    · intro letter first
      simpa using (Option.some.inj first).symm

private theorem bare?_eq_some_iff (text name : Text) : bare? text = some name ↔ Bare text name := by
  have cutName : ∀ rest : Text,
      (rest.takeWhile fun letter => !Text.isBlank letter && letter ≠ quoteMark) =
        rest.takeWhile isBare := fun _ => rfl
  unfold bare?
  constructor
  · intro found
    split at found
    · rename_i rest behind
      rw [cutName] at found
      split at found
      · cases found
      · rename_i nonempty
        have taken := Option.some.inj found
        rw [taken] at nonempty
        obtain ⟨tail, rfl, inside, boundary⟩ := (takeWhile_eq_iff isBare rest name).1 taken
        exact ⟨nonempty, inside, tail, (behindOpening?_eq_some_iff _ _).1 behind, boundary⟩
    · cases found
  · intro ⟨nonempty, inside, rest, opened, boundary⟩
    have behind := (behindOpening?_eq_some_iff _ _).2 opened
    have taken := (takeWhile_eq_iff isBare (name ++ rest) name).2 ⟨rest, rfl, inside, boundary⟩
    simp only [behind, cutName, taken]

/-! ### The leftmost name -/

variable {name? : Text → Option Text} {form : Text → Text → Prop}

private theorem afterBlank?_eq_some_iff (reads : ∀ text name, name? text = some name ↔ form text name)
    (text name : Text) :
    afterBlank? name? text = some name ↔
      ∃ place, Begins form text (place + 1) name ∧
        ∀ earlier < place, ∀ other, ¬Begins form text (earlier + 1) other := by
  induction text with
  | nil =>
      constructor
      · intro found
        cases found
      · intro ⟨place, ⟨⟨blank, atPlace, _⟩, _⟩, _⟩
        cases atPlace
  | cons head rest ih =>
      have shifted : ∀ place other,
          Begins form (head :: rest) (place + 2) other ↔ Begins form rest (place + 1) other :=
        fun _ _ => Iff.rfl
      have atHead : ∀ other, Begins form (head :: rest) 1 other ↔
          Text.isBlank head = true ∧ name? rest = some other := by
        intro other
        simp [Begins, reads]
      have later : (∀ other, ¬Begins form (head :: rest) 1 other) →
          (afterBlank? name? rest = some name ↔
            ∃ place, Begins form (head :: rest) (place + 1) name ∧
              ∀ earlier < place, ∀ other, ¬Begins form (head :: rest) (earlier + 1) other) := by
        intro notHere
        rw [ih]
        constructor
        · intro ⟨place, begins, first⟩
          refine ⟨place + 1, begins, ?_⟩
          intro earlier before other
          cases earlier with
          | zero => exact notHere other
          | succ earlier => exact first earlier (by omega) other
        · intro ⟨place, begins, first⟩
          cases place with
          | zero => exact absurd begins (notHere name)
          | succ place =>
              exact ⟨place, begins, fun earlier before => first (earlier + 1) (by omega)⟩
      unfold afterBlank?
      split
      · rename_i blank
        cases here : name? rest with
        | none =>
            refine later fun other begins => ?_
            rw [((atHead other).1 begins).2] at here
            cases here
        | some foundHere =>
            constructor
            · intro same
              cases same
              exact ⟨0, (atHead name).2 ⟨blank, here⟩, fun earlier before => absurd before (by omega)⟩
            · intro ⟨place, begins, first⟩
              cases place with
              | zero => exact here.symm.trans ((atHead name).1 begins).2
              | succ place =>
                  exact absurd ((atHead foundHere).2 ⟨blank, here⟩) (first 0 (by omega) foundHere)
      · rename_i letter
        exact later fun other begins => letter ((atHead other).1 begins).1

private theorem first?_eq_some_iff (reads : ∀ text name, name? text = some name ↔ form text name)
    (text name : Text) : first? name? text = some name ↔ Leftmost form text name := by
  unfold first?
  cases here : name? text with
  | some foundHere =>
      constructor
      · intro same
        cases same
        exact ⟨0, (reads text name).1 here, fun earlier before => absurd before (by omega)⟩
      · intro ⟨place, begins, first⟩
        cases place with
        | zero => exact here.symm.trans ((reads text name).2 begins)
        | succ place => exact absurd ((reads text foundHere).1 here) (first 0 (by omega) foundHere)
  | none =>
      have notHere : ∀ other, ¬Begins form text 0 other := by
        intro other begins
        rw [(reads text other).2 begins] at here
        cases here
      rw [Option.none_or, afterBlank?_eq_some_iff reads]
      constructor
      · intro ⟨place, begins, first⟩
        refine ⟨place + 1, begins, ?_⟩
        intro earlier before other
        cases earlier with
        | zero => exact notHere other
        | succ earlier => exact first earlier (by omega) other
      · intro ⟨place, begins, first⟩
        cases place with
        | zero => exact absurd begins (notHere name)
        | succ place => exact ⟨place, begins, fun earlier before => first (earlier + 1) (by omega)⟩

theorem wanted?_eq_some_iff (text name : Text) : wanted? text = some name ↔ Asks text name := by
  have noQuoted : first? quoted? text = none ↔ ∀ place other, ¬Begins Quoted text place other := by
    constructor
    · intro absent place
      induction place using Nat.strongRecOn with
      | ind place ih =>
          intro other begins
          have leftmost := (first?_eq_some_iff quoted?_eq_some_iff text other).2 ⟨place, begins, ih⟩
          rw [absent] at leftmost
          cases leftmost
    · intro none
      cases found : first? quoted? text with
      | none => rfl
      | some other =>
          obtain ⟨place, begins, _⟩ := (first?_eq_some_iff quoted?_eq_some_iff text other).1 found
          exact absurd begins (none place other)
  rw [wanted?, Asks, ← noQuoted, ← first?_eq_some_iff quoted?_eq_some_iff,
    ← first?_eq_some_iff bare?_eq_some_iff]
  cases first? quoted? text with
  | none => simp
  | some quoted => simp

end ItemSpec.Modifier.DisplayName

import ItemSpec.Text.Basic
import Mathlib.Data.List.DropRight
set_option autoImplicit false

/-! Tokens written with single spaces between them. Cut at the spaces they come back as they were, but
for empty tokens at the end. -/

namespace ItemSpec.Text

/-- A text that stands in a spec as one token. -/
def IsToken (text : Text) : Prop :=
  ' ' ∉ text ∧ '?' ∉ text

def IsPart (text : Text) : Prop :=
  ':' ∉ text ∧ IsToken text

instance (text : Text) : Decidable (IsToken text) :=
  inferInstanceAs (Decidable (' ' ∉ text ∧ '?' ∉ text))

instance (text : Text) : Decidable (IsPart text) :=
  inferInstanceAs (Decidable (':' ∉ text ∧ IsToken text))

theorem IsToken.append_colon {front back : Text} (properFront : IsToken front)
    (properBack : IsToken back) : IsToken (front ++ ':' :: back) := by
  simp only [IsToken, List.mem_append, List.mem_cons, not_or]
  exact ⟨⟨properFront.1, by decide, properBack.1⟩, properFront.2, by decide, properBack.2⟩

def spaced (tokens : List Text) : Text :=
  join [' '] tokens

/-- The tokens up to the last one that is not empty. -/
def unpadded (tokens : List Text) : List Text :=
  tokens.rdropWhile List.isEmpty

private theorem unpadded_concat_nil (tokens : List Text) : unpadded (tokens ++ [[]]) = unpadded tokens :=
  List.rdropWhile_concat_pos _ tokens [] rfl

private theorem unpadded_concat {last : Text} (notEmpty : last ≠ []) (tokens : List Text) :
    unpadded (tokens ++ [last]) = tokens ++ [last] := by
  refine List.rdropWhile_concat_neg _ tokens last ?_
  rw [List.isEmpty_iff]
  exact notEmpty

theorem unpadded_cons {first : Text} {others : List Text} (kept : first ≠ [] ∨ unpadded others ≠ []) :
    unpadded (first :: others) = first :: unpadded others := by
  induction others using List.reverseRecOn with
  | nil =>
      rcases kept with notEmpty | impossible
      · exact unpadded_concat notEmpty []
      · exact absurd rfl impossible
  | append_singleton others last ih =>
      rw [← List.cons_append]
      by_cases padding : last = []
      · rw [padding, unpadded_concat_nil] at kept
        rw [padding, unpadded_concat_nil, unpadded_concat_nil, ih kept]
      · rw [unpadded_concat padding, unpadded_concat padding, List.cons_append]

theorem head?_unpadded (tokens : List Text) :
    unpadded tokens = [] ∨ (unpadded tokens).head? = tokens.head? := by
  cases kept : unpadded tokens with
  | nil => exact .inl rfl
  | cons first others =>
      obtain ⟨dropped, split⟩ := List.rdropWhile_prefix List.isEmpty tokens
      rw [show tokens.rdropWhile List.isEmpty = first :: others from kept] at split
      rw [← split]
      exact .inr rfl

/-- Cutting undoes the writing of tokens, where not all of them are empty. -/
theorem cut_spaced {tokens : List Text} (proper : ∀ token ∈ tokens, IsToken token)
    (notEmpty : unpadded tokens ≠ []) :
    cut ' ' (dropTrailing ' ' (spaced tokens)) = unpadded tokens := by
  induction tokens using List.reverseRecOn with
  | nil => exact absurd rfl notEmpty
  | append_singleton tokens last ih =>
      by_cases padding : last = []
      · rw [padding, unpadded_concat_nil] at notEmpty ⊢
        have properTokens : ∀ token ∈ tokens, IsToken token :=
          fun token member => proper token (List.mem_append_left _ member)
        have some : tokens ≠ [] := fun none => notEmpty (by rw [none]; rfl)
        rw [← ih properTokens notEmpty, spaced, join_concat _ _ some, List.append_nil,
          dropTrailing_concat_trailing, spaced]
      · have wholeLast : ' ' ∉ last :=
          (proper last (List.mem_append_right _ (List.mem_singleton_self last))).1
        have kept : dropTrailing ' ' (spaced (tokens ++ [last])) = spaced (tokens ++ [last]) := by
          cases tokens with
          | nil => exact dropTrailing_of_not_mem wholeLast
          | cons token others =>
              rw [spaced, join_concat _ _ (List.cons_ne_nil token others)]
              exact dropTrailing_append_of_not_mem padding wholeLast _
        rw [kept, unpadded_concat padding, spaced, cut_join (by simp) fun token member => (proper token member).1]

theorem cut_spaced_cons {first : Text} {others : List Text} (proper : ∀ token ∈ first :: others, IsToken token)
    (kept : first ≠ [] ∨ unpadded others ≠ []) :
    cut ' ' (dropTrailing ' ' (spaced (first :: others))) = first :: unpadded others := by
  have split : unpadded (first :: others) = first :: unpadded others := unpadded_cons kept
  rw [cut_spaced proper (by rw [split]; exact List.cons_ne_nil _ _), split]

theorem question_not_mem_spaced {tokens : List Text} (proper : ∀ token ∈ tokens, IsToken token) :
    '?' ∉ spaced tokens :=
  not_mem_join (by decide) fun token member => (proper token member).2

/-! ### Tokens before a text -/

def leading (tokens : List Text) : Text :=
  tokens.flatMap (· ++ [' '])

theorem spaced_append (tokens : List Text) {others : List Text} (notEmpty : others ≠ []) :
    spaced (tokens ++ others) = leading tokens ++ spaced others := by
  induction tokens with
  | nil => rfl
  | cons token tokens ih =>
      rw [leading, List.flatMap_cons, List.append_assoc, ← leading, ← ih]
      cases tail : tokens ++ others with
      | nil => exact absurd tail (List.append_ne_nil_of_right_ne_nil tokens notEmpty)
      | cons next later =>
          rw [List.cons_append, tail]
          rfl

theorem spaced_append_cut (tokens : List Text) (text : Text) :
    spaced (tokens ++ cut ' ' text) = leading tokens ++ text := by
  rw [spaced_append tokens (cut_ne_nil ' ' text), spaced, join_cut]

theorem cut_leading {tokens : List Text} (whole : ∀ token ∈ tokens, ' ' ∉ token) (text : Text) :
    cut ' ' (leading tokens ++ text) = tokens ++ cut ' ' text := by
  induction tokens with
  | nil => rfl
  | cons token others ih =>
      obtain ⟨wholeToken, wholeOthers⟩ := List.forall_mem_cons.1 whole
      rw [leading, List.flatMap_cons, List.append_assoc, List.append_assoc, ← leading, List.singleton_append,
        cut_append wholeToken, ih wholeOthers, List.cons_append]

theorem leading_eq (tokens : List Text) : leading tokens = [] ∨ ∃ before, leading tokens = before ++ [' '] := by
  induction tokens using List.reverseRecOn with
  | nil => exact .inl rfl
  | append_singleton tokens last _ =>
      refine .inr ⟨leading tokens ++ last, ?_⟩
      simp only [leading, List.flatMap_append, List.flatMap_cons, List.flatMap_nil, List.append_nil,
        List.append_assoc]

theorem not_mem_leading {letter : Char} (apart : letter ≠ ' ') {tokens : List Text}
    (absent : ∀ token ∈ tokens, letter ∉ token) : letter ∉ leading tokens := by
  intro member
  obtain ⟨token, isToken, inToken⟩ := List.mem_flatMap.1 member
  rcases List.mem_append.1 inToken with here | space
  · exact absent token isToken here
  · exact apart (List.mem_singleton.1 space)

end ItemSpec.Text

import ItemSpec.Proofs.Modifier.BuiltIn
set_option autoImplicit false

/-! Runs of the library's parsers as sets. Parsers of two kinds write apart from each other, and a parser
that is run again writes what is there already. What a run leaves behind is therefore a matter of the kinds
that take part in it, not of their order or their number. -/

namespace ItemSpec

private theorem Levels.update_update_self (levels required : Levels) :
    (levels.update required).update required = levels.update required := by
  refine Levels.ext (funext fun sought => ?_)
  rw [level?_update, level?_update]
  cases required.level? sought <;> rfl

private theorem FlagSet.union_union_self (flags required : FlagSet) :
    (flags.union required).union required = flags.union required := by
  refine FlagSet.ext (funext fun sought => ?_)
  rw [has_union, has_union, Bool.or_assoc, Bool.or_self]

namespace Modifier.BuiltIn

/-! ### Two parsers -/

private theorem rule_write_write_self (kind : BuiltIn) (request : kind.Request) (data : Meta) :
    kind.rule.write request (kind.rule.write request data) = kind.rule.write request data := by
  cases kind with
  | enchantment => exact congrArg (fun enchants => { data with enchants }) (data.enchants.update_update_self request)
  | modelData => rfl
  | unbreakable => rfl
  | flag => exact congrArg (fun flags => { data with flags }) (data.flags.union_union_self request)
  | displayName => rfl

private theorem rule_write_comm {kind other : BuiltIn} (different : kind ≠ other) (request : kind.Request)
    (written : other.Request) (data : Meta) :
    kind.rule.write request (other.rule.write written data) =
      other.rule.write written (kind.rule.write request data) := by
  cases kind <;> cases other <;> first | rfl | exact absurd rfl different

variable (tokens : List Text) (data : Meta)

private theorem write_write_self (kind : BuiltIn) :
    write tokens (write tokens data kind) kind = write tokens data kind := by
  unfold write
  cases kind.asked tokens with
  | none => rfl
  | some request => exact kind.rule_write_write_self request data

private theorem write_comm (kind other : BuiltIn) :
    write tokens (write tokens data kind) other = write tokens (write tokens data other) kind := by
  by_cases same : kind = other
  · rw [same]
  unfold write
  cases kind.asked tokens with
  | none => rfl
  | some request =>
      cases other.asked tokens with
      | none => rfl
      | some written => exact (rule_write_comm same request written data).symm

/-! ### Runs -/

private theorem writeAll_write (kinds : List BuiltIn) (kind : BuiltIn) :
    writeAll kinds tokens (write tokens data kind) = write tokens (writeAll kinds tokens data) kind := by
  induction kinds generalizing data with
  | nil => rfl
  | cons first rest ih =>
      simp only [writeAll, List.foldl_cons] at ih ⊢
      rw [write_comm, ih]

private theorem writeAll_write_of_mem {kinds : List BuiltIn} {kind : BuiltIn} (member : kind ∈ kinds) :
    writeAll kinds tokens (write tokens data kind) = writeAll kinds tokens data := by
  obtain ⟨before, after, rfl⟩ := List.append_of_mem member
  simp only [writeAll, List.foldl_append, List.foldl_cons]
  have moved : before.foldl (write tokens) (write tokens data kind) =
      write tokens (before.foldl (write tokens) data) kind := writeAll_write tokens data before kind
  rw [moved, write_write_self]

private theorem writeAll_writeAll_of_subset {kinds others : List BuiltIn}
    (inside : ∀ kind ∈ others, kind ∈ kinds) :
    writeAll kinds tokens (writeAll others tokens data) = writeAll kinds tokens data := by
  induction others generalizing data with
  | nil => rfl
  | cons first rest ih =>
      obtain ⟨member, insideRest⟩ := List.forall_mem_cons.1 inside
      exact (ih (write tokens data first) insideRest).trans (writeAll_write_of_mem tokens data member)

private theorem writeAll_comm (kinds others : List BuiltIn) :
    writeAll kinds tokens (writeAll others tokens data) =
      writeAll others tokens (writeAll kinds tokens data) := by
  induction others generalizing data with
  | nil => rfl
  | cons first rest ih =>
      have step : ∀ start, writeAll (first :: rest) tokens start =
          writeAll rest tokens (write tokens start first) := fun _ => rfl
      rw [step, step, ih, writeAll_write]

/-- Runs of the same kinds leave the same metadata behind. -/
theorem writeAll_eq_of_same {kinds others : List BuiltIn} (same : ∀ kind, kind ∈ kinds ↔ kind ∈ others) :
    writeAll kinds tokens data = writeAll others tokens data := by
  rw [← writeAll_writeAll_of_subset tokens data fun kind => (same kind).2, writeAll_comm,
    writeAll_writeAll_of_subset tokens data fun kind => (same kind).1]

/-! ### Tests -/

theorem added_flatMap_eq_nil_iff (kinds : List BuiltIn) :
    kinds.flatMap (added tokens) = [] ↔ ∀ kind ∈ kinds, kind.asked tokens = none := by
  rw [List.flatMap_eq_nil_iff]
  refine forall₂_congr fun kind _ => ?_
  rw [added, List.map_eq_nil_iff]
  exact Option.toList_eq_nil_iff

theorem all_added_eq_of_same {kinds others : List BuiltIn} (same : ∀ kind, kind ∈ kinds ↔ kind ∈ others)
    (stack : Stack) :
    Test.all (kinds.flatMap (added tokens)) (.stack stack) =
      Test.all (others.flatMap (added tokens)) (.stack stack) := by
  obtain ⟨verdict, decided, verdictIff⟩ := all_added_ok kinds tokens stack
  obtain ⟨otherVerdict, otherDecided, otherIff⟩ := all_added_ok others tokens stack
  rw [decided, otherDecided, Except.ok.injEq, Bool.eq_iff_iff, verdictIff, otherIff]
  simp only [same]

end Modifier.BuiltIn

end ItemSpec

/-!
# Replacing text

Replacing every occurrence of a name, from left to right and without overlaps.
-/

namespace RangeServer.Replace

/-- The text with `value` for each occurrence of `name`, its first `skip` characters being the rest
of an occurrence that was replaced already. -/
def go (name value : List Char) : Nat → List Char → List Char
  | _, [] => []
  | skip + 1, _ :: rest => go name value skip rest
  | 0, c :: rest =>
    if name.isPrefixOf (c :: rest) then value ++ go name value (name.length - 1) rest
    else c :: go name value 0 rest

/-- The text with `value` for each occurrence of `name`. -/
def all (name value text : List Char) : List Char := go name value 0 text

theorem go_drop (name value : List Char) (front rest : List Char) :
    go name value front.length (front ++ rest) = go name value 0 rest := by
  induction front with
  | nil => rfl
  | cons c front ih => exact ih

theorem go_of_prefix {name : List Char} (notEmpty : name ≠ []) (value rest : List Char) :
    go name value 0 (name ++ rest) = value ++ go name value 0 rest := by
  cases name with
  | nil => exact absurd rfl notEmpty
  | cons c tail =>
    have isPrefix : (c :: tail).isPrefixOf (c :: (tail ++ rest)) = true :=
      List.isPrefixOf_iff_prefix.mpr ⟨rest, rfl⟩
    rw [List.cons_append, go, if_pos isPrefix]
    exact congrArg (value ++ ·) (go_drop (c :: tail) value tail rest)

theorem go_of_not_prefix {name : List Char} {c : Char} {rest : List Char}
    (notPrefix : ¬name <+: c :: rest) (value : List Char) :
    go name value 0 (c :: rest) = c :: go name value 0 rest := by
  rw [go, if_neg]
  intro isPrefix
  exact notPrefix (List.isPrefixOf_iff_prefix.mp isPrefix)

/-- Text at none of whose places the name starts is copied. -/
theorem go_append {name text rest : List Char}
    (notFound : ∀ behind, behind <:+ text → behind ≠ [] → ¬name <+: behind ++ rest)
    (value : List Char) :
    go name value 0 (text ++ rest) = text ++ go name value 0 rest := by
  induction text with
  | nil => rfl
  | cons c text ih =>
    have notHere : ¬name <+: c :: (text ++ rest) :=
      notFound (c :: text) (List.suffix_refl _) (List.cons_ne_nil c text)
    have notThere : ∀ behind, behind <:+ text → behind ≠ [] → ¬name <+: behind ++ rest :=
      fun behind ends => notFound behind (ends.trans (List.suffix_cons c text))
    rw [List.cons_append, go_of_not_prefix notHere, ih notThere, List.cons_append]

/-- Nothing comes into a text but from the value. -/
theorem mem_of_mem_go {name value text : List Char} {skip : Nat} {c : Char}
    (mem : c ∈ go name value skip text) : c ∈ value ∨ c ∈ text := by
  induction text generalizing skip with
  | nil => simp [go] at mem
  | cons head rest ih =>
      have further {skip : Nat} (inRest : c ∈ go name value skip rest) :
          c ∈ value ∨ c ∈ head :: rest := (ih inRest).imp_right (List.mem_cons_of_mem head)
      cases skip with
      | succ skip => exact further mem
      | zero =>
          unfold go at mem
          split at mem
          · rcases List.mem_append.mp mem with inValue | inRest
            · exact Or.inl inValue
            · exact further inRest
          · rcases List.mem_cons.mp mem with rfl | inRest
            · exact Or.inr List.mem_cons_self
            · exact further inRest

end RangeServer.Replace

import Mathlib
import RangeServer.Http.Headers

/-!
# Headers in groups

A list of headers and the map that is made of it hold the same headers in two arrangements: the list
in one row with names in any case, the map in groups under names in small letters. One more header
changes the map in one place only, and from that follows what the map of a whole list holds. The
values of a name are those that the list has for it, in their order; the names stand in the order of
their first appearance; and header by header the map is a rearrangement of the list.

A list becomes a map unless one of its headers is refused, and then the first of these decides what
the fault is.
-/

namespace RangeServer

theorem Ascii.sameLetters_iff {left right : String} :
    Ascii.sameLetters left right = true ↔ Ascii.lower left = Ascii.lower right := by
  simp [Ascii.sameLetters]

namespace Headers

variable {Value : Type}

/-! ## One more header -/

theorem values_insertGroup (name other : String) (value : Value)
    (groups : List (String × List Value)) :
    (((insertGroup name value groups).find? (·.1 == other)).map (·.2)).getD [] =
      ((groups.find? (·.1 == other)).map (·.2)).getD [] ++
        if name = other then [value] else [] := by
  induction groups with
  | nil => by_cases same : name = other <;> simp [insertGroup, same]
  | cons group rest ih =>
      rcases group with ⟨first, values⟩
      simp only [insertGroup]
      split
      -- The value joins the group at the front, so only the values of that name change.
      · rename_i isFirst
        rw [beq_iff_eq] at isFirst
        subst isFirst
        by_cases same : first = other <;> simp [same]
      · rename_i notFirst
        rw [beq_iff_eq] at notFirst
        by_cases same : first = other
        · subst same
          simp [Ne.symm notFirst]
        · simpa [same] using ih

theorem names_insertGroup (name : String) (value : Value) (groups : List (String × List Value)) :
    (insertGroup name value groups).map (·.1) =
      groups.map (·.1) ++ if name ∈ groups.map (·.1) then [] else [name] := by
  induction groups with
  | nil => simp [insertGroup]
  | cons group rest ih =>
      rcases group with ⟨first, values⟩
      simp only [insertGroup]
      split
      · rename_i isFirst
        rw [beq_iff_eq] at isFirst
        simp [isFirst]
      · rename_i notFirst
        rw [beq_iff_eq] at notFirst
        simp only [List.map_cons, List.mem_cons, Ne.symm notFirst, false_or, List.cons_append, ih]

theorem perm_insertGroup (name : String) (value : Value) (groups : List (String × List Value)) :
    (Headers.toList ⟨insertGroup name value groups⟩).Perm
      (Headers.toList ⟨groups⟩ ++ [(name, value)]) := by
  induction groups with
  | nil => simp [toList, insertGroup]
  | cons group rest ih =>
      rcases group with ⟨first, values⟩
      simp only [insertGroup]
      split
      · rename_i isFirst
        rw [beq_iff_eq] at isFirst
        subst isFirst
        simp only [toList, List.flatMap_cons, List.map_append, List.map_singleton,
          List.append_assoc]
        exact List.perm_append_comm.append_left _
      · simp only [toList, List.flatMap_cons, List.append_assoc] at ih ⊢
        exact ih.append_left _

theorem values_append (headers : Headers Value) (name other : String) (value : Value) :
    (headers.append name value).values other =
      headers.values other ++ if Ascii.sameLetters name other then [value] else [] := by
  simp only [values, append, values_insertGroup, Ascii.sameLetters_iff]

theorem names_append (headers : Headers Value) (name : String) (value : Value) :
    (headers.append name value).names =
      headers.names ++ if Ascii.lower name ∈ headers.names then [] else [Ascii.lower name] :=
  names_insertGroup _ _ _

theorem perm_append (headers : Headers Value) (name : String) (value : Value) :
    (headers.append name value).toList.Perm
      (headers.toList ++ [(Ascii.lower name, value)]) :=
  perm_insertGroup _ _ _

/-! ## The headers of a list -/

/-- The map of a list of headers, none of them refused. -/
def collect (headers : List (String × Value)) : Headers Value :=
  headers.foldl (fun map header => map.append header.1 header.2) empty

theorem collect_concat (headers : List (String × Value)) (header : String × Value) :
    collect (headers ++ [header]) = (collect headers).append header.1 header.2 := by
  simp [collect]

/-- The values of a name are those that the list has for it, in the same order. -/
theorem values_collect (headers : List (String × Value)) (name : String) :
    (collect headers).values name =
      (headers.filter fun header => Ascii.sameLetters header.1 name).map (·.2) := by
  induction headers using List.reverseRecOn with
  | nil => rfl
  | append_singleton front header ih =>
      rw [collect_concat, values_append, ih, List.filter_append, List.map_append]
      by_cases same : Ascii.sameLetters header.1 name <;> simp [same]

/-- The names stand in the order of their first appearance, each of them once. -/
theorem names_collect (headers : List (String × Value)) :
    (collect headers).names =
      (headers.map fun header => Ascii.lower header.1).eraseDups := by
  induction headers using List.reverseRecOn with
  | nil => rfl
  | append_singleton front header ih =>
      rw [collect_concat, names_append, ih, List.map_append, List.eraseDups_append]
      by_cases known : Ascii.lower header.1 ∈ front.map fun header => Ascii.lower header.1
      · simp [List.mem_eraseDups, known, List.removeAll]
      · simp [List.mem_eraseDups, known, List.removeAll, List.eraseDups_cons]

/-- No header is lost, and none is added. -/
theorem perm_collect (headers : List (String × Value)) :
    (collect headers).toList.Perm
      (headers.map fun header => (Ascii.lower header.1, header.2)) := by
  induction headers using List.reverseRecOn with
  | nil => rfl
  | append_singleton front header ih =>
      rw [collect_concat, List.map_append]
      exact (perm_append _ _ _).trans (ih.append_right _)

/-! ## Headers that are refused -/

theorem appendAll_eq (isValue : Value → Bool) (map : Headers Value)
    (headers : List (String × Value)) :
    appendAll isValue map headers =
      match headers.findSome? (fault? isValue) with
      | some fault => .error fault
      | none => .ok (headers.foldl (fun map header => map.append header.1 header.2) map) := by
  induction headers generalizing map with
  | nil => rfl
  | cons header rest ih =>
      rw [appendAll, List.findSome?_cons]
      cases fault : fault? isValue header with
      | some reason => rfl
      | none => exact ih _

/-- The map of a list is that of all its headers, unless one of them is refused. -/
theorem ofList_eq (isValue : Value → Bool) (headers : List (String × Value)) :
    ofList isValue headers =
      match headers.findSome? (fault? isValue) with
      | some fault => .error fault
      | none => .ok (collect headers) :=
  appendAll_eq isValue empty headers

end Headers

end RangeServer

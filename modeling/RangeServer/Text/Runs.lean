/-!
# Runs

The items of a class that stand at the front of a list, up to the first that is not in the class.
Readers take a run and go on with what is left. A run that is put in front of something else is
taken off again, provided that the rest starts with no more of it.
-/

namespace RangeServer

variable {Item : Type} {isIn : Item → Bool} {run rest : List Item}

/-- What is left of a list starts with no more of the run that was taken off. -/
theorem not_of_mem_head?_dropWhile {item : Item} (mem : item ∈ (rest.dropWhile isIn).head?) :
    isIn item = false := by
  have stops := List.head?_dropWhile_not isIn rest
  rwa [Option.mem_def.mp mem] at stops

theorem stops_cons {item : Item} (outside : isIn item = false) (rest : List Item) :
    ∀ other ∈ (item :: rest).head?, isIn other = false := by
  rintro other ⟨⟩
  exact outside

theorem dropWhile_of_stops (stops : ∀ item ∈ rest.head?, isIn item = false) :
    rest.dropWhile isIn = rest := by
  cases rest with
  | nil => rfl
  | cons item others => simp [stops item rfl]

theorem span_append (inside : ∀ item ∈ run, isIn item = true)
    (stops : ∀ item ∈ rest.head?, isIn item = false) :
    (run ++ rest).takeWhile isIn = run ∧ (run ++ rest).dropWhile isIn = rest := by
  rw [List.takeWhile_append_of_pos inside, List.dropWhile_append_of_pos inside]
  refine ⟨?_, dropWhile_of_stops stops⟩
  cases rest with
  | nil => simp
  | cons item others => simp [stops item rfl]

theorem span_append_cons (inside : ∀ item ∈ run, isIn item = true) {stop : Item}
    (outside : isIn stop = false) (rest : List Item) :
    (run ++ stop :: rest).takeWhile isIn = run ∧
      (run ++ stop :: rest).dropWhile isIn = stop :: rest :=
  span_append inside (stops_cons outside rest)

end RangeServer

/-!
# Lists of entries

Connections are kept under their numbers and settings under their names, each in a list of pairs. A
key is looked up from the front of such a list, and where no key stands twice this finds whatever
stands under it.
-/

namespace RangeServer

variable {Key Value : Type} [BEq Key] [LawfulBEq Key] {key : Key} {value : Value}
  {entries : List (Key × Value)}

theorem mem_of_lookup (found : entries.lookup key = some value) : (key, value) ∈ entries := by
  rcases List.lookup_eq_some_iff.mp found with ⟨earlier, later, parted, -⟩
  simp [parted]

theorem lookup_of_mem (distinct : (entries.map (·.1)).Nodup) (mem : (key, value) ∈ entries) :
    entries.lookup key = some value := by
  rcases List.append_of_mem mem with ⟨earlier, later, parted⟩
  rw [List.lookup_eq_some_iff]
  refine ⟨earlier, later, parted, ?_⟩
  intro entry isEarlier
  rw [parted, List.map_append, List.map_cons, List.nodup_append] at distinct
  have differ := distinct.2.2 entry.1 (List.mem_map_of_mem isEarlier) key List.mem_cons_self
  exact bne_iff_ne.mpr differ.symm

theorem lookup_eq_none_of_not_mem (missing : key ∉ entries.map (·.1)) :
    entries.lookup key = none := by
  rw [List.lookup_eq_none_iff]
  intro entry mem
  refine bne_iff_ne.mpr ?_
  rintro rfl
  exact missing (List.mem_map_of_mem mem)

end RangeServer

/-! # Fields joined by a separator

Fields that may contain the separator are not recovered from the joined list, but
their pieces are: what lies between two separators, of a field or of the join.
-/
namespace SeparatorJoin

variable {α : Type} [DecidableEq α] {sep : α} {fields others : List (List α)}

/-- The pieces that a separator cuts some fields into. -/
def pieces (sep : α) (fields : List (List α)) : List (List α) := fields.flatMap (·.splitOn sep)

theorem pieces_append (fields others : List (List α)) :
    pieces sep (fields ++ others) = pieces sep fields ++ pieces sep others :=
  List.flatMap_append

/-- The pieces of the joined fields are the pieces of the fields. -/
theorem splitOn_intercalate (hne : fields ≠ []) :
    ([sep].intercalate fields).splitOn sep = pieces sep fields := by
  induction fields with
  | nil => exact absurd rfl hne
  | cons field rest ih =>
    cases rest with
    | nil => simp [pieces]
    | cons next rest =>
      rw [List.intercalate_cons_cons, List.append_assoc, List.singleton_append,
        List.splitOn_append_cons_self, ih (List.cons_ne_nil _ _)]
      rfl

/-- **Joined fields are alike** just when their pieces are. -/
theorem intercalate_eq_iff (hne : fields ≠ []) (hne' : others ≠ []) :
    [sep].intercalate fields = [sep].intercalate others ↔
      pieces sep fields = pieces sep others := by
  rw [← splitOn_intercalate hne, ← splitOn_intercalate hne']
  constructor
  · intro h
    rw [h]
  · intro h
    have hleft : [sep].intercalate (([sep].intercalate fields).splitOn sep) =
        [sep].intercalate fields := List.intercalate_splitOn sep
    rw [← hleft, h, List.intercalate_splitOn]

/-- A piece has no separator in it. -/
theorem not_mem_of_mem_splitOn {s piece : List α} (h : piece ∈ s.splitOn sep) : sep ∉ piece := by
  induction s generalizing piece with
  | nil =>
    rw [List.splitOn_nil, List.mem_singleton] at h
    simp [h]
  | cons x rest ih =>
    rw [List.splitOn_cons_eq_if_modifyHead] at h
    split at h
    next =>
      rcases List.mem_cons.mp h with rfl | h
      · exact List.not_mem_nil
      · exact ih h
    next hx =>
      obtain ⟨first, others, hsplit⟩ := List.exists_cons_of_ne_nil (List.splitOn_ne_nil sep rest)
      rw [hsplit, List.modifyHead_cons] at h
      rw [hsplit] at ih
      rcases List.mem_cons.mp h with rfl | h
      · intro hmem
        rcases List.mem_cons.mp hmem with rfl | hmem
        · simp at hx
        · exact ih List.mem_cons_self hmem
      · exact ih (List.mem_cons_of_mem _ h)

/-- Fields without the separator are their own pieces. -/
theorem pieces_of_free (h : ∀ field ∈ fields, sep ∉ field) : pieces sep fields = fields := by
  induction fields with
  | nil => rfl
  | cons field rest ih =>
    obtain ⟨hfield, hrest⟩ := List.forall_mem_cons.mp h
    rw [pieces, List.flatMap_cons, List.splitOn_eq_singleton hfield]
    exact congrArg (field :: ·) (ih hrest)

end SeparatorJoin

import GraphBatch.Path

/-!
# Texts of paths

A text can always be read back from its path. A path can be read back from its text
exactly if it has segments and none of them has a dot: the path without segments and
the path of one empty segment have the same text, and a dot within a segment is taken
for its end. Empty segments do no harm, wherever they stand.
-/

namespace GraphBatch.Path

/-! ## Pieces between dots -/

theorem splitOn_cons_of_ne {separator char : Char} (plain : char ≠ separator)
    (rest : List Char) :
    ∃ piece pieces, rest.splitOn separator = piece :: pieces ∧
      (char :: rest).splitOn separator = (char :: piece) :: pieces := by
  obtain ⟨piece, pieces, split⟩ := List.exists_cons_of_ne_nil (List.splitOn_ne_nil separator rest)
  refine ⟨piece, pieces, split, ?_⟩
  rw [List.splitOn_cons_eq_if_modifyHead, if_neg (mt beq_iff_eq.mp plain), split,
    List.modifyHead_cons]

theorem not_mem_of_mem_splitOn {separator : Char} {chars piece : List Char}
    (inside : piece ∈ chars.splitOn separator) : separator ∉ piece := by
  induction chars generalizing piece with
  | nil =>
      rw [List.splitOn_nil, List.mem_singleton] at inside
      rw [inside]
      exact List.not_mem_nil
  | cons char rest ih =>
      by_cases ends : char = separator
      · rw [List.splitOn_cons_eq_if_modifyHead, if_pos (beq_iff_eq.mpr ends), List.mem_cons]
          at inside
        rcases inside with rfl | later
        · exact List.not_mem_nil
        · exact ih later
      · obtain ⟨first, others, split, whole⟩ := splitOn_cons_of_ne ends rest
        rw [whole, List.mem_cons] at inside
        rw [split] at ih
        rcases inside with rfl | later
        · rw [List.mem_cons, not_or]
          exact ⟨Ne.symm ends, ih List.mem_cons_self⟩
        · exact ih (List.mem_cons_of_mem _ later)

/-! ## Texts and paths -/

/-- The characters of a path's text. -/
theorem toList_text (path : Path) :
    path.text.toList = ['.'].intercalate (path.segments.map String.toList) :=
  String.toList_intercalate

theorem toList_segments_ofText (text : String) :
    (ofText text).segments.map String.toList = text.toList.splitOn '.' := by
  have same : String.toList ∘ String.ofList = id := funext fun _ => String.toList_ofList
  rw [ofText, List.map_map, same, List.map_id]

theorem eq_of_toList_segments {first second : Path}
    (same : first.segments.map String.toList = second.segments.map String.toList) :
    first = second := by
  have segments : first.segments = second.segments :=
    (List.map_inj_right fun _ _ => String.toList_inj.mp).mp same
  cases first
  cases second
  exact congrArg mk segments

theorem text_ofText (text : String) : (ofText text).text = text := by
  apply String.toList_inj.mp
  rw [toList_text, toList_segments_ofText]
  exact List.intercalate_splitOn '.'

theorem segments_ofText_ne_nil (text : String) : (ofText text).segments ≠ [] := by
  intro none_left
  refine List.splitOn_ne_nil '.' text.toList ?_
  exact List.map_eq_nil_iff.mp none_left

theorem dot_not_mem_of_mem_ofText {text segment : String}
    (inside : segment ∈ (ofText text).segments) : '.' ∉ segment.toList := by
  obtain ⟨piece, found, rfl⟩ := List.mem_map.mp inside
  rw [String.toList_ofList]
  exact not_mem_of_mem_splitOn found

theorem ofText_text {path : Path} (filled : path.segments ≠ [])
    (undotted : ∀ segment ∈ path.segments, '.' ∉ segment.toList) : ofText path.text = path := by
  apply eq_of_toList_segments
  rw [toList_segments_ofText, toList_text]
  refine List.splitOn_intercalate '.' ?_ (by simpa using filled)
  intro piece inside
  obtain ⟨segment, found, rfl⟩ := List.mem_map.mp inside
  exact undotted segment found

/-- Every text is the text of its path; a path is the path of its text exactly if it has
segments and none of them has a dot. -/
theorem ofText_text_iff (text : String) (path : Path) :
    (ofText text).text = text ∧
      (ofText path.text = path ↔
        path.segments ≠ [] ∧ ∀ segment ∈ path.segments, '.' ∉ segment.toList) := by
  refine ⟨text_ofText text, ?_, ?_⟩
  · intro same
    rw [← same]
    exact ⟨segments_ofText_ne_nil _, fun _ => dot_not_mem_of_mem_ofText⟩
  · rintro ⟨filled, undotted⟩
    exact ofText_text filled undotted

/-- The path without segments comes back with an empty one. -/
example : ofText empty.text = ⟨[""]⟩ := by decide

end GraphBatch.Path

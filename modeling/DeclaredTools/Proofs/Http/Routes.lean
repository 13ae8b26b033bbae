/-
  Routes to tools. A path leads to a tool exactly if the name of the tool is a segment: neither
  empty nor with a slash in it (`exists_toolRoute_iff`, `exists_callRoute_iff`).
-/
import DeclaredTools.Http.Service
import DeclaredTools.Proofs.Http.Target

namespace DeclaredTools.Http

/-- The name can stand in a path as one segment. -/
structure IsSegment (name : String) : Prop where
  nonempty : name ≠ ""
  whole : '/' ∉ name.toList

namespace Route

theorem ofPath?_of_ofSegments? {path : String} {route : Route}
    (h : ofSegments? (segments path) = some route) : ofPath? path = some route := by
  rw [ofPath?, h, Option.some_or]

theorem segments_toolPath {name tail : String} {more : List String} (h : IsSegment name)
    (htail : Continues tail more) :
    segments (toolPath name ++ tail) = "" :: "api" :: "v1" :: "tools" :: name :: more := by
  rw [htail.path]
  refine pieces_intercalate (List.cons_ne_nil _ _) ?_
  simp only [List.forall_mem_cons]
  refine ⟨by decide, by decide, by decide, by decide, h.whole, fun word hword => ?_⟩
  rw [htail.fixed word hword]
  decide

theorem ofPath?_toolPath {name : String} (h : IsSegment name) :
    ofPath? (toolPath name) = some (.tool name) := by
  have hsegments := segments_toolPath h continues_nil
  rw [String.append_empty] at hsegments
  apply ofPath?_of_ofSegments?
  rw [hsegments, ofSegments?, if_neg h.nonempty]

theorem ofPath?_callPath {name : String} (h : IsSegment name) :
    ofPath? (callPath name) = some (.call name) := by
  apply ofPath?_of_ofSegments?
  rw [callPath, segments_toolPath h continues_call, ofSegments?, if_neg h.nonempty]

/-! ## Where routes come from -/

/-- The route of a path is one that segments have. -/
theorem exists_segments_of_ofPath? {path : String} {route : Route}
    (h : ofPath? path = some route) : ∃ other, ofSegments? (segments other) = some route := by
  rw [ofPath?, Option.or_eq_some_iff] at h
  rcases h with h | ⟨_, h⟩
  · exact ⟨path, h⟩
  · split at h
    · exact ⟨_, h⟩
    · cases h

/-- The name of a tool that a route is about is one of the segments. -/
theorem mem_of_ofSegments? {segments : List String} {name : String}
    (h : ofSegments? segments = some (.tool name) ∨ ofSegments? segments = some (.call name)) :
    name ∈ segments ∧ name ≠ "" := by
  unfold ofSegments? at h
  split at h
  case h_9 other =>
    obtain ⟨hne, rfl⟩ : ¬ other = "" ∧ other = name := by simpa using h
    exact ⟨by simp, hne⟩
  case h_10 other =>
    obtain ⟨hne, rfl⟩ : ¬ other = "" ∧ other = name := by simpa using h
    exact ⟨by simp, hne⟩
  all_goals simp at h

theorem isSegment_of_ofSegments? {path name : String}
    (h : ofSegments? (segments path) = some (.tool name) ∨
      ofSegments? (segments path) = some (.call name)) : IsSegment name := by
  obtain ⟨hmem, hne⟩ := mem_of_ofSegments? h
  obtain ⟨piece, hpiece, rfl⟩ := List.mem_map.1 hmem
  refine ⟨hne, ?_⟩
  rw [String.toList_ofList]
  exact Text.not_mem_of_mem_splitOn hpiece

theorem exists_toolRoute_iff (name : String) :
    (∃ path, ofPath? path = some (.tool name)) ↔ IsSegment name := by
  constructor
  · rintro ⟨path, h⟩
    obtain ⟨other, hother⟩ := exists_segments_of_ofPath? h
    exact isSegment_of_ofSegments? (Or.inl hother)
  · intro h
    exact ⟨toolPath name, ofPath?_toolPath h⟩

theorem exists_callRoute_iff (name : String) :
    (∃ path, ofPath? path = some (.call name)) ↔ IsSegment name := by
  constructor
  · rintro ⟨path, h⟩
    obtain ⟨other, hother⟩ := exists_segments_of_ofPath? h
    exact isSegment_of_ofSegments? (Or.inr hother)
  · intro h
    exact ⟨callPath name, ofPath?_callPath h⟩

end Route

end DeclaredTools.Http

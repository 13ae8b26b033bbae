/-
  What is known of definitions without problems. The problems of a definition are its own and those
  of its parts (`itemProblems_eq`, `propertyProblems_eq`), so that without problems every
  enumeration in it has choices (`hasChoices_of_problems_eq_nil`). About defaults problems say
  nothing.
-/
import DeclaredTools.Proofs.Shape.Reading
import DeclaredTools.Shape.Lint

namespace DeclaredTools.Shape

/-! ## Problems of the parts -/

theorem itemProblems_eq (path : String) (es : List (Value × Value)) :
    itemProblems path es =
      match Value.lookup "items" es with
      | some v => if namesType v then problems (path ++ " items") v else [.untypedItems path]
      | none => [] := by
  induction es with
  | nil => rfl
  | cons e es ih =>
    obtain ⟨k, v⟩ := e
    rw [itemProblems, Value.lookup]
    by_cases hk : k.isText "items" = true
    · rw [if_pos hk, if_pos hk]
    · rw [if_neg hk, if_neg hk, ih]

theorem propertyProblems_eq (path : String) (es : List (Value × Value)) :
    propertyProblems path es =
      match Value.lookup "properties" es with
      | some (.map ps) => memberProblems path ps
      | _ => [] := by
  induction es with
  | nil => rfl
  | cons e es ih =>
    obtain ⟨k, v⟩ := e
    rw [propertyProblems.eq_def, Value.lookup]
    dsimp only
    by_cases hk : k.isText "properties" = true
    · rw [if_pos hk, if_pos hk]
      cases v <;> rfl
    · rw [if_neg hk, if_neg hk, ih]

theorem memberProblems_eq_flatMap (path : String) (es : List (Value × Value)) :
    memberProblems path es =
      es.flatMap fun e => problems (path ++ "." ++ e.1.display) e.2 := by
  induction es with
  | nil => rfl
  | cons e es ih =>
    obtain ⟨k, v⟩ := e
    rw [memberProblems, ih, List.flatMap_cons]

theorem parameterProblems_eq_flatMap (es : List (Value × Value)) :
    parameterProblems es = es.flatMap fun e => problems e.1.display e.2 := by
  induction es with
  | nil => rfl
  | cons e es ih =>
    obtain ⟨k, v⟩ := e
    rw [parameterProblems, ih, List.flatMap_cons]

/-- A map without problems names a known type, and its parts have no problems. -/
theorem tag_of_problems_eq_nil {path : String} {es : List (Value × Value)}
    (h : problems path (.map es) = []) :
    ∃ tag, TypeTag.ofValue? (tagOf es) = some tag ∧
      match tag with
      | .enum => enumProblems path es = []
      | .object => propertyProblems path es = []
      | .array => itemProblems path es = []
      | .scalar _ => True := by
  rw [problems.eq_def] at h
  dsimp only at h
  split at h
  · cases h
  · cases htag : TypeTag.ofValue? (tagOf es) with
    | none => simp [htag] at h
    | some tag =>
      rw [htag] at h
      refine ⟨tag, rfl, ?_⟩
      cases tag with
      | scalar kind => trivial
      | enum => exact h
      | array => exact h
      | object => exact h

/-! ## Choices -/

/-- An enumeration lists at least one value. -/
def hasChoices : Shape → Bool
  | .enum _ values => !values.isEmpty
  | _ => true

theorem valuesOf_ne_nil {path : String} {es : List (Value × Value)}
    (h : enumProblems path es = []) : (valuesOf es).isEmpty = false := by
  unfold enumProblems at h
  split at h
  · next v vs hlookup =>
    rw [valuesOf, hlookup]
    rfl
  · cases h

theorem hasChoices_of_problems_eq_nil {path : String} {v : Value} (h : problems path v = []) :
    (ofValue v).all hasChoices = true := by
  refine all_ofValue (Q := fun v => ∃ path, problems path v = []) ?_ ?_ ?_ v ⟨path, h⟩
  · rintro v ⟨path, h⟩
    cases v with
    | map es =>
      obtain ⟨tag, htag, hparts⟩ := tag_of_problems_eq_nil h
      rw [ofValue, htag]
      cases tag with
      | enum =>
        show (!(valuesOf es).isEmpty) = true
        rw [valuesOf_ne_nil hparts]
        rfl
      | _ => rfl
    | _ => rfl
  · rintro es v ⟨path, h⟩ hknown hlookup _
    obtain ⟨tag, htag, hparts⟩ := tag_of_problems_eq_nil h
    obtain rfl : tag = .array := Option.some.inj (htag.symm.trans hknown)
    dsimp only at hparts
    rw [itemProblems_eq, hlookup] at hparts
    dsimp only at hparts
    split at hparts
    · exact ⟨_, hparts⟩
    · cases hparts
  · rintro es qs ⟨path, h⟩ hknown hlookup e he
    obtain ⟨tag, htag, hparts⟩ := tag_of_problems_eq_nil h
    obtain rfl : tag = .object := Option.some.inj (htag.symm.trans hknown)
    dsimp only at hparts
    rw [propertyProblems_eq, hlookup] at hparts
    dsimp only at hparts
    rw [memberProblems_eq_flatMap, List.flatMap_eq_nil_iff] at hparts
    exact ⟨_, hparts e he⟩

end DeclaredTools.Shape

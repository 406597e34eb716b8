import ApiProxy.Proofs.FilePath

/-! Which spellings of a path are the same path. A second slash, a slash at the end and a dot behind a slash add no
component; a dot at the start and double dots do. -/

namespace ApiProxy.FilePath

/-- What does not tell paths apart, and what does. -/
structure ComparedByComponents : Prop where
  repeated_slash : ∀ front back, (⟨front ++ "//" ++ back⟩ : FilePath).same ⟨front ++ "/" ++ back⟩ = true
  trailing_slash : ∀ front, front ≠ "" → (⟨front ++ "/"⟩ : FilePath).same ⟨front⟩ = true
  inner_dot : ∀ front back, (⟨front ++ "/./" ++ back⟩ : FilePath).same ⟨front ++ "/" ++ back⟩ = true
  leading_dot : ∀ back, (components ⟨back⟩).head? ≠ some .current → (⟨"./" ++ back⟩ : FilePath).same ⟨back⟩ = false
  double_dots : ∀ front, front ≠ "" → components ⟨front ++ "/.."⟩ = components ⟨front⟩ ++ [.parent]

/-- What stands between two slashes without being a component does not matter. -/
theorem same_of_no_component {between : String} (h : pieceComponent? between.toList = none)
    (hfree : '/' ∉ between.toList) (front back : String) :
    (⟨front ++ ("/" ++ between ++ "/") ++ back⟩ : FilePath).same ⟨front ++ "/" ++ back⟩ = true := by
  have hstretches : stretches between.toList = [between.toList] := by
    refine pieces_of_free fun c hc => decide_eq_false ?_
    rintro rfl
    exact hfree hc
  have hbody : (stretches (between ++ "/" ++ back).toList).filterMap pieceComponent? =
      (stretches back.toList).filterMap pieceComponent? := by
    rw [toList_append_slash, stretches_append_slash, hstretches, List.singleton_append, List.filterMap_cons_none h]
  have hspelled : front ++ ("/" ++ between ++ "/") ++ back = front ++ "/" ++ (between ++ "/" ++ back) := by
    simp only [String.append_assoc]
  rw [same_iff, hspelled]
  by_cases hfront : front = ""
  · rw [hfront, String.empty_append, components_slash_append, components_slash_append, hbody]
  · rw [components_append_slash hfront, components_append_slash hfront, hbody]

theorem components_dot_slash (back : String) :
    components ⟨"./" ++ back⟩ = .current :: (stretches back.toList).filterMap pieceComponent? :=
  @components_append_slash "." (by decide) back

theorem comparedByComponents : ComparedByComponents where
  repeated_slash := fun front back => @same_of_no_component "" rfl (by decide) front back
  trailing_slash := fun front hfront => by
    have hcomponents := components_append_slash hfront ""
    rw [String.append_empty] at hcomponents
    rw [same_iff, hcomponents]
    exact List.append_nil _
  inner_dot := fun front back => @same_of_no_component "." rfl (by decide) front back
  leading_dot := fun back hback => by
    refine same_eq_false fun heq => hback ?_
    rw [← heq, components_dot_slash]
    rfl
  double_dots := fun front hfront => by
    have hcomponents := components_append_slash hfront ".."
    rwa [String.append_assoc] at hcomponents

end ApiProxy.FilePath

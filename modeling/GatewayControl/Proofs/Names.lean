import GatewayControl.Name

/-!
Valid names, and the names of generated maps: the generated name of a valid name is valid, and no
two schemas have the same one.
-/

namespace GatewayControl

theorem generatedMapName_inj {left right : String}
    (same : generatedMapName left = generatedMapName right) : left = right := by
  have lists := congrArg String.toList same
  rw [generatedMapName, generatedMapName, String.toList_append, String.toList_append] at lists
  exact String.ext (List.append_cancel_right lists)

theorem generatedMapName_ne_empty (schema : String) : generatedMapName schema ≠ "" := by
  intro empty
  have lists := congrArg String.toList empty
  rw [generatedMapName, String.toList_append] at lists
  simp at lists

theorem validName_iff {name : String} :
    ValidName name ↔
      name ≠ "" ∧ (∀ char ∈ name.toList, isNameChar char) ∧ name ≠ "." ∧ name ≠ ".." := by
  rw [ValidName, nameFault]
  by_cases empty : name = ""
  · simp [empty]
  · rw [if_neg empty]
    cases found : name.toList.find? fun char => !isNameChar char with
    | some char =>
        have bad := List.find?_some found
        have member := List.mem_of_find?_eq_some found
        simp only [reduceCtorEq, false_iff]
        rintro ⟨-, good, -⟩
        simp [good char member] at bad
    | none =>
        have good : ∀ char ∈ name.toList, isNameChar char := by
          simpa using List.find?_eq_none.1 found
        by_cases reserved : name = "." ∨ name = ".."
        · rcases reserved with same | same <;> simp [same]
        · rw [not_or] at reserved
          simpa [empty, reserved] using good

theorem validName_generatedMapName {schema : String} (valid : ValidName schema) :
    ValidName (generatedMapName schema) := by
  obtain ⟨-, good, -⟩ := validName_iff.1 valid
  have long : ∀ short : String, short.length < 10 → generatedMapName schema ≠ short := by
    intro short less same
    have lengths := congrArg String.length same
    rw [generatedMapName, String.length_append] at lengths
    have suffix : "-resolvers".length = 10 := by decide
    omega
  refine validName_iff.2 ⟨generatedMapName_ne_empty schema, ?_, long _ (by decide), long _ (by decide)⟩
  intro char member
  rw [generatedMapName, String.toList_append, List.mem_append] at member
  rcases member with member | member
  · exact good char member
  · have suffix : "-resolvers".toList.all isNameChar = true := by decide
    exact List.all_eq_true.1 suffix char member

end GatewayControl

import GatewayControl.Store.Files

/-!
File names of documents. A name and its extension are taken apart at the last dot, which is the one
that was put between them, so a document's file tells its object and no other file does.
-/

namespace GatewayControl

namespace Path

/-- The rule for dots: what follows the last one is the extension, if something stands before it. -/
theorem splitName_eq_some_iff {name stem extension : String} :
    splitName name = some (stem, extension) ↔
      name = stem ++ "." ++ extension ∧ stem ≠ "" ∧ '.' ∉ extension.toList ∧ name ≠ ".." := by
  constructor
  · intro split
    have whole := List.takeWhile_append_dropWhile (p := (· != '.')) (l := name.toList.reverse)
    rw [splitName] at split
    cases rest : name.toList.reverse.dropWhile (· != '.') with
    | nil => simp [rest] at split
    | cons dot before =>
        have isDot : dot = '.' := by
          have stop := List.head?_dropWhile_not (· != '.') name.toList.reverse
          rw [rest] at stop
          simpa using stop
        simp only [rest] at split
        split at split
        · cases split
        · rename_i plain
          simp only [Option.some.injEq, Prod.mk.injEq] at split
          obtain ⟨rfl, rfl⟩ := split
          rw [rest, isDot] at whole
          have written := congrArg List.reverse whole
          rw [List.reverse_append, List.reverse_cons, List.reverse_reverse] at written
          simp only [Bool.or_eq_true, not_or] at plain
          refine ⟨?_, by simpa using plain.1, ?_, by simpa using plain.2⟩
          · rw [← String.toList_inj]
            simp only [String.toList_append, String.toList_ofList]
            exact written.symm
          · intro member
            rw [String.toList_ofList, List.mem_reverse] at member
            simpa using List.all_eq_true.1 List.all_takeWhile _ member
  · rintro ⟨rfl, nonempty, undotted, notParent⟩
    have other : ∀ char ∈ extension.toList.reverse, (char != '.') = true := by
      intro char member
      have different : char ≠ '.' := fun same => undotted (by simpa [same] using member)
      simpa using different
    have after : (extension.toList.reverse ++ '.' :: stem.toList.reverse).takeWhile (· != '.') =
        extension.toList.reverse := by
      rw [List.takeWhile_append_of_pos other]
      simp
    have before : (extension.toList.reverse ++ '.' :: stem.toList.reverse).dropWhile (· != '.') =
        '.' :: stem.toList.reverse := by
      rw [List.dropWhile_append_of_pos other]
      simp
    have nonemptyChars : stem.toList ≠ [] := by simpa using nonempty
    simp [splitName, after, before, nonemptyChars, notParent]

theorem splitName_append {stem extension : String} (nonempty : stem ≠ "") (extended : extension ≠ "")
    (undotted : '.' ∉ extension.toList) :
    splitName (stem ++ "." ++ extension) = some (stem, extension) := by
  refine splitName_eq_some_iff.2 ⟨rfl, nonempty, undotted, fun same => ?_⟩
  have lengths := congrArg String.length same
  have stemLength : stem.length ≠ 0 := by simpa using nonempty
  have extensionLength : extension.length ≠ 0 := by simpa using extended
  simp only [String.length_append] at lengths
  have dot : ".".length = 1 ∧ "..".length = 2 := by decide
  omega

end Path

namespace FileStore

theorem splitName_document {name : String} (nonempty : name ≠ "") :
    Path.splitName (name ++ "." ++ documentExtension) = some (name, "toml") :=
  Path.splitName_append nonempty (by decide) (by decide)

theorem stem_path (store : FileStore) (kind : ObjectKind) {name : String} (nonempty : name ≠ "") :
    (store.path kind name).stem = name := by
  rw [Path.stem, Path.fileName, path, List.getLast?_concat, Option.getD_some, Path.nameStem,
    splitName_document nonempty]

theorem temporaryPath_path (store : FileStore) (kind : ObjectKind) {name : String}
    (nonempty : name ≠ "") :
    temporaryPath (store.path kind name) = store.directory kind ++ [name ++ ".toml.tmp"] := by
  rw [temporaryPath, Path.withExtension, stem_path store kind nonempty, Path.directory, path,
    List.dropLast_concat, String.append_assoc]
  rfl

theorem file_of_extension {file : String}
    (document : Path.nameExtension file = some documentExtension) :
    ∃ name, name ≠ "" ∧ file = name ++ "." ++ documentExtension := by
  obtain ⟨⟨stem, extension⟩, split, same⟩ := Option.map_eq_some_iff.1 document
  obtain ⟨written, nonempty, -⟩ := Path.splitName_eq_some_iff.1 split
  have own : extension = documentExtension := same
  exact ⟨stem, nonempty, own ▸ written⟩

theorem name_ne_empty {name : String} (valid : nameFault name = none) : name ≠ "" := by
  rintro rfl
  exact absurd valid (by decide)

end FileStore

end GatewayControl

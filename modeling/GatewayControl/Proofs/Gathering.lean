import GatewayControl.Report

/-!
Gathered failures. Whatever order failures of several resolver maps are recorded in, there is one
report for each map, in the order of the maps' first failures, and it carries the causes recorded for
that map in their order.
-/

namespace GatewayControl

theorem nodup_eraseDups [BEq α] [LawfulBEq α] : ∀ values : List α, values.eraseDups.Nodup
  | [] => List.nodup_nil
  | value :: values => by
      rw [List.eraseDups_cons, List.nodup_cons]
      refine ⟨?_, nodup_eraseDups _⟩
      simp [List.mem_eraseDups]
termination_by values => values.length
decreasing_by
  simp only [List.length_cons]
  exact Nat.lt_succ_of_le (List.length_filter_le _ _)

theorem filterMap_eq_map_of_some {f : α → Option β} {g : α → β} {values : List α}
    (found : ∀ value ∈ values, f value = some (g value)) : values.filterMap f = values.map g := by
  induction values with
  | nil => rfl
  | cons value values ih =>
      rw [List.filterMap_cons_some (found value List.mem_cons_self), List.map_cons,
        ih fun other member => found other (List.mem_cons_of_mem _ member)]

def Failure.Single (failure : Failure) : Prop := failure.causes = [failure]

/-- Whether a failure that stands for others stands for single ones, so that none is nested. -/
def Failure.Flat (failure : Failure) : Prop := ∀ cause ∈ failure.causes, cause.Single

theorem Failure.Single.flat {failure : Failure} (single : failure.Single) : failure.Flat := by
  intro cause member
  rw [single] at member
  cases List.mem_singleton.1 member
  exact single

def Report.causes (report : Report) : List Failure :=
  report.failure.toList.flatMap Failure.causes

theorem Failures.toFailure?_eq_some_of_ne_nil {failures : Failures} (nonempty : failures.causes ≠ []) :
    ∃ failure, failures.toFailure? = some failure := by
  rw [toFailure?]
  split
  · rename_i empty
    exact absurd empty nonempty
  · exact ⟨_, rfl⟩
  · exact ⟨_, rfl⟩

theorem Failures.causes_toFailure? {failures : Failures}
    (single : ∀ cause ∈ failures.causes, cause.causes = [cause]) :
    failures.toFailure?.toList.flatMap Failure.causes = failures.causes := by
  rw [toFailure?]
  split
  · rename_i empty
    rw [empty]
    rfl
  · rename_i cause one
    rw [one] at single ⊢
    simpa using single cause List.mem_cons_self
  · simp [Failure.causes]

theorem Failures.causes_pushAll (failures : Failures) (more : List Failure) :
    (failures.pushAll more).causes = failures.causes ++ more.flatMap Failure.causes := by
  induction more generalizing failures with
  | nil => exact (List.append_nil _).symm
  | cons failure more ih =>
      change ((failures.push failure).pushAll more).causes = _
      rw [ih, push, List.flatMap_cons, List.append_assoc]

theorem Failures.toResult_eq_ok_iff {failures : Failures} :
    failures.toResult = .ok () ↔ failures.causes = [] := by
  rw [toResult, toFailure?]
  cases failures.causes with
  | nil => simp
  | cons cause causes => cases causes <;> simp

theorem causes_gatherReported (reports : List Report) :
    (gatherReported reports).causes = reports.flatMap Report.causes := by
  rw [gatherReported, Failures.causes_pushAll, List.nil_append]
  induction reports with
  | nil => rfl
  | cons report reports ih =>
      rw [List.flatMap_cons, ← ih, Report.causes, List.filterMap_cons]
      cases report.failure with
      | none => rfl
      | some failure => simp

theorem Failures.flat_of_toFailure? {failures : Failures} {failure : Failure}
    (single : ∀ cause ∈ failures.causes, cause.Single)
    (gathered : failures.toFailure? = some failure) : failure.Flat := by
  have causes := causes_toFailure? single
  rw [gathered] at causes
  intro cause member
  apply single cause
  rw [← causes]
  simpa using member

namespace MapFailures

def causesOf (map : String) (records : List (String × Failure)) : List Failure :=
  (records.filter fun record => record.1 = map).flatMap fun record => record.2.causes

/-- The maps that failures are recorded for, by their first failures. -/
def failedMaps (records : List (String × Failure)) : List String :=
  (records.map Prod.fst).eraseDups

def gathered (records : List (String × Failure)) : List (String × Failures) :=
  (failedMaps records).map fun map => (map, ⟨causesOf map records⟩)

theorem causesOf_append (map : String) (records more : List (String × Failure)) :
    causesOf map (records ++ more) = causesOf map records ++ causesOf map more := by
  simp [causesOf]

theorem mem_failedMaps {map : String} {records : List (String × Failure)} :
    map ∈ failedMaps records ↔ ∃ failure, (map, failure) ∈ records := by
  simp [failedMaps]

theorem nodup_failedMaps (records : List (String × Failure)) : (failedMaps records).Nodup :=
  nodup_eraseDups _

theorem causesOf_eq_nil {map : String} {records : List (String × Failure)}
    (absent : map ∉ failedMaps records) : causesOf map records = [] := by
  rw [causesOf, List.flatMap_eq_nil_iff]
  intro record member
  have parts := List.mem_filter.1 member
  have same : record.1 = map := by simpa using parts.2
  exact absurd (mem_failedMaps.2 ⟨record.2, same ▸ parts.1⟩) absent

theorem recordIn_of_mem {map : String} {failure : Failure} {names : List String}
    {failures : String → Failures} (unique : names.Nodup) (member : map ∈ names) :
    recordIn map failure (names.map fun name => (name, failures name)) =
      names.map fun name =>
        (name, if name = map then (failures name).push failure else failures name) := by
  induction names with
  | nil => simp at member
  | cons name names ih =>
      obtain ⟨fresh, unique⟩ := List.nodup_cons.1 unique
      simp only [List.map_cons, recordIn]
      by_cases same : map = name
      · subst same
        have others : ∀ other ∈ names, other ≠ map := fun other belongs equal =>
          fresh (equal ▸ belongs)
        simp only [if_true, List.cons.injEq, true_and]
        refine List.map_congr_left fun other belongs => ?_
        rw [if_neg (others other belongs)]
      · rw [if_neg same, if_neg (Ne.symm same)]
        have later : map ∈ names := by simpa [same] using member
        rw [ih unique later]

theorem recordIn_of_not_mem {map : String} {failure : Failure} {names : List String}
    {failures : String → Failures} (absent : map ∉ names) :
    recordIn map failure (names.map fun name => (name, failures name)) =
      (names.map fun name => (name, failures name)) ++ [(map, ({} : Failures).push failure)] := by
  induction names with
  | nil => rfl
  | cons name names ih =>
      simp only [List.mem_cons, not_or] at absent
      simp only [List.map_cons, recordIn, if_neg absent.1, ih absent.2, List.cons_append]

theorem failedMaps_append_one (records : List (String × Failure)) (map : String)
    (failure : Failure) :
    failedMaps (records ++ [(map, failure)]) =
      if map ∈ failedMaps records then failedMaps records else failedMaps records ++ [map] := by
  simp only [failedMaps, List.map_append, List.eraseDups_append, List.mem_eraseDups]
  split
  · rename_i member
    have gone : List.removeAll [map] (records.map Prod.fst) = [] := by
      simpa [List.removeAll] using member
    simp [gone]
  · rename_i absent
    have kept : List.removeAll [map] (records.map Prod.fst) = [map] := by
      simpa [List.removeAll] using absent
    simp [kept, List.eraseDups_cons]

theorem recordIn_gathered (records : List (String × Failure)) (map : String) (failure : Failure) :
    recordIn map failure (gathered records) = gathered (records ++ [(map, failure)]) := by
  have own : causesOf map [(map, failure)] = failure.causes := by simp [causesOf]
  have others : ∀ name, name ≠ map → causesOf name [(map, failure)] = [] := by
    intro name different
    simp [causesOf, Ne.symm different]
  rw [gathered, gathered, failedMaps_append_one]
  by_cases member : map ∈ failedMaps records
  · rw [if_pos member, recordIn_of_mem (nodup_failedMaps records) member]
    refine List.map_congr_left fun name _ => ?_
    rw [causesOf_append]
    by_cases same : name = map
    · subst same
      simp [Failures.push, own]
    · simp [same, others name same]
  · rw [if_neg member, recordIn_of_not_mem member, List.map_append]
    congr 1
    · refine List.map_congr_left fun name belongs => ?_
      have different : name ≠ map := fun equal => member (equal ▸ belongs)
      simp [causesOf_append, others name different]
    · simp [causesOf_append, causesOf_eq_nil member, own, Failures.push]

theorem recordAll_gathered (seen records : List (String × Failure)) :
    recordAll ⟨gathered seen⟩ records = ⟨gathered (seen ++ records)⟩ := by
  induction records generalizing seen with
  | nil => simp [recordAll]
  | cons record records ih =>
      change recordAll ⟨recordIn record.1 record.2 (gathered seen)⟩ records = _
      rw [recordIn_gathered, ih, List.append_assoc, List.singleton_append]

theorem recordAll_eq (records : List (String × Failure)) :
    ({} : MapFailures).recordAll records = ⟨gathered records⟩ :=
  recordAll_gathered [] records

def reportOf (records : List (String × Failure)) (map : String) : Report :=
  ⟨⟨.resolverMap, map⟩, (⟨causesOf map records⟩ : Failures).toFailure?⟩

theorem causesOf_ne_nil {map : String} {records : List (String × Failure)}
    (caused : ∀ record ∈ records, record.2.causes ≠ []) (failed : map ∈ failedMaps records) :
    causesOf map records ≠ [] := by
  obtain ⟨failure, member⟩ := mem_failedMaps.1 failed
  rw [causesOf, ne_eq, List.flatMap_eq_nil_iff]
  intro empty
  exact caused _ member (empty _ (List.mem_filter.2 ⟨member, by simp⟩))

theorem reports_recordAll {records : List (String × Failure)}
    (caused : ∀ record ∈ records, record.2.causes ≠ []) :
    (({} : MapFailures).recordAll records).reports =
      (failedMaps records).map (reportOf records) := by
  rw [recordAll_eq, reports, gathered, List.filterMap_map]
  refine filterMap_eq_map_of_some fun map failed => ?_
  have nonempty : (⟨causesOf map records⟩ : Failures).causes ≠ [] := causesOf_ne_nil caused failed
  obtain ⟨failure, found⟩ := Failures.toFailure?_eq_some_of_ne_nil nonempty
  simp only [Function.comp_apply, found, Option.map_some, reportOf]

end MapFailures

end GatewayControl

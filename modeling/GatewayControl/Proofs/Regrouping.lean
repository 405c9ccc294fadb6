import GatewayControl.Proofs.Grouping
import Mathlib.Data.Finset.Card

/-!
Failures of several resolver maps, recorded in any order. At every point as many maps are counted as
have failed, and in the end there is one report for each, by their first failures, with all that was
recorded for the map and nothing else.
-/

namespace GatewayControl

/-- Whether names are those of a list, each once, in the order in which they first stand in it. -/
structure InOrderOf (names all : List String) : Prop where
  members : ∀ name, name ∈ names ↔ name ∈ all
  ordered : names.Pairwise fun left right => all.idxOf left < all.idxOf right

theorem InOrderOf.nil : InOrderOf [] [] := ⟨fun _ => Iff.rfl, .nil⟩

theorem InOrderOf.ordered_append {names all : List String} (inOrder : InOrderOf names all)
    (more : List String) :
    names.Pairwise fun left right => (all ++ more).idxOf left < (all ++ more).idxOf right := by
  refine inOrder.ordered.imp_of_mem ?_
  intro left right leftMember rightMember before
  rw [List.idxOf_append_of_mem ((inOrder.members _).1 leftMember),
    List.idxOf_append_of_mem ((inOrder.members _).1 rightMember)]
  exact before

theorem InOrderOf.again {names all : List String} {name : String} (inOrder : InOrderOf names all)
    (known : name ∈ names) : InOrderOf names (all ++ [name]) := by
  constructor
  · intro other
    rw [inOrder.members, List.mem_append, List.mem_singleton]
    refine ⟨.inl, fun member => member.elim id ?_⟩
    rintro rfl
    exact (inOrder.members _).1 known
  · exact inOrder.ordered_append [name]

theorem InOrderOf.new {names all : List String} {name : String} (inOrder : InOrderOf names all)
    (fresh : name ∉ names) : InOrderOf (names ++ [name]) (all ++ [name]) := by
  have absent : name ∉ all := fun member => fresh ((inOrder.members _).2 member)
  constructor
  · intro other
    rw [List.mem_append, List.mem_append, inOrder.members]
  · rw [List.pairwise_append]
    refine ⟨inOrder.ordered_append [name], List.pairwise_singleton _ _, ?_⟩
    intro left leftMember right rightMember
    obtain rfl := List.mem_singleton.1 rightMember
    have member := (inOrder.members _).1 leftMember
    rw [List.idxOf_append_of_mem member, List.idxOf_append_of_notMem absent]
    exact Nat.lt_of_lt_of_le (List.idxOf_lt_length_of_mem member) (Nat.le_add_right _ _)

theorem filed_perm {β : Type} {names : List String} {items : List (String × β)} (unique : names.Nodup)
    (covered : ∀ item ∈ items, item.1 ∈ names) :
    (names.flatMap fun name => items.filter fun item => item.1 = name).Perm items := by
  induction names generalizing items with
  | nil =>
      cases items with
      | nil => exact .refl _
      | cons item items => exact absurd (covered item List.mem_cons_self) (List.not_mem_nil)
  | cons name names ih =>
      obtain ⟨fresh, unique⟩ := List.nodup_cons.1 unique
      have rest : ∀ other ∈ names, (items.filter fun item => item.1 = other) =
          (items.filter fun item => !decide (item.1 = name)).filter fun item => item.1 = other := by
        intro other member
        rw [List.filter_filter]
        refine List.filter_congr fun item _ => ?_
        have different : other ≠ name := fun same => fresh (same ▸ member)
        by_cases own : item.1 = other
        · simp [own, different]
        · simp [own]
      have others : ∀ item ∈ items.filter (fun item => !decide (item.1 = name)), item.1 ∈ names := by
        intro item member
        obtain ⟨belongs, different⟩ := List.mem_filter.1 member
        have other : item.1 ≠ name := by simpa using different
        exact (List.mem_cons.1 (covered item belongs)).resolve_left other
      rw [List.flatMap_cons, List.flatMap_congr rest]
      exact ((ih unique others).append_left _).trans (List.filter_append_perm _ _)

def combined : List Failure → Failure
  | [cause] => cause
  | causes => .several causes

theorem toFailure?_eq_combined {causes : List Failure} (nonempty : causes ≠ []) :
    (⟨causes⟩ : Failures).toFailure? = some (combined causes) := by
  match causes with
  | [] => exact absurd rfl nonempty
  | [cause] => rfl
  | first :: second :: causes => rfl

theorem causes_combined {causes : List Failure} (nonempty : causes ≠ [])
    (single : ∀ cause ∈ causes, cause.Single) : (combined causes).causes = causes := by
  have whole := @Failures.causes_toFailure? ⟨causes⟩ single
  rw [toFailure?_eq_combined nonempty] at whole
  simpa using whole

namespace MapFailures

def ofRecords (records : List (String × Origin)) : MapFailures :=
  ({} : MapFailures).recordAll (records.map fun record => (record.1, record.2.failure))

def causesFor (map : String) (records : List (String × Origin)) : List Failure :=
  (records.filter fun record => record.1 = map).flatMap fun record => record.2.failure.causes

def rejectionOf (records : List (String × Origin)) (map : String) : Report :=
  ⟨⟨.resolverMap, map⟩, some (combined (causesFor map records))⟩

theorem causesOf_eq (map : String) (records : List (String × Origin)) :
    causesOf map (records.map fun record => (record.1, record.2.failure)) =
      causesFor map records := by
  rw [causesOf, causesFor, List.filter_map, List.flatMap_map]
  rfl

theorem inOrderOf_failedMaps (records : List (String × Failure)) :
    InOrderOf (failedMaps records) (records.map Prod.fst) := by
  induction records using List.reverseRecOn with
  | nil => exact .nil
  | append_singleton records record ih =>
      obtain ⟨map, failure⟩ := record
      rw [failedMaps_append_one, List.map_append]
      split
      · rename_i known
        exact ih.again known
      · rename_i fresh
        exact ih.new fresh

theorem size_recordAll (records : List (String × Failure)) :
    (({} : MapFailures).recordAll records).size = (records.map Prod.fst).toFinset.card := by
  rw [recordAll_eq, size, gathered, List.length_map,
    ← List.toFinset_card_of_nodup (nodup_failedMaps records)]
  congr 1
  ext map
  rw [List.mem_toFinset, List.mem_toFinset, (inOrderOf_failedMaps records).members]

theorem single_causesFor (map : String) (records : List (String × Origin)) :
    ∀ cause ∈ causesFor map records, cause.Single := by
  intro cause member
  obtain ⟨record, -, own⟩ := List.mem_flatMap.1 member
  exact record.2.flat cause own

section

variable {records : List (String × Origin)}
  (caused : ∀ record ∈ records, record.2.failure.causes ≠ [])

include caused

theorem reports_ofRecords :
    ∃ maps, maps.Nodup ∧ InOrderOf maps (records.map Prod.fst) ∧
      (∀ map ∈ maps, causesFor map records ≠ []) ∧
      (ofRecords records).reports = maps.map (rejectionOf records) := by
  let recorded := records.map fun record => (record.1, record.2.failure)
  have names : recorded.map Prod.fst = records.map Prod.fst := by simp [recorded, Function.comp_def]
  have filled : ∀ record ∈ recorded, record.2.causes ≠ [] := by
    intro record member
    obtain ⟨made, belongs, rfl⟩ := List.mem_map.1 member
    exact caused made belongs
  have nonempty : ∀ map ∈ failedMaps recorded, causesFor map records ≠ [] := by
    intro map failed
    rw [← causesOf_eq]
    exact causesOf_ne_nil filled failed
  refine ⟨failedMaps recorded, nodup_failedMaps recorded, names ▸ inOrderOf_failedMaps recorded,
    nonempty, ?_⟩
  rw [ofRecords, reports_recordAll filled]
  refine List.map_congr_left fun map failed => ?_
  rw [reportOf, causesOf_eq, toFailure?_eq_combined (nonempty map failed), rejectionOf]

/-- Whatever is recorded for maps, as many of them are counted at every point as have failed. The
reports are one for each of them, by their first failures; each is a rejection with exactly the causes
recorded for its map, in their order. Together they have every recorded cause once, map by map. -/
theorem records_regrouped :
    (∀ earlier, earlier <+: records →
      (ofRecords earlier).size = (earlier.map Prod.fst).toFinset.card) ∧
    ∃ maps : List String, InOrderOf maps (records.map Prod.fst) ∧
      (ofRecords records).reports = maps.map (rejectionOf records) ∧
      (∀ map ∈ maps, (rejectionOf records map).status.state = .rejected ∧
        causesFor map records ≠ [] ∧
        (rejectionOf records map).causes = causesFor map records) ∧
      (gatherReported (ofRecords records).reports).causes =
        maps.flatMap (fun map => causesFor map records) ∧
      (gatherReported (ofRecords records).reports).causes.Perm
        (records.flatMap fun record => record.2.failure.causes) := by
  obtain ⟨maps, unique, inOrder, nonempty, reports⟩ := reports_ofRecords caused
  have causes : ∀ map ∈ maps, (rejectionOf records map).causes = causesFor map records := by
    intro map failed
    rw [Report.causes, rejectionOf, Option.toList_some, List.flatMap_singleton]
    exact causes_combined (nonempty map failed) (single_causesFor map records)
  have grouped : (gatherReported (ofRecords records).reports).causes =
      maps.flatMap fun map => causesFor map records := by
    rw [causes_gatherReported, reports, List.flatMap_map]
    exact List.flatMap_congr causes
  refine ⟨?_, maps, inOrder, reports, ?_, grouped, ?_⟩
  · intro earlier _
    rw [ofRecords, size_recordAll, List.map_map]
    rfl
  · intro map failed
    exact ⟨rfl, nonempty map failed, causes map failed⟩
  · have covered : ∀ record ∈ records, record.1 ∈ maps := fun record member =>
      (inOrder.members _).2 (List.mem_map_of_mem member)
    have all := (filed_perm unique covered).flatMap_right fun record => record.2.failure.causes
    rw [List.flatMap_assoc] at all
    rw [grouped]
    exact all

end

/-- Two maps by turns, once with several causes gathered in two steps. -/
def interleavedRecords : List (String × Origin) :=
  let missing (field : String) : Origin := .alone (.build (.missingResolver ⟨"Query", field⟩)) rfl
  [("shared", missing "a"), ("other", missing "x"),
    ("shared", .gathered [.push (missing "b"), .group [.extend [missing "c", missing "d"]]])]

theorem interleavedRecords_regrouped :
    (∀ record ∈ interleavedRecords, record.2.failure.causes ≠ []) ∧
    (ofRecords (interleavedRecords.take 1)).size = 1 ∧ (ofRecords interleavedRecords).size = 2 ∧
    ∃ maps, InOrderOf maps ["shared", "other", "shared"] ∧
      (ofRecords interleavedRecords).reports = maps.map (rejectionOf interleavedRecords) ∧
      (gatherReported (ofRecords interleavedRecords).reports).causes.Perm
        (interleavedRecords.flatMap fun record => record.2.failure.causes) := by
  have caused : ∀ record ∈ interleavedRecords, record.2.failure.causes ≠ [] := by
    simp [interleavedRecords, Origin.causes_failure, Origin.leaves, Origin.allLeaves, Filling.leaves,
      Filling.allLeaves]
  obtain ⟨sizes, maps, inOrder, reports, -, -, all⟩ := records_regrouped caused
  exact ⟨caused, sizes _ (List.take_prefix 1 _), sizes _ (List.prefix_refl _), maps, inOrder, reports,
    all⟩

end MapFailures

end GatewayControl

/-!
Computations that may fail, one after the other and one for each member of a list. If all members
succeed the results are theirs, in order; otherwise the first failure is the result.
-/

namespace GatewayControl

variable {α β δ ε : Type}

/-! Single computations. -/

theorem bind_eq_ok_iff {first : Except ε β} {next : β → Except ε α} {result : α} :
    first >>= next = .ok result ↔ ∃ value, first = .ok value ∧ next value = .ok result := by
  cases first <;> simp [bind, Except.bind]

theorem bind_eq_error_iff {first : Except ε β} {next : β → Except ε α} {fault : ε} :
    first >>= next = .error fault ↔
      first = .error fault ∨ ∃ value, first = .ok value ∧ next value = .error fault := by
  cases first <;> simp [bind, Except.bind]

theorem mapError_eq_ok_iff {computed : Except ε α} {explain : ε → δ} {value : α} :
    computed.mapError explain = .ok value ↔ computed = .ok value := by
  constructor
  · intro succeeded
    cases computed with
    | error fault => cases succeeded
    | ok own =>
        cases succeeded
        rfl
  · rintro rfl
    rfl

theorem mapError_eq_error_iff {computed : Except ε α} {explain : ε → δ} {fault : δ} :
    computed.mapError explain = .error fault ↔
      ∃ cause, computed = .error cause ∧ fault = explain cause := by
  constructor
  · intro failed
    cases computed with
    | error cause =>
        cases failed
        exact ⟨cause, rfl, rfl⟩
    | ok own => cases failed
  · rintro ⟨cause, rfl, rfl⟩
    rfl

/-- Whether everything that a computation can return has a property. -/
def Returns (computed : Except ε α) (holds : α → Prop) : Prop :=
  ∀ value, computed = .ok value → holds value

theorem Returns.ok {holds : α → Prop} {value : α} (own : holds value) :
    Returns (.ok value : Except ε α) holds := by
  rintro _ ⟨⟩
  exact own

theorem Returns.error {holds : α → Prop} {fault : ε} : Returns (.error fault) holds := nofun

theorem Returns.bind {holds : α → Prop} {first : Except ε β} {next : β → Except ε α}
    (each : ∀ value, Returns (next value) holds) : Returns (first >>= next) holds := by
  cases first with
  | error fault => exact Returns.error
  | ok value => exact each value

theorem exists_ok_of_isSome {result : Except ε α} (succeeds : result.toOption.isSome) :
    ∃ value, result = .ok value := by
  cases result with
  | error fault => cases succeeds
  | ok value => exact ⟨value, rfl⟩

theorem exists_ok_of_any {result : Except ε α} {holds : α → Bool}
    (succeeds : result.toOption.any holds = true) : ∃ value, result = .ok value ∧ holds value = true := by
  cases result with
  | error fault => cases succeeds
  | ok value => exact ⟨value, rfl, succeeds⟩

/-! Lists. -/

theorem mapM_ok {f : α → Except ε β} {value : α → β} {values : List α}
    (each : ∀ item ∈ values, f item = .ok (value item)) : values.mapM f = .ok (values.map value) := by
  induction values with
  | nil => rfl
  | cons item values ih =>
      have rest := ih fun other later => each other (List.mem_cons_of_mem _ later)
      rw [List.mapM_cons, each item List.mem_cons_self, rest]
      rfl

theorem mapM_eq_ok {f : α → Except ε β} {values : List α} {results : List β}
    (succeeded : values.mapM f = .ok results) :
    (∀ value ∈ values, ∃ result ∈ results, f value = .ok result) ∧
      ∀ result ∈ results, ∃ value ∈ values, f value = .ok result := by
  induction values generalizing results with
  | nil =>
      cases succeeded
      simp
  | cons value values ih =>
      rw [List.mapM_cons] at succeeded
      cases first : f value with
      | error fault =>
          rw [first] at succeeded
          cases succeeded
      | ok head =>
          cases rest : values.mapM f with
          | error fault =>
              rw [first, rest] at succeeded
              cases succeeded
          | ok tail =>
              rw [first, rest] at succeeded
              cases succeeded
              obtain ⟨forward, backward⟩ := ih rest
              constructor
              · intro other member
                rcases List.mem_cons.1 member with rfl | later
                · exact ⟨head, List.mem_cons_self, first⟩
                · obtain ⟨result, belongs, same⟩ := forward other later
                  exact ⟨result, List.mem_cons_of_mem _ belongs, same⟩
              · intro result member
                rcases List.mem_cons.1 member with rfl | later
                · exact ⟨value, List.mem_cons_self, first⟩
                · obtain ⟨other, belongs, same⟩ := backward result later
                  exact ⟨other, List.mem_cons_of_mem _ belongs, same⟩

theorem mapM_isOk {f : α → Except ε β} {values : List α}
    (each : ∀ value ∈ values, ∃ result, f value = .ok result) :
    ∃ results, values.mapM f = .ok results := by
  induction values with
  | nil => exact ⟨[], rfl⟩
  | cons value values ih =>
      obtain ⟨head, first⟩ := each value List.mem_cons_self
      obtain ⟨tail, rest⟩ := ih fun other later => each other (List.mem_cons_of_mem _ later)
      refine ⟨head :: tail, ?_⟩
      rw [List.mapM_cons, first, rest]
      rfl

theorem exists_error_of_mapM {f : α → Except ε β} {values : List α} {fault : ε}
    (failed : values.mapM f = .error fault) : ∃ value ∈ values, f value = .error fault := by
  induction values with
  | nil => cases failed
  | cons value values ih =>
      rw [List.mapM_cons, bind_eq_error_iff] at failed
      rcases failed with first | ⟨head, -, rest⟩
      · exact ⟨value, List.mem_cons_self, first⟩
      · rcases bind_eq_error_iff.1 rest with rest | ⟨_, _, ⟨⟩⟩
        obtain ⟨other, later, failed⟩ := ih rest
        exact ⟨other, List.mem_cons_of_mem _ later, failed⟩

theorem mapM_congr {f g : α → Except ε β} {values : List α}
    (same : ∀ value ∈ values, f value = g value) : values.mapM f = values.mapM g := by
  induction values with
  | nil => rfl
  | cons value values ih =>
      have rest := ih fun other later => same other (List.mem_cons_of_mem _ later)
      rw [List.mapM_cons, List.mapM_cons, same value List.mem_cons_self, rest]

theorem map_eq_of_mapM {f : α → Except ε β} {source : β → α} {values : List α} {results : List β}
    (back : ∀ value ∈ values, ∀ result, f value = .ok result → source result = value)
    (succeeded : values.mapM f = .ok results) : results.map source = values := by
  induction values generalizing results with
  | nil =>
      cases succeeded
      rfl
  | cons value values ih =>
      rw [List.mapM_cons] at succeeded
      cases first : f value with
      | error fault =>
          rw [first] at succeeded
          cases succeeded
      | ok head =>
          cases rest : values.mapM f with
          | error fault =>
              rw [first, rest] at succeeded
              cases succeeded
          | ok tail =>
              rw [first, rest] at succeeded
              cases succeeded
              have others := ih (fun other later => back other (List.mem_cons_of_mem _ later)) rest
              rw [List.map_cons, others, back value List.mem_cons_self head first]

theorem mapM_filter [DecidableEq α] {f : α → Except ε β} {own : β → Bool} {target : α}
    {values : List α} (succeeds : target ∈ values → ∃ result, f target = .ok result ∧ own result)
    (others : ∀ value ∈ values, value ≠ target → ∀ result, f value = .ok result → own result = false) :
    (values.mapM f).map (List.filter fun result => !own result) =
      (values.filter fun value => value ≠ target).mapM f := by
  induction values with
  | nil => rfl
  | cons value values ih =>
      have rest := ih (fun member => succeeds (List.mem_cons_of_mem _ member))
        fun other member => others other (List.mem_cons_of_mem _ member)
      rw [List.mapM_cons]
      by_cases here : value = target
      · subst here
        obtain ⟨result, succeeded, belongs⟩ := succeeds List.mem_cons_self
        rw [List.filter_cons_of_neg (by simp), ← rest, succeeded]
        cases values.mapM f with
        | error fault => rfl
        | ok results => exact congrArg Except.ok (List.filter_cons_of_neg (by simpa using belongs))
      · rw [List.filter_cons_of_pos (by simpa using here), List.mapM_cons, ← rest]
        cases first : f value with
        | error fault => rfl
        | ok result =>
            have foreign := others value List.mem_cons_self here result first
            cases values.mapM f with
            | error fault => rfl
            | ok results => exact congrArg Except.ok (List.filter_cons_of_pos (by simpa using foreign))

end GatewayControl

import GatewayControl.Proofs.History

/-!
What versions say along a history in which no update succeeds at the largest version. What a client
has been given of an object are states of the object in their order, the current one last if it is
among them at all. So an update whose version is stored replaces the state that its client was given
last.
-/

namespace GatewayControl

/-- Whether none of the updates that succeeded was made at the largest version. -/
def Bounded (updates : List StoredItem) : Prop :=
  ∀ asked ∈ updates, asked.version + 1 < UInt64.size

instance (updates : List StoredItem) : Decidable (Bounded updates) :=
  inferInstanceAs (Decidable (∀ asked ∈ updates, asked.version + 1 < UInt64.size))

/-- Whether an item is what is stored under its reference, or was before. -/
def Contents.Reached (contents : Contents) (item : StoredItem) : Prop :=
  ∃ current, contents item.ref = some current ∧ (current = item ∨ item.version < current.version)

structure Known (contents : Contents) (ref : ObjectRef) (items : List StoredItem) : Prop where
  ascending : items.Pairwise fun earlier later => earlier.version ≤ later.version
  stored : ∀ item ∈ items, item.ref = ref ∧ contents.Reached item

theorem Known.step {contents after : Contents} {ref : ObjectRef} {items : List StoredItem}
    {call : StoreCall} {reply : call.Reply} (known : Known contents ref items)
    (answers : contents.Answers call reply after) (bounded : Bounded (call.updates? reply).toList) :
    Known after ref items := by
  refine ⟨known.ascending, fun item member => ?_⟩
  obtain ⟨same, current, found, old⟩ := known.stored item member
  obtain ⟨later, kept, newer⟩ := answers.keeps_or_rises
    (fun asked updates => bounded asked (Option.mem_toList.2 updates)) found
  refine ⟨same, later, kept, ?_⟩
  rcases newer with rfl | newer
  · exact old
  · rcases old with rfl | old
    · exact .inr newer
    · exact .inr (Nat.lt_trans old newer)

theorem Known.append {contents : Contents} {ref : ObjectRef} {items given : List StoredItem}
    (known : Known contents ref items)
    (current : ∀ item ∈ given, item.ref = ref ∧ contents ref = some item) :
    Known contents ref (items ++ given) := by
  constructor
  · rw [List.pairwise_append]
    refine ⟨known.ascending, ?_, ?_⟩
    · rw [List.pairwise_iff_forall_sublist]
      intro first second both
      have one := (current first (both.subset (by simp))).2
      have two := (current second (both.subset (by simp))).2
      cases one.symm.trans two
      exact Nat.le_refl _
    · intro old member new added
      obtain ⟨same, stored, found, newer⟩ := known.stored old member
      rw [same] at found
      cases found.symm.trans (current new added).2
      rcases newer with rfl | newer
      · exact Nat.le_refl _
      · exact Nat.le_of_lt newer
  · intro item member
    rcases List.mem_append.1 member with old | new
    · exact known.stored item old
    · obtain ⟨same, found⟩ := current item new
      exact ⟨same, item, same.symm ▸ found, .inl rfl⟩

theorem Known.getLast?_eq {contents : Contents} {ref : ObjectRef} {items : List StoredItem}
    (known : Known contents ref items) {current given : StoredItem}
    (found : contents ref = some current) (member : given ∈ items)
    (same : given.version = current.version) : items.getLast? = some current := by
  have nonempty : items ≠ [] := List.ne_nil_of_mem member
  obtain ⟨own, stored, found', newer⟩ := known.stored _ (List.getLast_mem nonempty)
  rw [own] at found'
  cases found.symm.trans found'
  rw [List.getLast?_eq_some_getLast nonempty]
  rcases newer with last | older
  · rw [← last]
  · exfalso
    have latest : given.version ≤ (items.getLast nonempty).version := by
      have split := List.dropLast_concat_getLast nonempty
      have ascending := known.ascending
      rw [← split, List.pairwise_append] at ascending
      rw [← split, List.mem_append, List.mem_singleton] at member
      rcases member with early | last
      · exact ascending.2.2 given early _ (List.mem_singleton_self _)
      · exact Nat.le_of_eq (congrArg StoredItem.version last)
    omega

section

variable {κ σ : Type} {handler : StoreHandler σ} {contents : σ → Contents}

theorem bounded_history {client : κ} {call : StoreCall} {calls : List (κ × StoreCall)} {state : σ} :
    Bounded (updatesIn (history handler ((client, call) :: calls) state)) ↔
      Bounded (call.updates? (handler call state).1).toList ∧
        Bounded (updatesIn (history handler calls (handler call state).2)) := by
  rw [updatesIn_history]
  exact List.forall_mem_append

theorem Versioned.keeps_or_rises (versioned : Versioned handler contents) {call : StoreCall}
    {state : σ} (bounded : Bounded (call.updates? (handler call state).1).toList) {ref : ObjectRef}
    {item : StoredItem} (found : contents state ref = some item) :
    ∃ later, contents (handler call state).2 ref = some later ∧
      (later = item ∨ item.version < later.version) :=
  (versioned.answers call state).keeps_or_rises
    (fun asked updates => bounded asked (Option.mem_toList.2 updates)) found

theorem Versioned.stateAfter_keeps (versioned : Versioned handler contents)
    (calls : List (κ × StoreCall)) {state : σ}
    (bounded : Bounded (updatesIn (history handler calls state))) {ref : ObjectRef}
    {item : StoredItem} (found : contents state ref = some item) :
    ∃ later, contents (stateAfter handler calls state) ref = some later ∧
      item.version ≤ later.version := by
  induction calls generalizing state item with
  | nil => exact ⟨item, found, Nat.le_refl _⟩
  | cons call calls ih =>
      obtain ⟨first, rest⟩ := bounded_history.1 bounded
      obtain ⟨next, kept, newer⟩ := versioned.keeps_or_rises first found
      obtain ⟨later, stays, atLeast⟩ := ih rest kept
      refine ⟨later, stays, ?_⟩
      rcases newer with rfl | newer
      · exact atLeast
      · omega

theorem Versioned.known_append [DecidableEq κ] (versioned : Versioned handler contents) (client : κ)
    {ref : ObjectRef} (calls : List (κ × StoreCall)) {state : σ}
    (bounded : Bounded (updatesIn (history handler calls state))) {items : List StoredItem}
    (known : Known (contents state) ref items) :
    Known (contents (stateAfter handler calls state)) ref
      (items ++ givenTo client ref (history handler calls state)) := by
  induction calls generalizing state items with
  | nil => simpa [givenTo, history, stateAfter] using known
  | cons call calls ih =>
      obtain ⟨caller, call⟩ := call
      obtain ⟨first, rest⟩ := bounded_history.1 bounded
      have answers := versioned.answers call state
      have later := known.step answers first
      simp only [history, stateAfter, givenTo, List.flatMap_cons, ← List.append_assoc]
      refine ih rest ?_
      split
      · refine later.append fun item member => ?_
        obtain ⟨given, same⟩ := List.mem_filter.1 member
        have own : item.ref = ref := by simpa using same
        exact ⟨own, own ▸ answers.given given⟩
      · simpa using later

theorem Versioned.known [DecidableEq κ] (versioned : Versioned handler contents) (client : κ)
    (ref : ObjectRef) (calls : List (κ × StoreCall)) {state : σ}
    (bounded : Bounded (updatesIn (history handler calls state))) :
    Known (contents (stateAfter handler calls state)) ref
      (givenTo client ref (history handler calls state)) := by
  have nothing : Known (contents state) ref [] := ⟨List.Pairwise.nil, by simp⟩
  simpa using versioned.known_append client calls bounded nothing

theorem Versioned.answers_step (versioned : Versioned handler contents)
    {step : Step StoreCall.Reply σ}
    (handled : handler step.call step.before = (step.reply, step.after)) :
    (contents step.before).Answers step.call step.reply (contents step.after) := by
  have answers := versioned.answers step.call step.before
  rwa [handled] at answers

theorem Versioned.version_eq (versioned : Versioned handler contents) (calls : List (κ × StoreCall))
    {state : σ} (bounded : Bounded (updatesIn (history handler calls state))) {ref : ObjectRef}
    {item : StoredItem} (found : contents (stateAfter handler calls state) ref = some item) :
    item.version = ((contents state ref).map StoredItem.version).getD 1 +
      ((updatesIn (history handler calls state)).filter fun asked => asked.ref = ref).length := by
  induction calls generalizing state with
  | nil =>
      simp only [stateAfter] at found
      simp [found, history, updatesIn]
  | cons call calls ih =>
      obtain ⟨caller, call⟩ := call
      obtain ⟨first, bounded⟩ := bounded_history.1 bounded
      have rest := ih bounded found
      have answers := versioned.answers call state
      rw [updatesIn_history]
      generalize (handler call state).1 = reply at answers first ⊢
      generalize afterEq : contents (handler call state).2 = after at answers rest
      cases answers with
      | kept missing =>
          rw [missing]
          exact rest
      | @updated asked current updates _ present version =>
          have small := first asked (Option.mem_toList.2 updates)
          rw [updates, nextVersion_of_lt small] at *
          by_cases here : ref = asked.ref
          · subst here
            simp only [Contents.put, StoredItem.ref_withVersion, if_true, Option.map_some,
              StoredItem.version_withVersion, Option.getD_some] at rest
            simp only [present, Option.map_some, Option.getD_some, Option.toList_some,
              List.singleton_append, List.filter_cons, decide_true, if_true, List.length_cons]
            omega
          · rw [Contents.put_of_ne _ (by simpa using here)] at rest
            simpa [List.filter_cons, Ne.symm here] using rest
      | @created asked missing _ absent =>
          rw [missing]
          by_cases here : ref = asked.ref
          · subst here
            simp only [Contents.put, StoredItem.ref_withVersion, if_true, Option.map_some,
              StoredItem.version_withVersion, Option.getD_some] at rest
            simpa [absent] using rest
          · rw [Contents.put_of_ne _ (by simpa using here)] at rest
            exact rest

theorem Versioned.creates_absent (versioned : Versioned handler contents)
    (calls : List (κ × StoreCall)) (state : σ) :
    ((createsIn (history handler calls state)).map StoredItem.ref).Nodup ∧
      ∀ asked ∈ createsIn (history handler calls state), contents state asked.ref = none := by
  induction calls generalizing state with
  | nil => simp [createsIn, history]
  | cons call calls ih =>
      obtain ⟨caller, call⟩ := call
      obtain ⟨distinct, fresh⟩ := ih (handler call state).2
      have answers := versioned.answers call state
      have before : ∀ asked ∈ createsIn (history handler calls (handler call state).2),
          contents state asked.ref = none := by
        intro asked member
        cases found : contents state asked.ref with
        | none => rfl
        | some item =>
            obtain ⟨later, kept, -⟩ := answers.keeps found
            cases (fresh asked member).symm.trans kept
      rw [createsIn_history]
      generalize (handler call state).1 = reply at answers ⊢
      generalize contents (handler call state).2 = after at answers fresh
      cases answers with
      | kept _ missing | updated _ missing =>
          rw [missing]
          exact ⟨distinct, before⟩
      | @created asked _ creates absent =>
          simp only [creates, Option.toList_some, List.singleton_append, List.map_cons,
            List.nodup_cons, List.forall_mem_cons]
          refine ⟨⟨fun member => ?_, distinct⟩, absent, before⟩
          obtain ⟨other, listed, same⟩ := List.mem_map.1 member
          have gone := fresh other listed
          rw [same, Contents.put, StoredItem.ref_withVersion, if_pos rfl] at gone
          cases gone

theorem Versioned.updates_above (versioned : Versioned handler contents)
    (calls : List (κ × StoreCall)) {state : σ}
    (bounded : Bounded (updatesIn (history handler calls state))) {item : StoredItem}
    (found : contents state item.ref = some item) :
    ∀ asked ∈ updatesIn (history handler calls state), asked.ref = item.ref →
      item.version ≤ asked.version := by
  intro asked member sameRef
  obtain ⟨⟨client, step⟩, listed, updated⟩ := List.mem_filterMap.1 member
  obtain ⟨earlier, later, split⟩ := List.append_of_mem listed
  obtain ⟨first, -, before, reached, handled, -⟩ := history_eq_append split
  rw [split, updatesIn_append, before] at bounded
  obtain ⟨stored, stays, atLeast⟩ :=
    versioned.stateAfter_keeps first (List.forall_mem_append.1 bounded).1 found
  have answers := versioned.answers_step handled
  obtain ⟨current, present, version, -⟩ := answers.of_updates updated
  rw [reached, sameRef] at present
  cases stays.symm.trans present
  omega

/-- No two updates of an object name the same version. -/
theorem Versioned.updates_ascend (versioned : Versioned handler contents)
    (calls : List (κ × StoreCall)) {state : σ}
    (bounded : Bounded (updatesIn (history handler calls state))) :
    (updatesIn (history handler calls state)).Pairwise fun first second =>
      first.ref = second.ref → first.version < second.version := by
  induction calls generalizing state with
  | nil => simp [updatesIn, history]
  | cons call calls ih =>
      obtain ⟨caller, call⟩ := call
      obtain ⟨small, bounded⟩ := bounded_history.1 bounded
      have rest := ih bounded
      rw [updatesIn_history]
      cases updates : call.updates? (handler call state).1 with
      | none => exact rest
      | some asked =>
          refine List.pairwise_cons.2 ⟨fun second member same => ?_, rest⟩
          obtain ⟨-, -, -, put⟩ := (versioned.answers call state).of_updates updates
          rw [nextVersion_of_lt (small asked (Option.mem_toList.2 updates))] at put
          have stored : contents (handler call state).2 (asked.withVersion (asked.version + 1)).ref =
              some (asked.withVersion (asked.version + 1)) := by
            rw [put]
            exact Contents.put_self _ _
          have above := versioned.updates_above calls bounded stored second member
            (by simpa using same.symm)
          rw [StoredItem.version_withVersion] at above
          omega

end

end GatewayControl

import GatewayControl.Program

/-!
Runs of programs, taken apart into their calls. What holds at every point of a run is shown call by
call: each step says in which state a call was made, what the reply was, and in which state the call
left the world.
-/

namespace GatewayControl

/-- A call of a run with its reply, and the states before and after it. -/
structure Step {Call : Type} (Reply : Call → Type) (σ : Type) where
  before : σ
  call : Call
  reply : Reply call
  after : σ

variable {Call Outer : Type} {Reply : Call → Type} {OuterReply : Outer → Type} {α β σ : Type}

def Step.embed (wrap : Call → Outer)
    (step : Step (fun request => OuterReply (wrap request)) σ) : Step OuterReply σ :=
  ⟨step.before, wrap step.call, step.reply, step.after⟩

namespace Program

def steps (handler : Handler Reply σ) : Program Reply α → σ → List (Step Reply σ)
  | done _, _ => []
  | call request next, state =>
    ⟨state, request, (handler request state).1, (handler request state).2⟩ ::
      (next (handler request state).1).steps handler (handler request state).2

/-- Makes each call of a program by calls of another kind. -/
def expand (answer : (call : Call) → Program OuterReply (Reply call)) :
    Program Reply α → Program OuterReply α
  | done value => done value
  | call request next => (answer request).bind fun reply => (next reply).expand answer

@[simp] theorem run_done (handler : Handler Reply σ) (value : α) (state : σ) :
    (done value : Program Reply α).run handler state = (value, state) := rfl

@[simp] theorem run_call (handler : Handler Reply σ) (request : Call)
    (next : Reply request → Program Reply α) (state : σ) :
    (call request next).run handler state =
      (next (handler request state).1).run handler (handler request state).2 := rfl

@[simp] theorem steps_done (handler : Handler Reply σ) (value : α) (state : σ) :
    (done value : Program Reply α).steps handler state = [] := rfl

@[simp] theorem steps_call (handler : Handler Reply σ) (request : Call)
    (next : Reply request → Program Reply α) (state : σ) :
    (call request next).steps handler state =
      ⟨state, request, (handler request state).1, (handler request state).2⟩ ::
        (next (handler request state).1).steps handler (handler request state).2 := rfl

theorem steps_bind (handler : Handler Reply σ) (program : Program Reply α)
    (next : α → Program Reply β) (state : σ) :
    (program.bind next).steps handler state =
      program.steps handler state ++
        (next (program.run handler state).1).steps handler (program.run handler state).2 := by
  induction program generalizing state with
  | done value => rfl
  | call request rest ih => simp only [bind, steps, run, ih, List.cons_append]

theorem run_embed (wrap : Call → Outer) (handler : Handler OuterReply σ)
    (program : Program (fun request => OuterReply (wrap request)) α) (state : σ) :
    (program.embed wrap).run handler state =
      program.run (fun request => handler (wrap request)) state := by
  induction program generalizing state with
  | done value => rfl
  | call request next ih => simp only [embed, run, ih]

theorem steps_embed (wrap : Call → Outer) (handler : Handler OuterReply σ)
    (program : Program (fun request => OuterReply (wrap request)) α) (state : σ) :
    (program.embed wrap).steps handler state =
      (program.steps (fun request => handler (wrap request)) state).map (Step.embed wrap) := by
  induction program generalizing state with
  | done value => rfl
  | call request next ih => simp only [embed, steps, ih, List.map_cons]; rfl

theorem run_expand (answer : (call : Call) → Program OuterReply (Reply call))
    (handler : Handler OuterReply σ) (program : Program Reply α) (state : σ) :
    (program.expand answer).run handler state =
      program.run (fun request => (answer request).run handler) state := by
  induction program generalizing state with
  | done value => rfl
  | call request next ih => simp only [expand, run_bind, run, ih]

theorem steps_expand (answer : (call : Call) → Program OuterReply (Reply call))
    (handler : Handler OuterReply σ) (program : Program Reply α) (state : σ) :
    (program.expand answer).steps handler state =
      (program.steps (fun request => (answer request).run handler) state).flatMap fun step =>
        (answer step.call).steps handler step.before := by
  induction program generalizing state with
  | done value => rfl
  | call request next ih =>
      simp only [expand, steps_bind, steps, List.flatMap_cons]
      rw [ih]

theorem handled_of_mem_steps {handler : Handler Reply σ} {program : Program Reply α} {state : σ}
    {step : Step Reply σ} (member : step ∈ program.steps handler state) :
    handler step.call step.before = (step.reply, step.after) := by
  induction program generalizing state with
  | done value => exact (List.not_mem_nil member).elim
  | call request next ih =>
      rcases List.mem_cons.1 member with same | member
      · subst same
        rfl
      · exact ih _ member

def points (handler : Handler Reply σ) (program : Program Reply α) (state : σ) : List σ :=
  state :: (program.steps handler state).map Step.after

theorem end_mem_points (handler : Handler Reply σ) (program : Program Reply α) (state : σ) :
    (program.run handler state).2 ∈ program.points handler state := by
  induction program generalizing state with
  | done value => exact List.mem_cons_self
  | call request next ih => exact List.mem_cons_of_mem _ (ih _ _)

theorem holds_along {handler : Handler Reply σ} {program : Program Reply α} {state : σ}
    (holds : σ → Prop) (start : holds state)
    (kept : ∀ step ∈ program.steps handler state, holds step.before → holds step.after) :
    ∀ point ∈ program.points handler state, holds point := by
  induction program generalizing state with
  | done value =>
      intro point member
      rw [List.mem_singleton.1 member]
      exact start
  | call request next ih =>
      have first := kept _ List.mem_cons_self start
      intro point member
      rcases List.mem_cons.1 member with same | member
      · rw [same]
        exact start
      · exact ih _ first (fun step member => kept step (List.mem_cons_of_mem _ member)) point member

/-- What every call keeps together with the calls before it holds at the end of a run. -/
theorem holds_recording {handler : Handler Reply σ} {program : Program Reply α} {state : σ}
    (holds : List (Step Reply σ) → σ → Prop) (past : List (Step Reply σ)) (start : holds past state)
    (kept : ∀ step ∈ program.steps handler state, ∀ past, holds past step.before →
      holds (past ++ [step]) step.after) :
    holds (past ++ program.steps handler state) (program.run handler state).2 := by
  induction program generalizing state past with
  | done value =>
      rw [steps_done, List.append_nil]
      exact start
  | call request next ih =>
      have first := kept _ List.mem_cons_self past start
      have rest := ih _ _ first fun step member => kept step (List.mem_cons_of_mem _ member)
      rwa [List.append_assoc, List.singleton_append] at rest

theorem holds_before {handler : Handler Reply σ} {program : Program Reply α} {state : σ}
    (holds : List (Step Reply σ) → σ → Prop) (past : List (Step Reply σ)) (start : holds past state)
    (kept : ∀ step ∈ program.steps handler state, ∀ past, holds past step.before →
      holds (past ++ [step]) step.after)
    {earlier later : List (Step Reply σ)} {step : Step Reply σ}
    (made : program.steps handler state = earlier ++ step :: later) :
    holds (past ++ earlier) step.before := by
  induction program generalizing state past earlier with
  | done value => simp at made
  | call request next ih =>
      have first := kept _ List.mem_cons_self past start
      rw [steps_call] at made
      cases earlier with
      | nil =>
          obtain ⟨rfl, -⟩ := List.cons.inj made
          rw [List.append_nil]
          exact start
      | cons other earlier =>
          obtain ⟨rfl, rest⟩ := List.cons.inj made
          have before := ih _ _ first (fun step member => kept step (List.mem_cons_of_mem _ member)) rest
          rwa [List.append_assoc, List.singleton_append] at before

/-- What every call keeps together with a count of the calls that are counted holds at the end. -/
theorem holds_counting {handler : Handler Reply σ} {program : Program Reply α} {state : σ}
    (counted : Step Reply σ → Bool) (holds : Nat → σ → Prop) (start : holds 0 state)
    (kept : ∀ step ∈ program.steps handler state, ∀ count, holds count step.before →
      holds (count + if counted step then 1 else 0) step.after) :
    holds ((program.steps handler state).countP counted) (program.run handler state).2 := by
  refine holds_recording (fun past point => holds (past.countP counted) point) [] start ?_
  intro step member past before
  rw [List.countP_append, List.countP_singleton]
  exact kept step member _ before

theorem holds_since {handler : Handler Reply σ} {program : Program Reply α} {state : σ}
    (holds : σ → Prop) {step : Step Reply σ} (member : step ∈ program.steps handler state)
    (since : holds step.after)
    (kept : ∀ step ∈ program.steps handler state, holds step.before → holds step.after) :
    holds (program.run handler state).2 := by
  induction program generalizing state with
  | done value => exact (List.not_mem_nil member).elim
  | call request next ih =>
      have later := fun step member => kept step (List.mem_cons_of_mem _ member)
      rcases List.mem_cons.1 member with same | member
      · subst same
        exact holds_along holds since later _ (end_mem_points _ _ _)
      · exact ih _ member later

theorem holds_at_end {handler : Handler Reply σ} (program : Program Reply α) {state : σ}
    (holds : σ → Prop) (start : holds state)
    (kept : ∀ call state, holds state → holds (handler call state).2) :
    holds (program.run handler state).2 := by
  refine holds_along holds start ?_ _ (end_mem_points _ _ _)
  intro step member before
  have after := kept step.call step.before before
  rw [handled_of_mem_steps member] at after
  exact after

theorem run_view {τ : Type} {handler : Handler Reply σ} {other : Handler Reply τ} {view : σ → τ}
    (holds : σ → Prop)
    (agrees : ∀ call state, holds state → holds (handler call state).2 ∧
      (handler call state).1 = (other call (view state)).1 ∧
      view (handler call state).2 = (other call (view state)).2)
    (program : Program Reply α) {state : σ} (start : holds state) :
    holds (program.run handler state).2 ∧
      (program.run handler state).1 = (program.run other (view state)).1 ∧
      view (program.run handler state).2 = (program.run other (view state)).2 := by
  induction program generalizing state with
  | done value => exact ⟨start, rfl, rfl⟩
  | call request next ih =>
      obtain ⟨kept, reply, seen⟩ := agrees request state start
      rw [run_call, run_call, ← reply, ← seen]
      exact ih _ kept

/-- Runs of a program from related states have one result and end in related states, if every call of
the first run has one reply in related states and leaves them related. -/
theorem run_related {τ : Type} {handler : Handler Reply σ} {other : Handler Reply τ}
    (related : σ → τ → Prop) {program : Program Reply α} {state : σ} {twin : τ}
    (start : related state twin)
    (agrees : ∀ step ∈ program.steps handler state, ∀ twin, related step.before twin →
      (other step.call twin).1 = step.reply ∧ related step.after (other step.call twin).2) :
    (program.run other twin).1 = (program.run handler state).1 ∧
      related (program.run handler state).2 (program.run other twin).2 := by
  induction program generalizing state twin with
  | done value => exact ⟨rfl, start⟩
  | call request next ih =>
      obtain ⟨reply, after⟩ := agrees _ List.mem_cons_self twin start
      rw [run_call, run_call, reply]
      exact ih _ after fun step member => agrees step (List.mem_cons_of_mem _ member)

inductive Reaches (handle : Handler Reply σ) (program : Program Reply α) (state : σ) :
    Program Reply α → σ → Prop
  | start : Reaches handle program state program state
  | call {request : Call} {next : Reply request → Program Reply α} {point : σ} :
      Reaches handle program state (.call request next) point →
      Reaches handle program state (next (handle request point).1) (handle request point).2

namespace Reaches

variable {handle : Handler Reply σ} {program left : Program Reply α} {state point : σ}

theorem run_eq (reaches : Reaches handle program state left point) :
    left.run handle point = program.run handle state := by
  induction reaches with
  | start => rfl
  | call reaches ih => exact ih

theorem points_eq (reaches : Reaches handle program state left point) :
    ∃ before, program.points handle state = before ++ left.points handle point := by
  induction reaches with
  | start => exact ⟨[], rfl⟩
  | @call request next point reaches ih =>
      obtain ⟨before, points⟩ := ih
      refine ⟨before ++ [point], ?_⟩
      rw [points, List.append_assoc]
      rfl

theorem mem_points (reaches : Reaches handle program state left point) :
    point ∈ program.points handle state := by
  obtain ⟨before, points⟩ := reaches.points_eq
  rw [points]
  exact List.mem_append_right _ List.mem_cons_self

end Reaches

theorem run_mapM_concat {ι : Type} (handle : Handler Reply σ) (program : ι → Program Reply α)
    (items : List ι) (item : ι) (state : σ) :
    ((items ++ [item]).mapM program).run handle state =
      let before := (items.mapM program).run handle state
      let last := (program item).run handle before.2
      (before.1 ++ [last.1], last.2) := by
  have parts : (items ++ [item]).mapM program = (items.mapM program).bind fun values =>
      (program item).bind fun value => .done (values ++ [value]) := by
    rw [List.mapM_append, List.mapM_cons, List.mapM_nil]
    simp only [bind_assoc, Bind.bind, Pure.pure, Program.bind]
  rw [parts, run_bind, run_bind]
  rfl

end Program

end GatewayControl

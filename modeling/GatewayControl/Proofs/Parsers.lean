import GatewayControl.Parser
import Mathlib.Data.Option.Basic

/-!
Laws of recognisers: what each of the ways to put recognisers together does to an input. A
repetition reads what its items read one after the other, as long as each of them takes something.
-/

namespace GatewayControl.Parser

variable {α β : Type} {input middle rest : List Char}

@[simp] theorem run_pure (value : α) : (pure value : Parser α) input = some (value, input) := rfl

@[simp] theorem run_bind (item : Parser α) (next : α → Parser β) :
    (item >>= next) input = (item input).bind fun result => next result.1 result.2 := rfl

@[simp] theorem run_map (f : α → β) (item : Parser α) :
    (f <$> item) input = (item input).map fun result => (f result.1, result.2) := by
  change ((item input).bind fun result => some (f result.1, result.2)) = _
  cases item input <;> rfl

@[simp] theorem run_orElse (item other : Parser α) :
    (item <|> other) input = (item input).or (other input) := by
  change (item input <|> other input) = _
  cases item input <;> rfl

@[simp] theorem run_failure : (failure : Parser α) input = none := rfl

@[simp] theorem run_guard (condition : Prop) [Decidable condition] :
    (guard condition : Parser Unit) input = if condition then some ((), input) else none := by
  change (if condition then (pure () : Parser Unit) else failure) input = _
  by_cases holds : condition
  · rw [if_pos holds, if_pos holds]
    rfl
  · rw [if_neg holds, if_neg holds]
    rfl

@[simp] theorem run_option (item : Parser α) :
    option item input =
      match item input with
      | some (value, rest) => some (some value, rest)
      | none => some (none, input) := by
  rw [option, run_orElse, run_bind]
  cases item input <;> rfl

theorem stripStart_append (text rest : List Char) : stripStart text (text ++ rest) = some rest := by
  induction text with
  | nil => rfl
  | cons char text ih => rw [List.cons_append, stripStart, if_pos rfl, ih]

theorem literal_append (text : String) (rest : List Char) :
    literal text (text.toList ++ rest) = some ((), rest) := by
  rw [literal, stripStart_append]
  rfl

theorem satisfy_cons (accepted : Char → Bool) (char : Char) (rest : List Char) :
    satisfy accepted (char :: rest) = if accepted char then some (char, rest) else none := rfl

inductive Reads (item : Parser α) : List Char → List α → List Char → Prop
  | stop {input : List Char} : item input = none → Reads item input [] input
  | more {input middle final : List Char} {value : α} {values : List α} :
      item input = some (value, middle) → middle.length < input.length →
      Reads item middle values final → Reads item input (value :: values) final

theorem Reads.manyWithin_eq {item : Parser α} {values : List α} (reads : Reads item input values rest)
    {fuel : Nat} (enough : input.length ≤ fuel) : manyWithin item fuel input = (values, rest) := by
  induction reads generalizing fuel with
  | stop failed => cases fuel with
    | zero => rfl
    | succ fuel => rw [manyWithin, failed]
  | @more input middle final value values read shorter _ ih =>
      cases fuel with
      | zero => omega
      | succ fuel =>
          have later : middle.length ≤ fuel := by omega
          rw [manyWithin, read]
          simp only [ih later]

theorem Reads.many_eq {item : Parser α} {values : List α} (reads : Reads item input values rest) :
    many item input = some (values, rest) := by
  rw [many, reads.manyWithin_eq (Nat.le_refl _)]

theorem Reads.of_flatMap {item : Parser β} {write : α → List Char} {value : α → β} {items : List α}
    (each : ∀ one ∈ items, ∀ rest, item (write one ++ rest) = some (value one, rest))
    (nonemptyItems : ∀ one ∈ items, write one ≠ []) (stop : item rest = none) :
    Reads item (items.flatMap write ++ rest) (items.map value) rest := by
  induction items with
  | nil => exact .stop stop
  | cons one items ih =>
      have nonempty := List.length_pos_iff.2 (nonemptyItems one List.mem_cons_self)
      rw [List.flatMap_cons, List.append_assoc, List.map_cons]
      refine .more (each one List.mem_cons_self _) ?_ (ih ?_ ?_)
      · simp only [List.length_append]
        omega
      · exact fun other member => each other (List.mem_cons_of_mem _ member)
      · exact fun other member => nonemptyItems other (List.mem_cons_of_mem _ member)

theorem takeWhile_append {accepted : Char → Bool} {text : List Char}
    (all : ∀ char ∈ text, accepted char = true)
    (stop : ∀ char ∈ rest.head?, accepted char = false) :
    takeWhile accepted (text ++ rest) = some (text, rest) := by
  rw [takeWhile]
  induction text with
  | nil =>
      cases rest with
      | nil => rfl
      | cons char rest =>
          have stops : accepted char = false := stop char rfl
          simp [stops]
  | cons char text ih =>
      have takes : accepted char = true := all char List.mem_cons_self
      have later := ih fun other member => all other (List.mem_cons_of_mem _ member)
      simp only [Option.some.injEq, Prod.mk.injEq] at later
      simp [takes, later]

end GatewayControl.Parser

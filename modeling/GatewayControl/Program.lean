/-!
Programs that call the world around them. A program is done with a value, or makes a call and goes
on with the reply. What a call does is up to the handler that the program is run with, so one
program can be run on any store and with calls that fail, and be stopped between two calls.
-/

namespace GatewayControl

inductive Program {Call : Type} (Reply : Call → Type) (α : Type)
  | done (value : α)
  | call (call : Call) (next : Reply call → Program Reply α)

abbrev Handler {Call : Type} (Reply : Call → Type) (σ : Type) :=
  (call : Call) → σ → Reply call × σ

namespace Program

variable {Call : Type} {Reply : Call → Type} {α β σ : Type}

def bind : Program Reply α → (α → Program Reply β) → Program Reply β
  | done value, next => next value
  | call request rest, next => call request fun reply => (rest reply).bind next

instance : Monad (Program Reply) where
  pure := done
  bind := bind

def request (request : Call) : Program Reply (Reply request) := call request done

def run (handler : Handler Reply σ) : Program Reply α → σ → α × σ
  | done value, state => (value, state)
  | call request next, state =>
    let (reply, state) := handler request state
    (next reply).run handler state

def runIn {m : Type → Type} [Monad m] (answer : (call : Call) → m (Reply call)) :
    Program Reply α → m α
  | done value => pure value
  | call request next => do (next (← answer request)).runIn answer

def embed {Outer : Type} {OuterReply : Outer → Type} (wrap : Call → Outer) :
    Program (fun request => OuterReply (wrap request)) α → Program OuterReply α
  | done value => done value
  | call request next => call (wrap request) fun reply => (next reply).embed wrap

theorem bind_done (program : Program Reply α) : program.bind done = program := by
  induction program with
  | done value => rfl
  | call request next ih => simp only [bind, ih]

theorem bind_assoc {γ : Type} (program : Program Reply α) (next : α → Program Reply β)
    (last : β → Program Reply γ) :
    (program.bind next).bind last = program.bind fun value => (next value).bind last := by
  induction program with
  | done value => rfl
  | call request rest ih => simp only [bind, ih]

instance : LawfulMonad (Program Reply) :=
  LawfulMonad.mk' (Program Reply)
    (fun program => bind_done program)
    (fun _ _ => rfl)
    (fun program next last => bind_assoc program next last)

theorem run_bind (handler : Handler Reply σ) (program : Program Reply α)
    (next : α → Program Reply β) (state : σ) :
    (program.bind next).run handler state =
      (next (program.run handler state).1).run handler (program.run handler state).2 := by
  induction program generalizing state with
  | done value => rfl
  | call request rest ih => simp only [bind, run, ih]

end Program

end GatewayControl

/-!
# Flows

A flow is a program that only asks: each step is one typed request to its surroundings and a
continuation for the answer.  The same flow runs in every world that can answer its requests, so
what a flow does is told by the list of its requests and what a world does by its answers.

Main statements: `Flow` is a lawful monad, and `Flow.foldM` (running a flow in a world, or serving
it with finer requests) is a homomorphism for sequencing.
-/

namespace NodeVolumes

/-- A vocabulary of requests, each with the type of its answer. -/
structure Interface where
  Request : Type
  Answer : Request → Type

/-- A program over the requests of `I` that ends with a value. -/
inductive Flow (I : Interface) (α : Type) : Type where
  | done (value : α)
  | ask (request : I.Request) (next : I.Answer request → Flow I α)

namespace Flow

variable {I : Interface} {α β γ : Type}

def bind : Flow I α → (α → Flow I β) → Flow I β
  | .done value, f => f value
  | .ask request next, f => .ask request fun answer => (next answer).bind f

instance : Monad (Flow I) where
  pure := .done
  bind := bind

@[simp] theorem pure_eq_done (value : α) : (pure value : Flow I α) = .done value := rfl

@[simp] theorem done_bind (value : α) (f : α → Flow I β) :
    (Flow.done value >>= f) = f value := rfl

@[simp] theorem ask_bind (request : I.Request) (next : I.Answer request → Flow I α)
    (f : α → Flow I β) :
    (Flow.ask request next >>= f) = .ask request fun answer => next answer >>= f := rfl

theorem bind_done_right (flow : Flow I α) : (flow >>= Flow.done) = flow := by
  induction flow with
  | done value => rfl
  | ask request next ih =>
      rw [ask_bind]
      exact congrArg (Flow.ask request) (funext ih)

theorem bind_bind (flow : Flow I α) (f : α → Flow I β) (g : β → Flow I γ) :
    ((flow >>= f) >>= g) = (flow >>= fun a => f a >>= g) := by
  induction flow with
  | done value => rfl
  | ask request next ih =>
      rw [ask_bind, ask_bind, ask_bind]
      exact congrArg (Flow.ask request) (funext ih)

instance : LawfulMonad (Flow I) :=
  LawfulMonad.mk' (Flow I) (fun flow => bind_done_right flow) (fun _ _ => rfl)
    (fun flow f g => bind_bind flow f g)

def request (r : I.Request) : Flow I (I.Answer r) :=
  .ask r .done

/--
Runs a flow with `answer` for its requests.

With a state monad this runs the flow in a world; with another flow monad each request of `I` is
served by a program over the requests of `J`.
-/
def foldM {m : Type → Type} [Monad m] (answer : (r : I.Request) → m (I.Answer r)) :
    Flow I α → m α
  | .done value => pure value
  | .ask r next => do
      let reply ← answer r
      foldM answer (next reply)

section Fold

variable {m : Type → Type} [Monad m] (answer : (r : I.Request) → m (I.Answer r))

@[simp] theorem foldM_done (value : α) :
    foldM answer (.done value : Flow I α) = pure value := rfl

@[simp] theorem foldM_ask (r : I.Request) (next : I.Answer r → Flow I α) :
    foldM answer (.ask r next) = (do let reply ← answer r; foldM answer (next reply)) := rfl

theorem foldM_bind [LawfulMonad m] (flow : Flow I α) (f : α → Flow I β) :
    foldM answer (flow >>= f) = (do let a ← foldM answer flow; foldM answer (f a)) := by
  induction flow with
  | done value => simp
  | ask r next ih =>
      rw [ask_bind, foldM_ask, foldM_ask, bind_assoc]
      exact bind_congr fun reply => ih reply

/-- Serving requests by programs and then answering those is answering with their runs. -/
theorem foldM_foldM [LawfulMonad m] {J : Interface} (serve : (r : J.Request) → Flow I (J.Answer r))
    (flow : Flow J α) :
    foldM answer (foldM serve flow) = foldM (fun r => foldM answer (serve r)) flow := by
  induction flow with
  | done value => rfl
  | ask r next ih =>
      rw [foldM_ask, foldM_bind, foldM_ask]
      exact bind_congr fun reply => ih reply

end Fold

end Flow

end NodeVolumes

import VolumeMigration.Kubernetes.Message

/-!
# Dialogues with an API server

A dialogue is a sequence of requests in which each may depend on the responses so far; it ends with
a value or with a failure. `Dialogue.run` holds a dialogue over a transport, which brings requests
to a server and its responses back, or finds no server.
-/

namespace VolumeMigration

/-- A dialogue that ends with a value of type `α` or fails. -/
inductive Dialogue (α : Type) where
  | done (value : α)
  | fail (failure : Failure)
  | send (request : HttpRequest) (next : HttpResponse → Dialogue α)

/-- The way to an API server: its response to a request, and the state of both after it. -/
abbrev Transport (σ : Type) := HttpRequest → σ → Except ApiFault HttpResponse × σ

/-- The way to a server that nothing listens at. -/
def Transport.unreachable {σ : Type} : Transport σ :=
  fun _ state => (.error .unreachable, state)

namespace Dialogue

variable {α β : Type}

/-- Continues a dialogue that ends with a value. -/
def bind : Dialogue α → (α → Dialogue β) → Dialogue β
  | .done value, next => next value
  | .fail failure, _ => .fail failure
  | .send request rest, next => .send request fun response => (rest response).bind next

instance : Monad Dialogue where
  pure := .done
  bind := bind

/-- The dialogue that ends like a result, without a request. -/
def ofExcept : Except ApiFault α → Dialogue α
  | .ok value => .done value
  | .error fault => .fail (.api fault)

/-- The dialogue with its failure as a result, so that the caller can go on. -/
def attempt : Dialogue α → Dialogue (Except Failure α)
  | .done value => .done (.ok value)
  | .fail failure => .done (.error failure)
  | .send request rest => .send request fun response => (rest response).attempt

/-- A dialogue over a transport. A request that is not answered ends it. -/
def run {σ : Type} (transport : Transport σ) : Dialogue α → σ → Except Failure α × σ
  | .done value, state => (.ok value, state)
  | .fail failure, state => (.error failure, state)
  | .send request next, state =>
      match transport request state with
      | (.ok response, after) => (next response).run transport after
      | (.error fault, after) => (.error (.api fault), after)

end Dialogue

end VolumeMigration

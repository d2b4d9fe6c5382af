import GraphBatch.Error.Basic

/-!
# Errors as they are held

An error is held part by part, each part at a place of its own, and a copy of an
error holds the same parts. A context is added in place: its only part takes the
error for its cause. So nothing but the context itself may hold that part; a
context that is held elsewhere too cannot be added.
-/

namespace GraphBatch

structure Held.Part where
  place : Nat
  cause : Cause
deriving DecidableEq, Repr

/-- An error as it is held: its outermost part, and what that is a context of. -/
structure Held where
  outer : Held.Part
  inner : List Held.Part
deriving DecidableEq, Repr

namespace Held

inductive Refusal where
  /-- It has a cause of its own. -/
  | caused
  /-- Something else holds it too. -/
  | shared
deriving DecidableEq, Repr

def Refusal.message : Refusal → String
  | .caused => "consequent error must not already have a cause"
  | .shared => "called `Option::unwrap()` on a `None` value"

/-- A new error, at a place that is free. -/
def ofCause (place : Nat) (cause : Cause) : Held := ⟨⟨place, cause⟩, []⟩

def parts (held : Held) : List Part := held.outer :: held.inner

def places (held : Held) : List Nat := held.parts.map Part.place

def error (held : Held) : Error := ⟨held.outer.cause, held.inner.map Part.cause⟩

/-- Adds a context, unless it has a cause of its own, or the error or something else that
is held has its part. -/
def withContext (held context : Held) (others : List Held) : Except Refusal Held :=
  if context.inner ≠ [] then .error .caused
  else if ∃ other ∈ held :: others, context.outer.place ∈ other.places then .error .shared
  else .ok ⟨context.outer, held.parts⟩

/-- Adds contexts, the first one innermost. Those that are still to come are held. -/
def withContexts : Held → List Held → List Held → Except Refusal Held
  | held, [], _ => .ok held
  | held, context :: rest, others => do
      let reached ← held.withContext context (rest ++ others)
      reached.withContexts rest others

end Held

end GraphBatch

/-!
# Breadth-first search

The things that can be reached from a list of starts, each once, in order of
discovery: all that lies nearer comes first. The search is generic in how a
thing leads to others. It is told how many entries may pass through its queue;
the starts plus everything that distinct things lead to are always enough.
-/

set_option autoImplicit false

namespace Introspection.Search

/-- Take entries off the queue, passing over those seen before and adding what
the others lead to at the end of the queue. -/
def visit {α : Type} [DecidableEq α] (next : α → List α) : Nat → List α → List α → List α
  | 0, _, _ => []
  | _ + 1, _, [] => []
  | bound + 1, seen, head :: queue =>
      if head ∈ seen then visit next bound seen queue
      else head :: visit next bound (head :: seen) (queue ++ next head)

/-- All that can be reached from the starts, in order of discovery. -/
def breadthFirst {α : Type} [DecidableEq α] (next : α → List α) (bound : Nat)
    (starts : List α) : List α :=
  visit next bound [] starts

end Introspection.Search

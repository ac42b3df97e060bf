import CoEdit.Document
import CoEdit.Time.Instant

/-!
# Changes

An edit that was applied: who made it, when, and under which id. Changes are never altered; the
document is the seed with all changes of a session applied in order.

## Main definitions

* `Change`.
* `foldChanges`: the text after a list of changes.
-/

namespace CoEdit

open CoEdit.Time (Instant)

/-- An applied edit. -/
structure Change where
  id : String
  authorId : String
  timestamp : Instant
  operation : Operation
  deriving DecidableEq, Repr

/-- The text after a list of changes, the first one first. -/
def foldChanges (seed : String) (changes : List Change) : String :=
  Document.replayOn seed (changes.map Change.operation)

@[simp] theorem foldChanges_nil (seed : String) : foldChanges seed [] = seed := rfl

theorem foldChanges_append (seed : String) (xs ys : List Change) :
    foldChanges seed (xs ++ ys) = foldChanges (foldChanges seed xs) ys := by
  simp [foldChanges, Document.replayOn]

end CoEdit

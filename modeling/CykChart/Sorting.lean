/-!
# Sorting by insertion

Symbols, heads and names are listed in order of their code points. The lists are short, so they
are sorted by insertion, which recurs on the list and keeps equal elements in their order.

## Main definitions

- `insertBy`: an element put before the first one that it may precede.
- `sortBy`: a list in order.
-/

namespace CykChart

variable {α : Type}

/-- Put an element before the first element of a list that it may precede. -/
def insertBy (le : α → α → Bool) (a : α) : List α → List α
  | [] => [a]
  | b :: rest => if le a b then a :: b :: rest else b :: insertBy le a rest

/-- The elements of a list in order. -/
def sortBy (le : α → α → Bool) (as : List α) : List α :=
  as.foldr (insertBy le) []

/-- Inserting rearranges the element put in front. -/
theorem insertBy_perm (le : α → α → Bool) (a : α) (as : List α) :
    (insertBy le a as).Perm (a :: as) := by
  induction as with
  | nil => exact List.Perm.refl _
  | cons b rest ih =>
    unfold insertBy
    split
    · exact List.Perm.refl _
    · exact (ih.cons b).trans (List.Perm.swap a b rest)

/-- Sorting rearranges a list. -/
theorem sortBy_perm (le : α → α → Bool) (as : List α) : (sortBy le as).Perm as := by
  induction as with
  | nil => exact List.Perm.refl _
  | cons a rest ih => exact (insertBy_perm le a _).trans (ih.cons a)

/-- Sorting keeps the elements of a list. -/
@[simp]
theorem mem_sortBy {le : α → α → Bool} {a : α} {as : List α} : a ∈ sortBy le as ↔ a ∈ as :=
  (sortBy_perm le as).mem_iff

/-- The order of symbols by code point. -/
def symbolLe (a b : Char) : Bool :=
  a ≤ b

end CykChart

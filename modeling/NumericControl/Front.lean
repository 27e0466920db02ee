/-!
# The front of a sequence

A limit on a sequence keeps that many items; a negative limit counts from the end and leaves that
many items out.

## Main definitions

* `front` : the items within a limit.
-/

namespace NumericControl

/-- The first `limit` items, or all but the last `-limit` ones if the limit is negative. -/
def front {α : Type} (limit : Int) (items : List α) : List α :=
  items.take (if limit < 0 then items.length - limit.natAbs else limit.natAbs)

theorem front_of_nonneg {α : Type} {limit : Int} (h : 0 ≤ limit) (items : List α) :
    front limit items = items.take limit.toNat := by
  have : ¬limit < 0 := by omega
  simp only [front, this, if_false]
  congr 1
  omega

theorem front_sublist {α : Type} (limit : Int) (items : List α) :
    (front limit items).Sublist items :=
  List.take_sublist _ _

end NumericControl

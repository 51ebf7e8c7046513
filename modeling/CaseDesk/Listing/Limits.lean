/-
  Paging limits: the page size used when a request asks for none, and the
  largest page it may ask for.  Both are at least one, and the default does
  not exceed the maximum.
-/
namespace CaseDesk

/-- The sizes of pages. -/
structure PageLimits where
  defaultSize : Nat
  maxSize : Nat
  default_pos : 1 ≤ defaultSize
  default_le_max : defaultSize ≤ maxSize
  deriving DecidableEq

namespace PageLimits

/-- Limits from two wishes, each raised to at least one, and the default cut to the maximum. -/
def ofWishes (defaultSize maxSize : Nat) : PageLimits where
  maxSize := max 1 maxSize
  defaultSize := min (max 1 defaultSize) (max 1 maxSize)
  default_pos := by omega
  default_le_max := by omega

/-- Sixteen rows unless asked, a thousand at most. -/
def standard : PageLimits := ofWishes 16 1000

/-- The page size for a request; one that is not positive stands for the default. -/
def effectiveSize (limits : PageLimits) (asked : Int) : Nat :=
  if 0 < asked then min asked.toNat limits.maxSize else limits.defaultSize

end PageLimits

end CaseDesk

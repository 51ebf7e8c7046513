/-
  List queries: the page, the search text, the sort terms, the projection and
  the ids that a list request asks for.
-/
import CaseDesk.Listing.Limits
import CaseDesk.Listing.Names
import CaseDesk.Listing.Pattern
import CaseDesk.Listing.Sort
import CaseDesk.ServiceError

namespace CaseDesk

/-- What a list request asks for, its page and size made valid. -/
structure ListQuery where
  page : Nat
  size : Nat
  search : Option Pattern := none
  sort : List SortTerm := []
  fields : List String := []
  ids : List Int := []
  deriving DecidableEq, Repr

namespace ListQuery

/-- The largest count of rows that is told apart; larger ones are cut to it. -/
def maxCount : Nat := 18446744073709551615

/-- Every row, page by page; a page that is not positive stands for the first. -/
def plain (page size : Int) (limits : PageLimits) : ListQuery where
  page := if 0 < page then page.toNat else 1
  size := limits.effectiveSize size

/-- Asks for rows whose text satisfies a search text only. -/
def searching (query : ListQuery) (q : String) : Except StoreError ListQuery :=
  match Pattern.parse q with
  | .ok search => .ok { query with search }
  | .error reason => .error (.invalidSearch reason)

/-- Sorts by an expression. -/
def sortedBy (query : ListQuery) (sort : String) : ListQuery :=
  { query with sort := SortTerm.parseList sort }

/-- Projects rows onto fields. -/
def onto (query : ListQuery) (fields : List String) : ListQuery :=
  { query with fields := fieldNames fields }

/-- Asks for rows with the given ids only, if there are any. -/
def among (query : ListQuery) (ids : List Int) : ListQuery := { query with ids }

/-- Whether a row with this id is asked for. -/
def acceptsId (query : ListQuery) (id : Int) : Bool := query.ids.isEmpty || query.ids.contains id

/-- Whether a row with this text is asked for. -/
def acceptsText (query : ListQuery) (text : String) : Bool :=
  match query.search with
  | some pattern => pattern.accepts text
  | none => true

/-- How many rows precede the page. -/
def offset (query : ListQuery) : Nat := min ((query.page - 1) * query.size) maxCount

end ListQuery

end CaseDesk

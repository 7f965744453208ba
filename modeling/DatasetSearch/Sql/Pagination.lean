/-!
# Pages

A page is asked for by its number and its size, both 32-bit words of at least one.
-/

namespace DatasetSearch

/-- A page number and a page size.  Those built by `Pagination.make` are at least one. -/
structure Pagination where
  page : UInt32
  pageSize : UInt32
deriving DecidableEq, Repr

/-- Why there is no such page. -/
inductive PaginationError where
  | pageZero
  | pageSizeZero
deriving DecidableEq, Repr

/-- What is wrong with the page. -/
def PaginationError.message : PaginationError → String
  | .pageZero => "page must be >= 1"
  | .pageSizeZero => "page_size must be >= 1"

namespace Pagination

def make (page pageSize : UInt32) : Except PaginationError Pagination :=
  if page = 0 then .error .pageZero
  else if pageSize = 0 then .error .pageSizeZero
  else .ok ⟨page, pageSize⟩

/-- The page with its size limited to `greatest`, which counts as at least one. -/
def clamped (p : Pagination) (greatest : UInt32) : Pagination :=
  { p with pageSize := min p.pageSize (max greatest 1) }

/-- The number of rows before the page, in 64-bit words. -/
def offset (p : Pagination) : UInt64 := (p.page - 1).toUInt64 * p.pageSize.toUInt64

end Pagination

end DatasetSearch

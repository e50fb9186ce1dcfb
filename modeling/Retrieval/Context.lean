import Retrieval.Filter

namespace Retrieval

/-- Restrictions that come with a request rather than with its criteria. Every filter is
required. -/
structure Context where
  filters : List Filter := []
  deriving DecidableEq, Repr, Inhabited

namespace Context

def withFilter (context : Context) (filter : Filter) : Context :=
  ⟨context.filters ++ [filter]⟩

def publishedOnly : Context :=
  ⟨[.equals "workflow" "PUBLISHED"]⟩

end Context

end Retrieval

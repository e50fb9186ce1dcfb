import Retrieval.Context
import Retrieval.Query.FreeText

/-!
Compiling of requests. The same criteria become a query tree or a line of query text; both
renderings accept the same requests.
-/

namespace Retrieval

structure Compiler where
  domain : Domain
  settings : SearchSettings

namespace Compiler

inductive Fault where
  | missingPath
  | spaceInPath (path : String)
  | criteria (fault : Criteria.Fault)
  | filter (fault : Filter.Fault)
  deriving DecidableEq, Repr

def Fault.message : Fault → String
  | missingPath => "field prefix is required; use \"\" for the document root"
  | spaceInPath path => "field prefix '" ++ path ++ "' contains whitespace"
  | criteria fault => fault.message
  | filter fault => fault.message

def table (compiler : Compiler) : FieldTable :=
  compiler.settings.table compiler.domain

/-- The path before every field name. It is empty for the root of documents and ends in a point
otherwise. -/
def fieldPath : Option String → Except Fault String
  | none => throw .missingPath
  | some path =>
      if Text.hasSpace path then
        throw (.spaceInPath path)
      else if path.isEmpty || path.toList.getLast? == some '.' then
        return path
      else
        return path ++ "."

def filterNodes (compiler : Compiler) (path : String) (filters : List Filter) :
    Except Fault (List Node) :=
  (Filter.nodes compiler.settings.aliases path filters).mapError .filter

def categories (compiler : Compiler) (path : String) (criteria : Criteria) :
    List (String × List String) :=
  let lists := Category.choices.map fun list =>
    (path ++ compiler.table.fieldOf list, criteria.values list)
  lists.filter fun entry => !entry.2.isEmpty

def categoryNode? (field : String) (values : List String) : Option Node :=
  Node.anyOf? (values.map (.term field))

def addCriteria (compiler : Compiler) (path : String) (criteria : Criteria) (query : BoolQuery) :
    Except Fault BoolQuery := do
  let query := match criteria.phrase? with
    | some phrase => query.addText compiler.table.textFields path phrase
    | none => query
  let lists := (compiler.categories path criteria).filterMap fun entry =>
    categoryNode? entry.1 entry.2
  let filters ← compiler.filterNodes path criteria.filters
  return { query with filter := query.filter ++ lists ++ filters }

def checked (compiler : Compiler) (criteria : Option Criteria) : Except Fault (Option Criteria) :=
  match criteria.filter fun criteria => !criteria.isEmpty with
  | none => return none
  | some criteria => do
      (criteria.check compiler.settings.maxConstraints).mapError .criteria
      return some criteria

/-- Optional text that is the only restriction restricts: one of its clauses has to match. Text was
added if there are more optional clauses than in the container that was given. -/
def restricted (given full : BoolQuery) : BoolQuery :=
  if given.should.length < full.should.length && !full.hasRequired && full.minimum.isNone then
    { full with minimum := some 1 }
  else
    full

/-- Compiles a request into `query`, which may hold clauses already. -/
def compile (compiler : Compiler) (criteria : Option Criteria) (context : Context)
    (query : BoolQuery) (path : Option String) : Except Fault Node := do
  let path ← fieldPath path
  let added ← match ← compiler.checked criteria with
    | some criteria => compiler.addCriteria path criteria query
    | none => pure query
  let required ← compiler.filterNodes path context.filters
  return (restricted query { added with filter := added.filter ++ required }).toNode

def categoryText (field : String) (values : List String) : String :=
  ((Fragment.Grouping.undeclared .any).appendAll
    (values.map fun value => field ++ ":" ++ Fragment.quote value)).close.text

def filterText (compiler : Compiler) (path : String) (filter : Filter) : Except Fault String :=
  ((Filter.text compiler.settings.aliases path filter).map fun text =>
    ((Fragment.Grouping.undeclared .all).append text).close.text).mapError .filter

/-- Text that has to match. Several words are put in parentheses, so that all of them and not only
the first one have to. -/
def requiredText (text : String) : String :=
  let trimmed := Text.trim text
  if trimmed.isEmpty then ""
  else if Text.hasSpace trimmed then "+(" ++ trimmed ++ ")"
  else "+" ++ trimmed

def phraseText (phrase : Phrase) : String :=
  match phrase.mode with
  | .must => requiredText phrase.value
  | .should => phrase.value

def everythingText : String := "*:*"

/-- Renders a request as query text: the lists, the filters of the criteria and those of the
context, all required, and the free text after them. -/
def compileText (compiler : Compiler) (criteria : Option Criteria) (context : Context)
    (path : Option String) : Except Fault Fragment := do
  let path ← fieldPath path
  let criteria ← compiler.checked criteria
  let lists := match criteria with
    | some criteria =>
        (compiler.categories path criteria).map fun entry => categoryText entry.1 entry.2
    | none => []
  let filters := (criteria.map Criteria.filters).getD []
  let filterTexts ← (filters ++ context.filters).mapM (compiler.filterText path)
  let closed := ((Fragment.Grouping.undeclared .all).appendAll (lists ++ filterTexts)).close
  let fragment := match criteria.bind Criteria.phrase? with
    | some phrase => (closed.freeText (phraseText phrase)).build
    | none => closed.build
  if fragment.isBlank then
    return ⟨everythingText, .all⟩
  else
    return fragment

def filtersText? (compiler : Compiler) (filters : List Filter) (operator : Operator)
    (path : Option String) : Except Fault (Option Fragment) := do
  let path ← fieldPath path
  (Filter.fragment? compiler.settings.aliases operator path filters).mapError .filter

end Compiler

end Retrieval

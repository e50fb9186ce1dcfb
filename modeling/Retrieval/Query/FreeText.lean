import Retrieval.SearchSettings

namespace Retrieval

def textClauses (fields : List WeightedField) (path text : String) : List Node :=
  fields.map fun field => .text (path ++ field.field) (Text.trim text) field.weight

/-- Adds the free text of a search to a container. Required text is one clause that holds if any
field matches; optional text is a clause for each field. Blank text adds nothing. -/
def BoolQuery.addText (query : BoolQuery) (fields : List WeightedField) (path : String)
    (phrase : Phrase) : BoolQuery :=
  if phrase.isBlank then
    query
  else
    let clauses := textClauses fields path phrase.value
    match phrase.mode with
    | .must => { query with must := query.must ++ (Node.anyOf? clauses).toList }
    | .should => { query with should := query.should ++ clauses }

end Retrieval

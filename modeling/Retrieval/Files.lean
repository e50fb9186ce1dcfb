import Retrieval.Directory
import Retrieval.Text.Words

namespace Retrieval

abbrev FileReader := String → Option String

/-- Texts by the parts of their paths. -/
abbrev Files := List (List String × String)

namespace Files

/-- The parts of a path. Empty parts and single points lead nowhere. -/
def parts (path : String) : List String :=
  ((Text.splitAtEach (· == '/') path.toList).map String.ofList).filter fun part =>
    !part.isEmpty && part != "."

def ofList (files : List (String × String)) : Files :=
  files.map fun file => (parts file.1, file.2)

def hasDirectory (files : Files) (place : List String) : Bool :=
  files.any fun file => place.length < file.1.length && place.isPrefixOf file.1

/-- Follows the parts of a path from a place. Only a directory can be gone through, and none above
the first. -/
def follow (files : Files) (place : List String) : List String → Option String
  | [] => none
  | [name] => if name = ".." then none else (files.find? (·.1 == place ++ [name])).map Prod.snd
  | name :: rest =>
      if name = ".." then
        if place.isEmpty then none else files.follow place.dropLast rest
      else if files.hasDirectory (place ++ [name]) then
        files.follow (place ++ [name]) rest
      else
        none

def namesDirectory (path : String) : Bool :=
  match (Text.splitAtEach (· == '/') path.toList).getLast? with
  | some last => last.isEmpty || last == ['.']
  | none => true

def reader (files : Files) : FileReader := fun path =>
  if path.startsWith "/" || namesDirectory path then none else files.follow [] (parts path)

end Files

end Retrieval

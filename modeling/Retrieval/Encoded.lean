import Retrieval.Directory

/-!
Reading of requests and settings. The same record may stand in a data text, which is strict, or in
layered settings, which convert between kinds of values; the readers of the records are written
once for both.
-/

namespace Retrieval

/-- A notation in which records are written down. Each reader answers `none` when the value is not
of its kind. -/
class Encoded (ν : Type) where
  isNull : ν → Bool
  text? : ν → Option String
  boolean? : ν → Option Bool
  natural? : ν → Option Nat
  integer? : ν → Option Int
  real? : ν → Option Float
  list? : ν → Option (List ν)
  members? : ν → Option (List (String × ν))
  /-- The members of a record that has the given fields; other members are passed over. -/
  record? : List String → ν → Option (List (String × ν))
  choice? : List String → ν → Option String

namespace Encoded

variable {ν : Type} [Encoded ν]

def readList (read : ν → Option α) (value : ν) : Option (List α) := do
  (← list? value).mapM read

def texts? (value : ν) : Option (List String) :=
  readList text? value

def directory? (read : ν → Option α) (value : ν) : Option (Directory α) := do
  let members ← (← members? value).mapM fun member => do return (member.1, ← read member.2)
  return Directory.ofList members

def required (fields : List (String × ν)) (name : String) (read : ν → Option α) : Option α := do
  read (← findNamed name fields)

def withDefault (fields : List (String × ν)) (name : String) (default : α)
    (read : ν → Option α) : Option α :=
  match findNamed name fields with
  | none => some default
  | some value => read value

def optional (fields : List (String × ν)) (name : String) (read : ν → Option α) :
    Option (Option α) :=
  match findNamed name fields with
  | none => some none
  | some value => if isNull value then some none else (read value).map some

end Encoded

end Retrieval

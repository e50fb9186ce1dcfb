import Retrieval.Text.Naming

namespace Retrieval

inductive Operator where
  | all
  | any
  deriving DecidableEq, Repr

namespace Operator

def name : Operator → String
  | all => "AND"
  | any => "OR"

def choices : List Operator := [all, any]

def ofName? (name : String) : Option Operator :=
  Text.anyCase? choices Operator.name name

def separator (operator : Operator) : String :=
  " " ++ operator.name ++ " "

end Operator

end Retrieval

namespace Retrieval.Text

def sameLetters (left right : String) : Bool :=
  left.toList.map Char.toLower == right.toList.map Char.toLower

def anyCase? (choices : List α) (nameOf : α → String) (name : String) : Option α :=
  choices.find? fun choice => sameLetters (nameOf choice) name

def named? (choices : List α) (nameOf : α → String) (name : String) : Option α :=
  choices.find? fun choice => nameOf choice == name

end Retrieval.Text

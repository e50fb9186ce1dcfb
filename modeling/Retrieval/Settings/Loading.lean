import Retrieval.Files
import Retrieval.Settings.Basic
import Retrieval.Settings.Environment
import Retrieval.Settings.Layers
import Retrieval.Toml.Parser

namespace Retrieval.Settings

def standardLayer : List (String × Value) :=
  (Value.ofJson (Settings.toJson {})).membersOf

def ofLayers (layers : List (List (String × Value))) : Except Failure Settings :=
  match Value.merge? layers with
  | none => throw (.settings .noRoom)
  | some merged =>
      match read? merged with
      | none => throw (.settings .malformed)
      | some settings => do
          settings.check
          return settings

def layerOfText (text : String) : Except Failure (List (String × Value)) :=
  match Toml.parse? text with
  | some layer => return layer
  | none => throw (.settings .malformed)

def ofFile (text : Option String) : Except Failure Settings := do
  match text with
  | none => throw (.settings .missingFile)
  | some text => ofLayers [standardLayer, ← layerOfText text]

def load (text : Option String) (environment : Environment) : Except Failure Settings := do
  let file ← match text with
    | none => pure []
    | some text => layerOfText text
  ofLayers [standardLayer, file, Environment.layer environment]

def fileEnding : List Char := ".toml".toList

/-- The name of a path begins behind its last slash. The ending alone is no name with an ending. -/
def hasFileEnding (path : String) : Bool :=
  match (Text.splitAtEach (· == '/') path.toList).getLast? with
  | some name => fileEnding.length < name.length && fileEnding.isSuffixOf name
  | none => false

def isIdlePart (part : List Char) : Bool :=
  part.isEmpty || part == ['.']

/-- The path with the ending of settings files after its last name. Parts behind that name which
lead nowhere are left out. There is no such path if it goes up in the end, or nowhere at all. -/
def withFileEnding? (path : String) : Option String :=
  match (Text.splitAtEach (· == '/') path.toList).reverse.dropWhile isIdlePart with
  | [] => none
  | ['.', '.'] :: _ => none
  | name :: before =>
      some (String.ofList (['/'].intercalate (before.reverse ++ [name ++ fileEnding])))

def textWithEnding (read : FileReader) (path : String) : Option String :=
  (withFileEnding? path).bind read

def textAt (read : FileReader) (path : String) : Option String :=
  (read path).or (textWithEnding read path)

/-- The same, but a file at the path itself must have the ending to count. -/
def textOfNamed (read : FileReader) (path : String) : Option String :=
  match read path with
  | some text => if hasFileEnding path then some text else none
  | none => textWithEnding read path

/-- The variable that names the file, and the path if it does not. -/
def pathVariable : String := "CONFIG_PATH"

def standardPath : String := "config/default.toml"

def pathIn (environment : Environment) : String :=
  (findNamed pathVariable environment).getD standardPath

def loadFrom (read : FileReader) (environment : Environment) :
    Option String → Except Failure Settings
  | some path => ofFile (textAt read path)
  | none => load (textOfNamed read (pathIn environment)) environment

end Retrieval.Settings

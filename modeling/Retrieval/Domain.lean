import Retrieval.Text.Naming

namespace Retrieval

inductive Domain where
  | subtitles
  | media
  | pages
  deriving DecidableEq, Repr

namespace Domain

def name : Domain → String
  | subtitles => "subtitles"
  | media => "media"
  | pages => "pages"

def choices : List Domain := [subtitles, media, pages]

def ofName? (name : String) : Option Domain :=
  Text.anyCase? choices Domain.name name

end Domain

end Retrieval

import Retrieval.Criteria
import Retrieval.Decimal.Layout
import Retrieval.Domain
import Retrieval.Text.Printable

namespace Retrieval

open Encoded

structure WeightedField where
  field : String
  weight : Float
  deriving Inhabited

namespace WeightedField

def listed (field : WeightedField) : String :=
  "SearchFieldWeight \x7b field: " ++ Text.listed field.field ++ ", weight: " ++
    Decimal.shortestText Decimal.listingLayout field.weight ++ " \x7d"

def isUsable (field : WeightedField) : Bool :=
  !Text.isBlank field.field && field.weight.isFinite && 0 < field.weight

def toJson (field : WeightedField) : Json :=
  .record [("field", .text field.field), ("weight", .ofReal field.weight)]

def read? [Encoded ν] (value : ν) : Option WeightedField := do
  let fields ← record? ["field", "weight"] value
  return ⟨← required fields "field" text?, ← required fields "weight" real?⟩

end WeightedField

structure FieldTable where
  idField : String
  typeField : String
  languageField : String
  textFields : List WeightedField
  deriving Inhabited

namespace FieldTable

def fieldOf (table : FieldTable) : Category → String
  | .ids => table.idField
  | .types => table.typeField
  | .languages => table.languageField

def toJson (table : FieldTable) : Json :=
  .record [
    ("id_field", .text table.idField),
    ("type_field", .text table.typeField),
    ("language_field", .text table.languageField),
    ("text_fields", .list (table.textFields.map WeightedField.toJson))]

def read? [Encoded ν] (value : ν) : Option FieldTable := do
  let fields ← record? ["id_field", "type_field", "language_field", "text_fields"] value
  return {
    idField := ← required fields "id_field" text?
    typeField := ← required fields "type_field" text?
    languageField := ← required fields "language_field" text?
    textFields := ← required fields "text_fields" (readList WeightedField.read?) }

end FieldTable

structure SearchSettings where
  media : FieldTable :=
    { idField := "mid", typeField := "type", languageField := "languages.code"
      textFields := [⟨"titles.value", 3⟩, ⟨"tags", 2⟩, ⟨"descriptions.value", 1⟩,
        ⟨"broadcasters.value", 1⟩] }
  subtitles : FieldTable :=
    { idField := "parent", typeField := "type", languageField := "language"
      textFields := [⟨"content", 1⟩] }
  pages : FieldTable :=
    { idField := "url", typeField := "type", languageField := "language"
      textFields := [⟨"title", 2⟩, ⟨"summary", 1.5⟩, ⟨"keywords", 1.5⟩, ⟨"paragraphs.body", 1⟩] }
  /-- Constraint names that stand for index fields. -/
  aliases : Filter.Aliases :=
    Directory.ofList
      [("descendant", "descendantOf"), ("episode", "episodeOf"), ("member", "memberOf")]
  maxConstraints : Nat := 1000
  deriving Inhabited

namespace SearchSettings

inductive Fault where
  | blankField (domain : Domain) (list : Category)
  | noTextFields (domain : Domain)
  | unusableField (domain : Domain) (field : WeightedField)
  | noConstraints

def keyOf : Category → String
  | .ids => "id_field"
  | .types => "type_field"
  | .languages => "language_field"

def Fault.message : Fault → String
  | blankField domain list => "search." ++ domain.name ++ "." ++ keyOf list ++ " must not be blank"
  | noTextFields domain => "search." ++ domain.name ++ ".text_fields must not be empty"
  | unusableField domain field =>
      "search." ++ domain.name ++ " has invalid text field " ++ field.listed
  | noConstraints => "search.max_constraints must be positive"

def table (settings : SearchSettings) : Domain → FieldTable
  | .media => settings.media
  | .subtitles => settings.subtitles
  | .pages => settings.pages

def withTable (settings : SearchSettings) (domain : Domain) (table : FieldTable) :
    SearchSettings :=
  match domain with
  | .media => { settings with media := table }
  | .subtitles => { settings with subtitles := table }
  | .pages => { settings with pages := table }

def withAlias (settings : SearchSettings) (name field : String) : SearchSettings :=
  { settings with aliases := settings.aliases.insert name field }

def checkTable (domain : Domain) (table : FieldTable) : Except Fault Unit := do
  match Category.choices.find? fun list => Text.isBlank (table.fieldOf list) with
  | some list => throw (.blankField domain list)
  | none => pure ()
  if table.textFields.isEmpty then
    throw (.noTextFields domain)
  match table.textFields.find? fun field => !field.isUsable with
  | some field => throw (.unusableField domain field)
  | none => pure ()

def check (settings : SearchSettings) : Except Fault Unit := do
  checkTable .media settings.media
  checkTable .subtitles settings.subtitles
  checkTable .pages settings.pages
  if settings.maxConstraints = 0 then
    throw .noConstraints

def toJson (settings : SearchSettings) : Json :=
  .record [
    ("media", settings.media.toJson),
    ("subtitles", settings.subtitles.toJson),
    ("pages", settings.pages.toJson),
    ("field_aliases",
      .record (settings.aliases.entries.map fun entry => (entry.1, .text entry.2))),
    ("max_constraints", .ofNat settings.maxConstraints)]

def read? [Encoded ν] (value : ν) : Option SearchSettings := do
  let standard : SearchSettings := {}
  let fields ← record? ["media", "subtitles", "pages", "field_aliases", "max_constraints"] value
  return {
    media := ← withDefault fields "media" standard.media FieldTable.read?
    subtitles := ← withDefault fields "subtitles" standard.subtitles FieldTable.read?
    pages := ← withDefault fields "pages" standard.pages FieldTable.read?
    aliases := ← withDefault fields "field_aliases" standard.aliases (directory? text?)
    maxConstraints := ← withDefault fields "max_constraints" standard.maxConstraints natural? }

end SearchSettings

end Retrieval

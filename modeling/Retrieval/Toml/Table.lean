import Retrieval.Directory
import Retrieval.Settings.Value

/-!
The tables of a TOML text while it is read. A table may be begun by its own header, by the header of
a table inside it, or by a dotted key; what may still be added to it depends on that.
-/

namespace Retrieval.Toml

open Settings (Value)

inductive Origin where
  | header
  /-- By the header of a table inside it. It may still get a header of its own. -/
  | implied
  /-- By a dotted key. Dotted keys may add to it. -/
  | dotted
  deriving DecidableEq, Repr

inductive Item where
  | value (value : Value)
  | table (origin : Origin) (members : List (String × Item))
  | tables (earlier : List (List (String × Item))) (last : List (String × Item))
  deriving Inhabited

abbrev Members := List (String × Item)

/-- Changes the table at the path of a header. A path that leads to a list leads to its last
table. -/
def change (edit : Members → Option Members) : List String → Members → Option Members
  | [], members => edit members
  | name :: path, members => do
      let item ← match findNamed name members with
        | none => (change edit path []).map (.table .implied)
        | some (.table origin inner) => (change edit path inner).map (.table origin)
        | some (.tables earlier last) => (change edit path last).map (.tables earlier)
        | some (.value _) => none
      return putNamed name item members

/-- Begins the table of that name. It must be new, or implied so far, and comes last. -/
def beginTable (name : String) (members : Members) : Option Members :=
  match findNamed name members with
  | none => some (members ++ [(name, .table .header [])])
  | some (.table .implied inner) =>
      some ((members.filter fun member => member.1 != name) ++ [(name, .table .header inner)])
  | _ => none

def beginListed (name : String) (members : Members) : Option Members :=
  match findNamed name members with
  | none => some (putNamed name (.tables [] []) members)
  | some (.tables earlier last) => some (putNamed name (.tables (earlier ++ [last]) []) members)
  | _ => none

/-- Adds a value under a key, whose leading names are the path to its table. The name must be new.
A table on the way must not have a header, and the one that gets the value must be of dotted
keys. -/
def assign (name : String) (value : Value) : List String → Members → Option Members
  | [], members =>
      if (findNamed name members).isNone then some (putNamed name (.value value) members) else none
  | step :: path, members => do
      let item ← match findNamed step members with
        | none => (assign name value path []).map (.table .dotted)
        | some (.table .dotted inner) => (assign name value path inner).map (.table .dotted)
        | some (.table .implied inner) =>
            if path.isEmpty then none else (assign name value path inner).map (.table .implied)
        | some (.tables earlier last) =>
            if path.isEmpty then none else (assign name value path last).map (.tables earlier)
        | some (.table .header _) | some (.value _) => none
      return putNamed step item members

mutual

def Item.toValue : Item → Value
  | .value value => value
  | .table _ members => .table (valuesOf members)
  | .tables earlier last => .list (tableValues earlier ++ [.table (valuesOf last)])

def valuesOf : List (String × Item) → List (String × Value)
  | [] => []
  | (name, item) :: rest => (name, item.toValue) :: valuesOf rest

def tableValues : List (List (String × Item)) → List Value
  | [] => []
  | members :: rest => .table (valuesOf members) :: tableValues rest

end

/-- A line of a text, apart from blank ones. A key or the path of a header has a last name and the
names before it. -/
inductive Line where
  | header (path : List String) (name : String)
  | listHeader (path : List String) (name : String)
  | assignment (path : List String) (name : String) (value : Value)

structure Draft where
  members : Members := []
  current : List String := []

def Draft.add (draft : Draft) : Line → Option Draft
  | .header path name =>
      (change (beginTable name) path draft.members).map fun members => ⟨members, path ++ [name]⟩
  | .listHeader path name =>
      (change (beginListed name) path draft.members).map fun members => ⟨members, path ++ [name]⟩
  | .assignment path name value =>
      (change (assign name value path) draft.current draft.members).map fun members =>
        { draft with members }

def ofLines? (lines : List Line) : Option (List (String × Value)) :=
  (lines.foldlM Draft.add {}).map fun draft => valuesOf draft.members

def ofAssignments? (entries : List (List String × String × Value)) :
    Option (List (String × Value)) :=
  (entries.foldlM (fun members (path, name, value) => assign name value path members) []).map
    valuesOf

end Retrieval.Toml

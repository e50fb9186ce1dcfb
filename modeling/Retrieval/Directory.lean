/-!
Named values in the order in which their names arrived, each name once. A directory is read through
`find?`: two lookups tell what an operation did.
-/

namespace Retrieval

def putNamed (name : String) (value : α) : List (String × α) → List (String × α)
  | [] => [(name, value)]
  | entry :: rest =>
      if entry.1 = name then (name, value) :: rest else entry :: putNamed name value rest

def findNamed (name : String) : List (String × α) → Option α
  | [] => none
  | entry :: rest => if entry.1 = name then some entry.2 else findNamed name rest

theorem names_putNamed (name : String) (value : α) (entries : List (String × α)) :
    (putNamed name value entries).map Prod.fst =
      if name ∈ entries.map Prod.fst then entries.map Prod.fst
      else entries.map Prod.fst ++ [name] := by
  induction entries with
  | nil => simp [putNamed]
  | cons entry rest induction =>
      by_cases same : entry.1 = name
      · simp [putNamed, same]
      · by_cases later : name ∈ rest.map Prod.fst
        · simp only [putNamed, if_neg same, List.map_cons, induction, if_pos later,
            if_pos (List.mem_cons_of_mem _ later)]
        · have absent : name ∉ entry.1 :: rest.map Prod.fst := by
            simp only [List.mem_cons, not_or]
            exact ⟨fun equal => same equal.symm, later⟩
          simp only [putNamed, if_neg same, List.map_cons, induction, if_neg later,
            if_neg absent, List.cons_append]

theorem nodup_names_putNamed (name : String) (value : α) (entries : List (String × α))
    (distinct : (entries.map Prod.fst).Nodup) :
    ((putNamed name value entries).map Prod.fst).Nodup := by
  rw [names_putNamed]
  split
  · exact distinct
  · rename_i absent
    rw [List.nodup_append]
    refine ⟨distinct, by simp, ?_⟩
    intro other member last equal
    simp only [List.mem_singleton] at equal
    subst equal
    intro same
    exact absent (same ▸ member)

/-- A list of named values in which no name occurs twice. -/
structure Directory (α : Type u) where
  entries : List (String × α)
  distinct : (entries.map Prod.fst).Nodup

namespace Directory

def empty : Directory α := ⟨[], .nil⟩

instance : Inhabited (Directory α) := ⟨empty⟩

def names (directory : Directory α) : List String :=
  directory.entries.map Prod.fst

def size (directory : Directory α) : Nat :=
  directory.entries.length

def isEmpty (directory : Directory α) : Bool :=
  directory.entries.isEmpty

def find? (directory : Directory α) (name : String) : Option α :=
  findNamed name directory.entries

def insert (directory : Directory α) (name : String) (value : α) : Directory α :=
  ⟨putNamed name value directory.entries, nodup_names_putNamed name value _ directory.distinct⟩

def ofList (entries : List (String × α)) : Directory α :=
  entries.foldl (fun directory entry => directory.insert entry.1 entry.2) empty

def filter (directory : Directory α) (keep : α → Bool) : Directory α :=
  ⟨directory.entries.filter fun entry => keep entry.2,
    (List.filter_sublist.map _).nodup directory.distinct⟩

def map (directory : Directory α) (change : α → β) : Directory β :=
  ⟨directory.entries.map fun entry => (entry.1, change entry.2), by
    simpa [List.map_map, Function.comp_def] using directory.distinct⟩

theorem findNamed_putNamed (name other : String) (value : α) (entries : List (String × α)) :
    findNamed other (putNamed name value entries) =
      if name = other then some value else findNamed other entries := by
  induction entries with
  | nil => simp [putNamed, findNamed]
  | cons entry rest induction =>
      by_cases here : entry.1 = name
      · by_cases same : name = other <;> simp [putNamed, findNamed, here, same]
      · by_cases same : name = other
        · subst same
          simp [putNamed, findNamed, here, induction]
        · simp [putNamed, findNamed, here, induction, same]

theorem find?_insert (directory : Directory α) (name other : String) (value : α) :
    (directory.insert name value).find? other =
      if name = other then some value else directory.find? other :=
  findNamed_putNamed name other value directory.entries

end Directory

end Retrieval

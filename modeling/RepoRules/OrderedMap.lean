/-!
Maps from names that remember the order of their entries. Giving a value to a known name keeps its
place; a new name goes to the end; removing a name moves up the ones behind it.
-/

namespace RepoRules

structure OrderedMap (α : Type) where
  entries : List (String × α)
deriving Repr

namespace OrderedMap

variable {α : Type}

def empty : OrderedMap α := ⟨[]⟩

instance : Inhabited (OrderedMap α) := ⟨empty⟩

def insertEntry (name : String) (value : α) : List (String × α) → List (String × α)
  | [] => [(name, value)]
  | (other, held) :: rest =>
      if other = name then (name, value) :: rest else (other, held) :: insertEntry name value rest

def insert (map : OrderedMap α) (name : String) (value : α) : OrderedMap α :=
  ⟨insertEntry name value map.entries⟩

def get? (map : OrderedMap α) (name : String) : Option α :=
  map.entries.lookup name

def contains (map : OrderedMap α) (name : String) : Bool :=
  (map.get? name).isSome

def erase (map : OrderedMap α) (name : String) : OrderedMap α :=
  ⟨map.entries.filter fun entry => entry.1 != name⟩

def size (map : OrderedMap α) : Nat :=
  map.entries.length

def isEmpty (map : OrderedMap α) : Bool :=
  map.entries.isEmpty

def keys (map : OrderedMap α) : List String :=
  map.entries.map Prod.fst

def extend (map : OrderedMap α) (entries : List (String × α)) : OrderedMap α :=
  entries.foldl (fun extended entry => extended.insert entry.1 entry.2) map

def ofList (entries : List (String × α)) : OrderedMap α :=
  empty.extend entries

/-- Enters the pairs whose name is not taken yet. -/
def extendNew (map : OrderedMap α) (entries : List (String × α)) : OrderedMap α :=
  entries.foldl (fun extended entry =>
    if extended.contains entry.1 then extended else extended.insert entry.1 entry.2) map

theorem lookup_cons_self (name : String) (value : α) (rest : List (String × α)) :
    List.lookup name ((name, value) :: rest) = some value := by
  rw [List.lookup_cons, beq_self_eq_true]

theorem lookup_cons_of_ne {name other : String} (differs : other ≠ name) (value : α)
    (rest : List (String × α)) :
    List.lookup other ((name, value) :: rest) = List.lookup other rest := by
  rw [List.lookup_cons, beq_false_of_ne differs]

theorem get?_insert (map : OrderedMap α) (name other : String) (value : α) :
    (map.insert name value).get? other = if other = name then some value else map.get? other := by
  obtain ⟨entries⟩ := map
  simp only [insert, get?]
  induction entries with
  | nil =>
      by_cases same : other = name
      · subst same; simp [insertEntry]
      · simp [insertEntry, lookup_cons_of_ne same, same]
  | cons entry rest induction =>
      obtain ⟨held, _⟩ := entry
      by_cases found : held = name
      · subst found
        by_cases same : other = held
        · subst same; simp [insertEntry]
        · simp [insertEntry, lookup_cons_of_ne same, same]
      · by_cases first : other = held
        · subst first; simp [insertEntry, found]
        · simp [insertEntry, lookup_cons_of_ne first, found, induction]

end OrderedMap

end RepoRules

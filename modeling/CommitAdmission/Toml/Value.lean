namespace CommitAdmission

namespace Toml

/-- How a table came about; this decides which later statements may add to it. -/
inductive Origin
  | inline
  | dotted
  | implied
  | headed
  deriving DecidableEq, Repr

end Toml

inductive Toml
  | text (content : String)
  | integer (value : Int)
  | float (spelling : String)
  | bool (value : Bool)
  | moment (spelling : String)
  | array (items : List Toml)
  | table (origin : Toml.Origin) (entries : List (String × Toml))
  | tables (elements : List (List (String × Toml)))
  deriving Repr

namespace Toml

abbrev Entries := List (String × Toml)

def alter (key : String) (change : Option Toml → Option Toml) : Entries → Option Entries
  | [] => (change none).map fun value => [(key, value)]
  | entry :: rest =>
    if entry.1 = key then (change (some entry.2)).map fun value => (key, value) :: rest
    else (alter key change rest).map (entry :: ·)

def alterLast (change : Entries → Option Entries) : List Entries → Option (List Entries)
  | [] => none
  | [last] => (change last).map ([·])
  | element :: rest => (alterLast change rest).map (element :: ·)

/-- Sets a new key, below the tables that a dotted key names. Those tables are made on the way; of
the tables that are there already, only ones made in the same way may receive the key. -/
def assign (path : List String) (key : String) (value : Toml) (entries : Entries) : Option Entries :=
  match path with
  | [] => if entries.any (·.1 == key) then none else some (entries ++ [(key, value)])
  | step :: path =>
    alter step (fun
      | none => (assign path key value []).map (.table .dotted)
      | some (.table .dotted inner) => (assign path key value inner).map (.table .dotted)
      | some (.table .implied inner) =>
        if path.isEmpty then none else (assign path key value inner).map (.table .implied)
      | some (.tables elements) =>
        if path.isEmpty then none else (alterLast (assign path key value) elements).map .tables
      | some _ => none) entries

/-- Works on the table that a header names; of an array of tables the last one is meant. -/
def within (path : List String) (change : Entries → Option Entries) (entries : Entries) :
    Option Entries :=
  match path with
  | [] => change entries
  | step :: path =>
    alter step (fun
      | none => (within path change []).map (.table .implied)
      | some (.table .inline _) => none
      | some (.table origin inner) => (within path change inner).map (.table origin)
      | some (.tables elements) => (alterLast (within path change) elements).map .tables
      | some _ => none) entries

/-- Opens a table by its header; a table may be opened once. -/
def openTable (path : List String) (key : String) : Entries → Option Entries :=
  within path <| alter key fun
    | none => some (.table .headed [])
    | some (.table .implied inner) => some (.table .headed inner)
    | some _ => none

def openElement (path : List String) (key : String) : Entries → Option Entries :=
  within path <| alter key fun
    | none => some (.tables [[]])
    | some (.tables elements) => some (.tables (elements ++ [[]]))
    | some _ => none

end Toml

end CommitAdmission

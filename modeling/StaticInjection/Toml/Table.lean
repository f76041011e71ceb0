import StaticInjection.Toml.Basic

namespace StaticInjection.Toml

/-! Growing a table key by key. No value is ever replaced, and a table is complete once its header or
its braces have been read. -/

namespace Entries

def put (entries : Entries) (key : String) (value : Toml) : Entries :=
  entries.map fun (name, old) => if name == key then (name, value) else (name, old)

def insert? (entries : Entries) (key : String) (value : Toml) : Option Entries :=
  if (entries.lookup key).isSome then none else some (entries ++ [(key, value)])

/-- Change the last of the tables under a header. -/
def changeLast (change : Entries → Option Entries) : List Entries → Option (List Entries)
  | [] => none
  | [last] => (change last).map ([·])
  | first :: rest => (changeLast change rest).map (first :: ·)

/-- Change the table that a header leads to. Tables on the way are made when they are missing. -/
def along (change : Entries → Option Entries) : List String → Entries → Option Entries
  | [], entries => change entries
  | key :: rest, entries =>
    match entries.lookup key with
    | none => (along change rest []).map fun inner => entries ++ [(key, .table .implied inner)]
    | some (.table .braces _) => none
    | some (.table origin inner) =>
      (along change rest inner).map fun grown => entries.put key (.table origin grown)
    | some (.tables elements) =>
      (changeLast (along change rest) elements).map fun grown => entries.put key (.tables grown)
    | some _ => none

/-- Give the table a value under a dotted key. The key may only add to tables that dotted keys have
made; it may lead through a table that is implied, but not end in one. -/
def assign (value : Toml) : List String → Entries → Option Entries
  | [], _ => none
  | [key], entries => entries.insert? key value
  | key :: next :: rest, entries =>
    match entries.lookup key with
    | none =>
      (assign value (next :: rest) []).map fun inner => entries ++ [(key, .table .dotted inner)]
    | some (.table .dotted inner) =>
      (assign value (next :: rest) inner).map fun grown => entries.put key (.table .dotted grown)
    | some (.table .implied inner) =>
      if rest.isEmpty then none
      else (assign value (next :: rest) inner).map fun grown =>
        entries.put key (.table .implied grown)
    | some (.tables elements) =>
      if rest.isEmpty then none
      else (changeLast (assign value (next :: rest)) elements).map fun grown =>
        entries.put key (.tables grown)
    | some _ => none

/-- A header opens a table that is new or only implied so far. -/
def openTable (key : String) (entries : Entries) : Option Entries :=
  match entries.lookup key with
  | none => some (entries ++ [(key, .table .header [])])
  | some (.table .implied inner) => some (entries.put key (.table .header inner))
  | some _ => none

/-- A double header adds an empty table to the list under it. -/
def openElement (key : String) (entries : Entries) : Option Entries :=
  match entries.lookup key with
  | none => some (entries ++ [(key, .tables [[]])])
  | some (.tables elements) => some (entries.put key (.tables (elements ++ [[]])))
  | some _ => none

end Entries

/-- One line, or several when a value takes several. -/
inductive Line where
  | assign (path : List String) (value : Toml)
  | header (path : List String)
  | element (path : List String)

/-- The whole table, and the path of the table that lines add to. -/
structure Reading where
  root : Entries := []
  current : List String := []

/-- Apply a change at the last key of a path. -/
def atLast (change : String → Entries → Option Entries) (path : List String) (root : Entries) :
    Option Entries :=
  path.getLast?.bind fun key => Entries.along (change key) path.dropLast root

def Reading.step (reading : Reading) : Line → Option Reading
  | .assign path value =>
    (Entries.along (Entries.assign value path) reading.current reading.root).map fun root =>
      { reading with root }
  | .header path =>
    (atLast Entries.openTable path reading.root).map fun root => { root, current := path }
  | .element path =>
    (atLast Entries.openElement path reading.root).map fun root => { root, current := path }

def ofLines (lines : List Line) : Option Entries :=
  (lines.foldlM Reading.step {}).map (·.root)

end StaticInjection.Toml

import Upkeep.Value
/-!
The tables of a TOML document while it is read.

A document is a sequence of statements: headers that open a table, and assignments to keys of the
table that is open. Each statement changes the tree of tables or is refused, since a table may be
opened once only, a key may be given once only, and a table made by dotted keys is closed to
headers. Entries keep the order in which they came.
-/

namespace Upkeep.Toml

/-- How a table came to be. -/
inductive TableKind
  /-- By a header of its own. -/
  | opened
  /-- As a part of the header of another table. -/
  | implied
  /-- As a part of a dotted key. -/
  | dotted
deriving DecidableEq, Repr

/-- What stands under a key. -/
inductive Node
  | value (v : Value)
  | table (kind : TableKind) (entries : List (String × Node))
  /-- A list of tables that headers opened, the last one first. -/
  | tables (items : List (List (String × Node)))

/-- The entries of a table in order. -/
abbrev Entries := List (String × Node)

/-- A statement of a document. The last part of its key is set apart. -/
inductive Statement
  | assign (parents : List String) (key : String) (v : Value)
  | openTable (parents : List String) (key : String)
  /-- Opens a new table at the end of a list of tables. -/
  | openItem (parents : List String) (key : String)

namespace Entries

/-- Puts a node in the place of the one that a key has. -/
def replace (key : String) (node : Node) : Entries → Entries
  | [] => []
  | (k, n) :: rest => if k = key then (k, node) :: rest else (k, n) :: replace key node rest

/-- Walks from a table of the kind `here` along a path and changes the table at its end. Tables
that are missing on the way are made and are of the kind `made`; the way leads through the last
table of a list. A dotted key may not lead into a table that has a header of its own. -/
def changeAt (made : TableKind) (change : TableKind → Entries → Option Entries)
    (here : TableKind) : List String → Entries → Option Entries
  | [], entries => change here entries
  | key :: path, entries =>
    match entries.lookup key with
    | none => do
      let inner ← changeAt made change made path []
      return entries ++ [(key, .table made inner)]
    | some (.table kind inner) =>
      if made = .dotted ∧ kind = .opened then none
      else do
        let inner ← changeAt made change kind path inner
        return replace key (.table kind inner) entries
    | some (.tables (last :: earlier)) => do
      let last ← changeAt made change .opened path last
      return replace key (.tables (last :: earlier)) entries
    | _ => none

/-- Gives a key of the table that is open a value. The parents of the key must be a table of dotted
keys, if there are any. -/
def assign (parents : List String) (key : String) (v : Value) (entries : Entries) :
    Option Entries :=
  let put kind inner :=
    if (kind == .dotted) == parents.isEmpty || (inner.lookup key).isSome then none
    else some (inner ++ [(key, .value v)])
  changeAt .dotted put .opened parents entries

/-- Opens a table. It must be new, or known only from the headers of tables inside it; then it
moves to the end and keeps those. -/
def openTable (parents : List String) (key : String) (entries : Entries) : Option Entries :=
  let put _ inner :=
    match inner.lookup key with
    | none => some (inner ++ [(key, .table .opened [])])
    | some (.table .implied children) =>
      some (inner.filter (·.1 != key) ++ [(key, .table .opened children)])
    | some _ => none
  changeAt .implied put .opened parents entries

/-- Opens a table at the end of a list of tables. -/
def openItem (parents : List String) (key : String) (entries : Entries) : Option Entries :=
  let put _ inner :=
    match inner.lookup key with
    | none => some (inner ++ [(key, .tables [[]])])
    | some (.tables items) => some (replace key (.tables ([] :: items)) inner)
    | some _ => none
  changeAt .implied put .opened parents entries

/-- Carries out the statements of a document, each in the table that the last header opened. -/
def run : List String → Entries → List Statement → Option Entries
  | _, entries, [] => some entries
  | header, entries, .assign parents key v :: rest => do
    let put _ inner := assign parents key v inner
    run header (← changeAt .implied put .opened header entries) rest
  | _, entries, .openTable parents key :: rest => do
    run (parents ++ [key]) (← openTable parents key entries) rest
  | _, entries, .openItem parents key :: rest => do
    run (parents ++ [key]) (← openItem parents key entries) rest

end Entries

mutual

/-- The value that a node stands for. -/
def Node.toValue : Node → Value
  | .value v => v
  | .table _ entries => .table (Entries.toFields entries)
  | .tables items => .list (Entries.toItems [] items)

/-- The entries of a table with the values they stand for. -/
def Entries.toFields : List (String × Node) → List (String × Value)
  | [] => []
  | (key, node) :: rest => (key, node.toValue) :: Entries.toFields rest

/-- The tables of a list with the last one first, in front of those in `acc`, in order. -/
def Entries.toItems (acc : List Value) : List (List (String × Node)) → List Value
  | [] => acc
  | entries :: rest => Entries.toItems (.table (Entries.toFields entries) :: acc) rest

end

/-- The value of a table that the statements of a document make. -/
def valueOf? (statements : List Statement) : Option Value :=
  (Entries.run [] [] statements).map fun entries => .table (Entries.toFields entries)

end Upkeep.Toml

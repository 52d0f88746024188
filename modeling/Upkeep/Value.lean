/-!
Structured values.

`Value` is what a JSON or TOML document holds, before anything is read from it. A table lists its
entries in document order and may repeat a key; `Value.normalize` brings every table of a value
into sorted order with one entry a key. A part that is well formed but cannot be read stands in its
place as such, since it does no harm where nobody looks at it.
-/

namespace Upkeep

inductive Value
  | null
  | bool (b : Bool)
  | int (n : Int)
  /-- A number that is no integer in the range of 64-bit words, as it was written. -/
  | real (literal : String)
  | text (s : String)
  | list (items : List Value)
  | table (entries : List (String × Value))
  /-- A part of a document that is well formed but stands for no value. -/
  | unreadable
deriving Inhabited

namespace Value

/-- The integers from the least signed to the greatest unsigned 64-bit word. -/
def isWordInt (n : Int) : Bool := -0x8000000000000000 ≤ n && n < 0x10000000000000000

/-- Enters a value under its key into a sorted list of entries. An entry that was there before is
replaced. -/
def insertEntry (key : String) (v : Value) : List (String × Value) → List (String × Value)
  | [] => [(key, v)]
  | (k, w) :: rest =>
    if key < k then (key, v) :: (k, w) :: rest
    else if key = k then (key, v) :: rest
    else (k, w) :: insertEntry key v rest

mutual

/-- The value with the entries of every table sorted by key; of entries with one key the last
stays. -/
def normalize : Value → Value
  | list items => list (normalizeItems items)
  | table entries => table (normalizeEntries [] entries)
  | null => null
  | bool b => bool b
  | int n => int n
  | real l => real l
  | text s => text s
  | unreadable => unreadable

def normalizeItems : List Value → List Value
  | [] => []
  | v :: vs => normalize v :: normalizeItems vs

def normalizeEntries : List (String × Value) → List (String × Value) → List (String × Value)
  | acc, [] => acc
  | acc, (k, v) :: rest => normalizeEntries (insertEntry k (normalize v) acc) rest

end

mutual

/-- Every part of the value can be read. -/
def isReadable : Value → Bool
  | unreadable => false
  | list items => areReadable items
  | table entries => areEntriesReadable entries
  | null => true
  | bool _ => true
  | int _ => true
  | real _ => true
  | text _ => true

def areReadable : List Value → Bool
  | [] => true
  | v :: vs => v.isReadable && areReadable vs

def areEntriesReadable : List (String × Value) → Bool
  | [] => true
  | (_, v) :: rest => v.isReadable && areEntriesReadable rest

end

mutual

/-- The value with at most a given number of lists and tables around each other. Those inside are
unreadable. -/
def limitDepth : Nat → Value → Value
  | 0, list _ => unreadable
  | 0, table _ => unreadable
  | n + 1, list items => list (limitItems n items)
  | n + 1, table entries => table (limitEntries n entries)
  | _, null => null
  | _, bool b => bool b
  | _, int n => int n
  | _, real l => real l
  | _, text s => text s
  | _, unreadable => unreadable

def limitItems (n : Nat) : List Value → List Value
  | [] => []
  | v :: vs => limitDepth n v :: limitItems n vs

def limitEntries (n : Nat) : List (String × Value) → List (String × Value)
  | [] => []
  | (k, v) :: rest => (k, limitDepth n v) :: limitEntries n rest

end

/-- The value under a key of a table. -/
def get? (v : Value) (key : String) : Option Value :=
  match v with
  | table entries => entries.lookup key
  | _ => none

/-- A text, or null when there is none. -/
def ofText? : Option String → Value
  | some s => text s
  | none => null

/-- A natural number as a value. -/
def ofNat (n : Nat) : Value := int n

end Value

end Upkeep

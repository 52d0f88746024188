import Upkeep.Reference
import Upkeep.Time.Delay
import Upkeep.Time.Rfc3339
import Upkeep.Value
/-!
Reading values of known shape.

A `Decoder` turns a structured value into a domain value or says why it cannot. A record is read
from a table in two steps: first every entry that is present is checked in the order of the table,
then the fields are looked up in the order in which they are declared, so that a missing field is
noticed after every ill-formed one. A record may also be given as the list of its fields.
-/

namespace Upkeep

/-- Why a value does not have the shape that is asked for. -/
inductive DecodeError
  | delay (e : DelayError)
  | reference (e : ReferenceError)
  | missingField (name : String)
  | unknownField (name : String)
  | duplicateField (name : String)
  /-- The value is of another type, or lies outside the range of its type. -/
  | malformed
deriving DecidableEq, Repr

/-- The sentence that reports why a value cannot be read, if there is more to say than that it is
malformed. -/
def DecodeError.message? : DecodeError → Option String
  | .delay e => some e.message
  | .reference e => some e.message
  | .missingField name => some ("missing field \x60" ++ name ++ "\x60")
  | .unknownField name => some ("unknown field \x60" ++ name ++ "\x60")
  | .duplicateField name => some ("duplicate field \x60" ++ name ++ "\x60")
  | .malformed => none

/-- A way of reading values of one type. -/
abbrev Decoder (α : Type) := Value → Except DecodeError α

namespace Decoder

def text : Decoder String
  | .text s => .ok s
  | _ => .error .malformed

def bool : Decoder Bool
  | .bool b => .ok b
  | _ => .error .malformed

/-- A natural number below a bound. -/
def natBelow (bound : Nat) : Decoder Nat
  | .int n => if 0 ≤ n ∧ n.toNat < bound then .ok n.toNat else .error .malformed
  | _ => .error .malformed

/-- An unsigned 64-bit number. -/
def nat64 : Decoder Nat := natBelow wordLimit

/-- An unsigned 32-bit number. -/
def nat32 : Decoder Nat := natBelow 0x100000000

/-- A value or null. -/
def nullable {α : Type} (d : Decoder α) : Decoder (Option α)
  | .null => .ok none
  | v => (d v).map some

/-- Reads the items of a list in order. -/
def items {α : Type} (d : Decoder α) : List Value → Except DecodeError (List α)
  | [] => .ok []
  | v :: vs =>
    match d v with
    | .error e => .error e
    | .ok a => (items d vs).map (a :: ·)

def list {α : Type} (d : Decoder α) : Decoder (List α)
  | .list vs => items d vs
  | _ => .error .malformed

/-- A delay is given by its text. -/
def delay : Decoder Delay
  | .text s => (Delay.parse s).mapError .delay
  | _ => .error .malformed

/-- A bare name, which may also be given as the key of a table with nothing under it. -/
def name : Decoder String
  | .text s => .ok s
  | .table [(s, .null)] => .ok s
  | _ => .error .malformed

/-- A bare name inside a tagged record, where an empty table may stand for nothing as well. -/
def taggedName : Decoder String
  | .table [(s, .table [])] => .ok s
  | v => name v

def repositoryId : Decoder RepositoryId
  | .text s => (RepositoryId.parse s).mapError .reference
  | _ => .error .malformed

def instant : Decoder Instant
  | .text s =>
    match Rfc3339.parse? s with
    | some t => .ok t
    | none => .error .malformed
  | _ => .error .malformed

end Decoder

/-! ## Records -/

/-- A field of a record: its name and what its value must satisfy. -/
structure FieldShape where
  name : String
  /-- The record may leave the field out where it is given as a list. -/
  optional : Bool
  check : Value → Except DecodeError Unit

namespace FieldShape

/-- The field must be there. -/
def required {α : Type} (name : String) (d : Decoder α) : FieldShape :=
  ⟨name, false, fun v => (d v).map fun _ => ()⟩

/-- The field has a value to fall back on. -/
def defaulted {α : Type} (name : String) (d : Decoder α) : FieldShape :=
  ⟨name, true, fun v => (d v).map fun _ => ()⟩

/-- Checks the entries of a table in order. Entries under other names are passed over, or refused
when the record is strict. -/
def checkEntries (shape : List FieldShape) (strict : Bool) :
    List String → List (String × Value) → Except DecodeError Unit
  | _, [] => .ok ()
  | seen, (key, v) :: rest =>
    match shape.find? (·.name == key) with
    | none => if strict then .error (.unknownField key) else checkEntries shape strict seen rest
    | some field =>
      if key ∈ seen then .error (.duplicateField key)
      else
        match field.check v with
        | .error e => .error e
        | .ok () => checkEntries shape strict (key :: seen) rest

/-- Checks the fields of a record that is given as a list, and names them. -/
def nameItems : List FieldShape → List Value → Except DecodeError (List (String × Value))
  | [], [] => .ok []
  | [], _ :: _ => .error .malformed
  | shape, [] => if shape.all FieldShape.optional then .ok [] else .error .malformed
  | field :: shape, v :: vs =>
    match field.check v with
    | .error e => .error e
    | .ok () => (nameItems shape vs).map ((field.name, v) :: ·)

end FieldShape

/-- The entries of a record, every one of them checked. -/
def Value.record (shape : List FieldShape) (strict : Bool) :
    Decoder (List (String × Value))
  | .table entries => (FieldShape.checkEntries shape strict [] entries).map fun _ => entries
  | .list items => FieldShape.nameItems shape items
  | _ => .error .malformed

namespace Fields

/-- The value of a field that must be there. -/
def required {α : Type} (entries : List (String × Value)) (name : String) (d : Decoder α) :
    Except DecodeError α :=
  match entries.lookup name with
  | some v => d v
  | none => .error (.missingField name)

/-- The value of a field, or the value it falls back on. -/
def defaulted {α : Type} (entries : List (String × Value)) (name : String) (d : Decoder α)
    (fallback : α) : Except DecodeError α :=
  match entries.lookup name with
  | some v => d v
  | none => .ok fallback

end Fields

/-! ## Tagged records -/

/-- Splits a tagged record into its tag and the rest of it. The tag is an entry of a table or the
first item of a list. -/
def Value.tagged (tag : String) : Value → Except DecodeError (String × Value)
  | .table entries =>
    match entries.filter (·.1 == tag) with
    | [] => .error (.missingField tag)
    | [(_, .text s)] => .ok (s, .table (entries.filter (·.1 != tag)))
    | [_] => .error .malformed
    | _ => .error (.duplicateField tag)
  | .list (.text s :: rest) => .ok (s, .list rest)
  | .list [] => .error (.missingField tag)
  | _ => .error .malformed

/-- The rest of a tagged record whose tag says it all. Items of a list may not follow; entries of a
table are passed over. -/
def Decoder.nothing : Decoder Unit
  | .list (_ :: _) => .error .malformed
  | _ => .ok ()

end Upkeep

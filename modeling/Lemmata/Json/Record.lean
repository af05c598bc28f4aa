import Lemmata.Dict
import Lemmata.Json.Basic

/-!
# Records in JSON

A record is an object whose unknown members are ignored, or an array of its fields in order. A
decoder gives `none` for a value that does not fit.
-/

namespace Lemmata.Json

abbrev Decoder (α : Type) := Json → Option α

/-! ## Plain values -/

def decodeString : Decoder String := string?

def decodeBool : Decoder Bool
  | .bool b => some b
  | _ => none

/-- An integer literal within the bounds; `1.0` is not one. -/
def decodeInteger (least greatest : Int) : Decoder Int
  | .number (.integer n) => if least ≤ n ∧ n ≤ greatest then some n else none
  | _ => none

def decodeInt32 : Decoder Int32 := fun v =>
  (decodeInteger (-0x80000000) 0x7fffffff v).map Int32.ofInt

def decodeUInt64 : Decoder UInt64 := fun v =>
  (decodeInteger 0 0xffffffffffffffff v).map fun n => UInt64.ofNat n.toNat

def decodeByte : Decoder UInt8 := fun v =>
  (decodeInteger 0 255 v).map fun n => UInt8.ofNat n.toNat

def decodeList {α : Type} (decode : Decoder α) : Decoder (List α)
  | .array items => items.mapM decode
  | _ => none

/-- `null` is no value. -/
def decodeOption {α : Type} (decode : Decoder α) : Decoder (Option α)
  | .null => some none
  | v => (decode v).map some

def decodeDict : Decoder Dict
  | .object members =>
    (members.mapM fun ((key, v) : String × Json) =>
      (decodeString v).map fun s => (key, s)).map Dict.ofList
  | _ => none

/-- One of a list of names, alone or as an object with nothing under the name. -/
def decodeName {α : Type} (read : String → Option α) : Decoder α
  | .string s => read s
  | .object [(s, .null)] => read s
  | _ => none

/-! ## Fields -/

structure Record where
  fields : List (String × Json)

/-- The record in a value, whose fields have these names in this order. -/
def record? (names : List String) : Json → Option Record
  | .object members => some ⟨members⟩
  | .array items => if items.length ≤ names.length then some ⟨names.zip items⟩ else none
  | _ => none

namespace Record

def get {α : Type} (r : Record) (name : String) (decode : Decoder α) : Option α :=
  (r.fields.lookup name).bind decode

/-- A missing field has the default; a field that does not fit is an error all the same. -/
def getD {α : Type} (r : Record) (name : String) (decode : Decoder α) (default : α) : Option α :=
  match r.fields.lookup name with
  | none => some default
  | some v => decode v

def getOption {α : Type} (r : Record) (name : String) (decode : Decoder α) : Option (Option α) :=
  r.getD name (decodeOption decode) none

end Record

/-! ## Encoders -/

def ofDict (d : Dict) : Json :=
  .object (d.entries.map fun (key, s) => (key, .string s))

def ofOptionString (s : Option String) : Json :=
  ofOption (s.map .string)

def ofUInt64 (n : UInt64) : Json := ofNat n.toNat

def ofInt32 (n : Int32) : Json := ofInt n.toInt

end Lemmata.Json

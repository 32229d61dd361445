import TemplateCheck.Json.Printer
import TemplateCheck.Text.Quoted

/-! # Decoding structured values

Records are read from objects, whose members are visited in order, or from
arrays, whose elements are the fields in the order of their declaration. The
first member that cannot be read decides the fault.
-/

namespace TemplateCheck.Decode

open Decimal (Binary64)

/-- The kind of value that was met, with the value where messages show it. -/
inductive Shape where
  | null
  | bool (value : Bool)
  | int (value : Int)
  | double (value : Binary64)
  | str (value : String)
  | sequence
  | map
  deriving Repr, DecidableEq

def Shape.of : Json → Shape
  | .null => .null
  | .bool value => .bool value
  | .int value => .int value
  | .double value => .double value
  | .str value => .str value
  | .arr _ => .sequence
  | .obj _ => .map

/-- Integers outside the 64-bit ranges are shown with the wider type they need. -/
def Shape.text (numbers : Decimal.Notation) : Shape → String
  | .null => "null"
  | .bool value => "boolean `" ++ toString value ++ "`"
  | .int value =>
      let shown := "integer `" ++ toString value ++ "`"
      if Json.greatestSignedWideInt < value then shown ++ " as u128"
      else if value < Json.leastInt || Json.greatestInt < value then shown ++ " as i128"
      else shown
  | .double value => "floating point `" ++ Decimal.write numbers value ++ "`"
  | .str value => "string " ++ Text.quote value
  | .sequence => "sequence"
  | .map => "map"

/-- What a source of values decides about reading them: how messages write
numbers, and whether an array may have more elements than a record has fields. -/
structure Format where
  numbers : Decimal.Notation
  allowsExtraElements : Bool

/-- Values read from data. -/
def dataFormat : Format := ⟨Decimal.dataNotation, false⟩

/-- Values read from a configuration file. -/
def configFormat : Format := ⟨Decimal.plainNotation, true⟩

/-- Why a value could not be read. -/
inductive Fault where
  | invalidType (found : Shape) (expected : String)
  | invalidValue (found : Shape) (expected : String)
  | tooFewElements (count : Nat) (record : String) (size : Nat)
  | tooManyElements (count : Nat)
  | unknownField (name : String) (known : List String)
  | unknownVariant (name : String) (known : List String)
  | missingField (name : String)
  | refused (reason : String)
  deriving Repr, DecidableEq

/-- Names in a message: one, two, or a list. -/
def oneOf (names : List String) : String :=
  match names with
  | [] => "there are none"
  | [only] => "expected `" ++ only ++ "`"
  | [first, second] => "expected `" ++ first ++ "` or `" ++ second ++ "`"
  | _ => "expected one of " ++ String.intercalate ", " (names.map fun name => "`" ++ name ++ "`")

def Fault.message (format : Format) : Fault → String
  | .invalidType found expected =>
      "invalid type: " ++ found.text format.numbers ++ ", expected " ++ expected
  | .invalidValue found expected =>
      "invalid value: " ++ found.text format.numbers ++ ", expected " ++ expected
  | .tooFewElements count record size =>
      "invalid length " ++ toString count ++ ", expected struct " ++ record ++ " with " ++
        toString size ++ (if size = 1 then " element" else " elements")
  | .tooManyElements count =>
      "invalid length " ++ toString count ++ ", expected fewer elements in array"
  | .unknownField name known => "unknown field `" ++ name ++ "`, " ++ oneOf known
  | .unknownVariant name known => "unknown variant `" ++ name ++ "`, " ++ oneOf known
  | .missingField name => "missing field `" ++ name ++ "`"
  | .refused reason => reason

abbrev Decoder (result : Type) := Json → Except Fault result

def text : Decoder String
  | .str value => .ok value
  | other => .error (.invalidType (.of other) "a string")

def bool : Decoder Bool
  | .bool value => .ok value
  | other => .error (.invalidType (.of other) "a boolean")

/-- A whole number from zero up to a greatest one. -/
def nat (name : String) (greatest : Nat) : Decoder Nat
  | .int value =>
      if 0 ≤ value && value.toNat ≤ greatest then .ok value.toNat
      else if value < Json.leastInt || Json.greatestInt < value then
        .error (.invalidType (.int value) name)
      else .error (.invalidValue (.int value) name)
  | other => .error (.invalidType (.of other) name)

/-- A value that may be null. -/
def optional {result : Type} (decoder : Decoder result) : Decoder (Option result)
  | .null => .ok none
  | other => (decoder other).map some

/-- A list of values. -/
def list {result : Type} (decoder : Decoder result) : Decoder (List result)
  | .arr items => items.mapM decoder
  | other => .error (.invalidType (.of other) "a sequence")

/-- Any value as it is. -/
def any : Decoder Json :=
  .ok

/-! A record is read into a draft that starts with the default of every field. -/

structure Field (draft : Type) where
  name : String
  required : Bool
  read : Json → draft → Except Fault draft

structure Record (draft : Type) where
  name : String
  strict : Bool
  fields : List (Field draft)
  initial : draft

namespace Record

variable {draft : Type}

def fieldNames (record : Record draft) : List String :=
  record.fields.map Field.name

def readMembers (record : Record draft) : List (String × Json) → draft → Except Fault draft
  | [], filled => .ok filled
  | (name, value) :: rest, filled =>
      match record.fields.find? fun field => field.name == name with
      | some field => do readMembers record rest (← field.read value filled)
      | none =>
          if record.strict then .error (.unknownField name record.fieldNames)
          else readMembers record rest filled

/-- The first required field that no member gives. -/
def missing? (record : Record draft) (members : List (String × Json)) : Option String :=
  (record.fields.find? fun field =>
    field.required && !members.any fun member => member.1 == field.name).map Field.name

/-- Read elements as fields. The count is that of the fields already read. -/
def readElements (record : Record draft) (format : Format) :
    List (Field draft) → List Json → Nat → draft → Except Fault draft
  | [], [], _, filled => .ok filled
  | [], extra :: rest, count, filled =>
      if format.allowsExtraElements then .ok filled
      else .error (.tooManyElements (count + (extra :: rest).length))
  | field :: fields, [], count, filled =>
      if field.required then
        .error (.tooFewElements count record.name record.fields.length)
      else readElements record format fields [] (count + 1) filled
  | field :: fields, value :: rest, count, filled => do
      readElements record format fields rest (count + 1) (← field.read value filled)

def decode (record : Record draft) (format : Format) : Decoder draft
  | .obj members => do
      let filled ← record.readMembers members record.initial
      match record.missing? members with
      | some name => .error (.missingField name)
      | none => .ok filled
  | .arr items => record.readElements format record.fields items 0 record.initial
  | other => .error (.invalidType (.of other) ("struct " ++ record.name))

end Record

/-- A name out of a fixed list, as a text or as the key of an object whose only
value is null. -/
def variant {result : Type} (names : List (String × result)) : Decoder result := fun json => do
  let (name, payload) ← match json with
    | .str name => .ok (name, none)
    | .obj [(name, payload)] => .ok (name, some payload)
    | .obj _ => .error (.invalidValue .map "map with a single key")
    | other => .error (.invalidType (.of other) "string or map")
  match names.lookup name with
  | none => .error (.unknownVariant name (names.map Prod.fst))
  | some result =>
      match payload with
      | none => .ok result
      | some .null => .ok result
      | some other => .error (.invalidType (.of other) "unit")

end TemplateCheck.Decode

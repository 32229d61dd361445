import TemplateCheck.Decimal.Binary64
import TemplateCheck.Ordered

/-! # Structured values

The values that frames, manifests and configuration files hold. The members of
an object stand in the order in which its readers visit them: ascending by key
for data read from JSON, document order for data read from a configuration
file.
-/

namespace TemplateCheck

open Decimal (Binary64)

inductive Json where
  | null
  | bool (value : Bool)
  | int (value : Int)
  | double (value : Binary64)
  | str (value : String)
  | arr (items : List Json)
  | obj (members : List (String × Json))
  deriving Repr, Inhabited

namespace Json

/-- The least and greatest integers that stay integers when read. -/
def leastInt : Int := -0x8000000000000000
def greatestInt : Int := 0xffffffffffffffff

/-- The least and greatest integers of 128 bits, with a sign and without. -/
def leastWideInt : Int := -0x80000000000000000000000000000000
def greatestSignedWideInt : Int := 0x7fffffffffffffffffffffffffffffff
def greatestWideInt : Int := 0xffffffffffffffffffffffffffffffff

/-- The value of a member, if this is an object that has it. -/
def get? (json : Json) (key : String) : Option Json :=
  match json with
  | .obj members => members.lookup key
  | _ => none

/-- Build an object in key order; of equal keys the last one counts. -/
def ofMembers (members : List (String × Json)) : Json :=
  .obj (members.foldl (fun sorted member => Ordered.put compare member.1 member.2 sorted) [])

def text? : Json → Option String
  | .str value => some value
  | _ => none

mutual

/-- How many containers are nested in one another. -/
def depth : Json → Nat
  | .arr items => itemsDepth items + 1
  | .obj members => membersDepth members + 1
  | _ => 0

def itemsDepth : List Json → Nat
  | [] => 0
  | item :: rest => max (depth item) (itemsDepth rest)

def membersDepth : List (String × Json) → Nat
  | [] => 0
  | (_, member) :: rest => max (depth member) (membersDepth rest)

end

end Json

end TemplateCheck

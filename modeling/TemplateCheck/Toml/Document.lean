import TemplateCheck.Toml.Syntax

/-! # TOML documents

Statements build a tree of tables. A table is defined once, by its header or by
the keys that go through it; tables that only stand on the way to another one
may still be defined. The document's members keep the order in which they were
defined. -/

namespace TemplateCheck.Toml

/-- How a table came to be: on the way to a header, by a dotted key, or by its
own header. -/
inductive Origin where
  | passedThrough
  | dotted
  | header
  deriving Repr, DecidableEq, Inhabited

inductive Node where
  | leaf (value : Json)
  | table (origin : Origin) (members : List (String × Node))
  | tables (items : List (List (String × Node)))
  deriving Repr, Inhabited

abbrev Members := List (String × Node)

mutual

def Node.toJson : Node → Json
  | .leaf value => value
  | .table _ members => .obj (nodesToJson members)
  | .tables items => .arr (itemsToJson items)

def nodesToJson : List (String × Node) → List (String × Json)
  | [] => []
  | (name, node) :: rest => (name, node.toJson) :: nodesToJson rest

def itemsToJson : List (List (String × Node)) → List Json
  | [] => []
  | members :: rest => .obj (nodesToJson members) :: itemsToJson rest

end

/-- Change the table that a header path leads to. Missing tables are made on the
way, and a list of tables stands for its last one. -/
def within (edit : Members → Option Members) : List String → Members → Option Members
  | [], members => edit members
  | name :: rest, members =>
      match members.lookup name with
      | none => do
          let inner ← within edit rest []
          return members ++ [(name, .table .passedThrough inner)]
      | some (.table origin inner) => do
          let changed ← within edit rest inner
          return setMember name (.table origin changed) members
      | some (.tables items) => do
          let changed ← within edit rest (items.getLast?.getD [])
          return setMember name (.tables (items.dropLast ++ [changed])) members
      | some (.leaf _) => none

def openTable (name : String) (members : Members) : Option Members :=
  match members.lookup name with
  | none => some (members ++ [(name, .table .header [])])
  | some (.table .passedThrough inner) =>
      some (members.filter (fun member => member.1 ≠ name) ++ [(name, .table .header inner)])
  | some _ => none

def openItem (name : String) (members : Members) : Option Members :=
  match members.lookup name with
  | none => some (members ++ [(name, .tables [[]])])
  | some (.tables items) => some (setMember name (.tables (items ++ [[]])) members)
  | some _ => none

/-- Give a dotted key a value. The table that holds the last name must have been
made by dotted keys, unless it is the table of the header itself. -/
def assign : Bool → List String → Json → Members → Option Members
  | _, [], _, _ => none
  | isHolder, [name], value, members =>
      if !isHolder || (members.lookup name).isSome then none
      else some (members ++ [(name, .leaf value)])
  | _, name :: rest, value, members =>
      match members.lookup name with
      | none => do
          let inner ← assign true rest value []
          return members ++ [(name, .table .dotted inner)]
      | some (.table .header _) => none
      | some (.table origin inner) => do
          let changed ← assign (origin == .dotted) rest value inner
          return setMember name (.table origin changed) members
      | some _ => none

/-- A document under construction: its tables and the header in force. -/
structure Building where
  members : Members := []
  header : List String := []
  deriving Repr, Inhabited

def Building.add (building : Building) : Statement → Option Building
  | .table path => do
      let members ← within (openTable (path.getLast?.getD "")) path.dropLast building.members
      return ⟨members, path⟩
  | .tableItem path => do
      let members ← within (openItem (path.getLast?.getD "")) path.dropLast building.members
      return ⟨members, path⟩
  | .assign path value => do
      let members ← within (assign true path value) building.header building.members
      return { building with members }

/-- A mark at the start of a text that only says how it is encoded. -/
def dropByteOrderMark : List Char → List Char
  | first :: rest => if first.toNat = 0xFEFF then rest else first :: rest
  | [] => []

/-- The value of a document: an object with its tables. -/
def parse (text : String) : Option Json := do
  let input := dropByteOrderMark text.toList
  let list ← statements input.length input
  let built ← list.foldlM Building.add {}
  return .obj (nodesToJson built.members)

end TemplateCheck.Toml

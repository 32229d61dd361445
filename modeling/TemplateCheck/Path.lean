import TemplateCheck.Ordered
import TemplateCheck.Text.Blank

/-! # Paths

A path is a text whose segments are divided by slashes. Two views matter: the
segments, which are what is written, and the components, which are what is
meant. Empty segments and `.` say nothing, except for a `.` at the very start
of a relative path; `..` is kept as it is. Paths are compared by components.
-/

namespace TemplateCheck

structure Path where
  text : String
  deriving Repr, DecidableEq, Inhabited

namespace Path

inductive Component where
  | root
  | current
  | parent
  | name (text : String)
  deriving Repr, DecidableEq

namespace Component

/-- The root comes first, then `.`, then `..`, then the names. -/
def rank : Component → Nat
  | .root => 0
  | .current => 1
  | .parent => 2
  | .name _ => 3

def compare : Component → Component → Ordering
  | .name left, .name right => Ord.compare left right
  | left, right => Ord.compare left.rank right.rank

/-- A component that stays inside the directory it is taken from. -/
def staysInside : Component → Bool
  | .name _ => true
  | .current => true
  | _ => false

end Component

/-- The pieces between the slashes. The empty path has none. -/
def segments (path : Path) : List String :=
  if path.text.isEmpty then [] else Text.pieces '/' path.text

def isAbsolute (path : Path) : Bool :=
  path.text.toList.head? == some '/'

/-- What a segment after the first one means. -/
def componentOf? (segment : String) : Option Component :=
  if segment = "" || segment = "." then none
  else if segment = ".." then some .parent
  else some (.name segment)

/-- What the first segment means. -/
def firstComponentOf (segment : String) : Component :=
  if segment = "" then .root
  else if segment = "." then .current
  else if segment = ".." then .parent
  else .name segment

def components (path : Path) : List Component :=
  match path.segments with
  | [] => []
  | first :: rest => firstComponentOf first :: rest.filterMap componentOf?

def compare (left right : Path) : Ordering :=
  Ordered.compareLists Component.compare left.components right.components

def same (left right : Path) : Bool :=
  left.components == right.components

/-- Whether the components of a folder begin the components of a path. -/
def isUnder (path folder : Path) : Bool :=
  folder.components.isPrefixOf path.components

/-- Put a path below this one. An absolute path replaces this one, and a slash
is added where this one does not end with one. -/
def join (base : Path) (rest : Path) : Path :=
  if rest.isAbsolute then rest
  else if base.text.isEmpty || base.text.toList.getLast? == some '/' then
    ⟨base.text ++ rest.text⟩
  else ⟨base.text ++ "/" ++ rest.text⟩

/-- A segment that stands after others and says nothing. -/
def isNoise (segment : String) (before : List String) : Bool :=
  !before.isEmpty && (segment = "" || segment = ".")

/-- Drop the segments at the end that say nothing. The segments are given from
the last to the first. -/
def dropNoise : List String → List String
  | [] => []
  | last :: before => if isNoise last before then dropNoise before else last :: before

/-- The path of segments given from the last to the first. -/
def ofReversed (reversed : List String) : Path :=
  match reversed with
  | [] => ⟨""⟩
  | [""] => ⟨"/"⟩
  | _ => ⟨String.intercalate "/" reversed.reverse⟩

/-- The segment lists of the directories above, nearest first. -/
def enclosing : List String → List (List String)
  | [] => []
  | last :: before =>
      if isNoise last before then enclosing before
      else if before.isEmpty && last = "" then []
      else dropNoise before :: enclosing before

/-- The directories above a path, nearest first. A relative path ends with the
empty path. -/
def parents (path : Path) : List Path :=
  (enclosing path.segments.reverse).map ofReversed

/-- The directory that holds a path. The root and the empty path have none. -/
def parent? (path : Path) : Option Path :=
  path.parents.head?

/-- The path itself, then the directories above it. -/
def ancestors (path : Path) : List Path :=
  path :: path.parents

/-- The last component, if it is a name. -/
def fileName? (path : Path) : Option String :=
  match path.components.getLast? with
  | some (.name text) => some text
  | _ => none

/-- What stands after the last dot of a name. A name without a dot, or with no
dot but one at its start, has no extension. -/
def nameExtension? (name : List Char) : Option (List Char) :=
  match Text.cutAtFirst '.' name.reverse with
  | none => none
  | some (_, []) => none
  | some (after, _ :: _) => some after.reverse

def extension? (path : Path) : Option String := do
  let name ← path.fileName?
  let found ← nameExtension? name.toList
  return String.ofList found

example : (Path.mk "/a//b/./c/").parents.map Path.text = ["/a//b", "/a", "/"] := by decide +kernel
example : (Path.mk "./a").parents.map Path.text = [".", ""] := by decide +kernel
example : (Path.mk "a/x").compare ⟨"a-b/x"⟩ = .lt := by decide +kernel
example : (Path.mk "/p/a..cto").extension? = some "cto" := by decide +kernel

end Path

end TemplateCheck

import TemplateCheck.Path
import TemplateCheck.Text.Utf8

/-! # File systems

A tree of files, directories and symbolic links, with a working directory for
relative paths. A place in the tree is the list of the names that lead to it,
innermost first, with no links on the way. Looking up a path walks its segments
from place to place; a link restarts the walk at its target, and at most forty
links are followed in one look-up.
-/

namespace TemplateCheck

inductive Entry where
  | file (content : List UInt8)
  | directory (entries : List (String × Entry))
  | link (target : String)
  deriving Repr, Inhabited

structure FileSystem where
  entries : List (String × Entry)
  workingDirectory : List String
  deriving Repr, Inhabited

inductive FileFault where
  | notFound
  | notDirectory
  | isDirectory
  | nameTooLong
  | tooManyLinks
  | nulInName
  | notText
  deriving Repr, DecidableEq

def FileFault.message : FileFault → String
  | .notFound => "No such file or directory (os error 2)"
  | .notDirectory => "Not a directory (os error 20)"
  | .isDirectory => "Is a directory (os error 21)"
  | .nameTooLong => "File name too long (os error 36)"
  | .tooManyLinks => "Too many levels of symbolic links (os error 40)"
  | .nulInName => "file name contained an unexpected NUL byte"
  | .notText => "stream did not contain valid UTF-8"

abbrev Place := List String

namespace Entry

def child? (entry : Entry) (name : String) : Option Entry :=
  match entry with
  | .directory entries => entries.lookup name
  | _ => none

/-- The entry that names lead to, outermost first, without following links. -/
def at? : Entry → List String → Option Entry
  | entry, [] => some entry
  | entry, name :: rest => (entry.child? name).bind fun child => child.at? rest

/-- Give a name in the directory that the names lead to an entry, or take it
away. Other entries stay as they are. -/
def change (name : String) (content : Option Entry) : Entry → List String → Entry
  | .directory entries, [] =>
      match content with
      | some entry => .directory (Ordered.put Ord.compare name entry entries)
      | none => .directory (Ordered.erase Ord.compare name entries)
  | .directory entries, step :: rest =>
      match entries.lookup step with
      | some child =>
          .directory (Ordered.put Ord.compare step (change name content child rest) entries)
      | none => .directory entries
  | entry, _ => entry

end Entry

namespace FileSystem

/-- The greatest number of links followed in one look-up. -/
def greatestLinkCount : Nat := 40

/-- The greatest number of bytes of one name and of a whole path. -/
def greatestNameLength : Nat := 255
def greatestPathLength : Nat := 4095

def root (files : FileSystem) : Entry :=
  .directory files.entries

def at? (files : FileSystem) (place : Place) : Option Entry :=
  files.root.at? place.reverse

/-- Walk segments from a place. A link hands its target's segments and the rest
of the walk to `jump`. -/
def walk (files : FileSystem) (jump : Place → List String → Except FileFault Place) :
    Place → List String → Except FileFault Place
  | place, [] => .ok place
  | place, segment :: rest =>
      match files.at? place with
      | some (.directory entries) =>
          if segment = "" || segment = "." then walk files jump place rest
          else if segment = ".." then walk files jump place.tail rest
          else if greatestNameLength < segment.utf8ByteSize then .error .nameTooLong
          else
            match entries.lookup segment with
            | none => .error .notFound
            | some (.link target) =>
                if target.isEmpty then .error .notFound
                else
                  let goal : Path := ⟨target⟩
                  jump (if goal.isAbsolute then [] else place) (goal.segments ++ rest)
            | some _ => walk files jump (segment :: place) rest
      | _ => .error .notDirectory

/-- Walk segments from a place, following at most the given number of links. -/
def follow (files : FileSystem) : Nat → Place → List String → Except FileFault Place
  | 0 => walk files fun _ _ => .error .tooManyLinks
  | links + 1 => walk files (follow files links)

def startOf (files : FileSystem) (path : Path) : Place :=
  if path.isAbsolute then [] else files.workingDirectory.reverse

def resolve (files : FileSystem) (path : Path) : Except FileFault Place :=
  if path.text.toList.any (fun character => character.toNat == 0) then .error .nulInName
  else if path.text.isEmpty then .error .notFound
  else if greatestPathLength < path.text.utf8ByteSize then .error .nameTooLong
  else files.follow greatestLinkCount (files.startOf path) path.segments

def entry (files : FileSystem) (path : Path) : Except FileFault Entry := do
  let place ← files.resolve path
  match files.at? place with
  | some found => .ok found
  | none => .error .notFound

def readBytes (files : FileSystem) (path : Path) : Except FileFault (List UInt8) := do
  match ← files.entry path with
  | .file content => .ok content
  | .directory _ => .error .isDirectory
  | .link _ => .error .tooManyLinks

def readText (files : FileSystem) (path : Path) : Except FileFault String := do
  let content ← files.readBytes path
  match Text.Utf8.decode content with
  | .ok text => .ok text
  | .error _ => .error .notText

def exists? (files : FileSystem) (path : Path) : Bool :=
  match files.entry path with
  | .ok _ => true
  | .error _ => false

/-- Whether a path is known to lead nowhere. A path that cannot be looked up for
any other reason is not missing. -/
def isMissing (files : FileSystem) (path : Path) : Bool :=
  match files.entry path with
  | .error .notFound => true
  | _ => false

def isDirectory (files : FileSystem) (path : Path) : Bool :=
  match files.entry path with
  | .ok (.directory _) => true
  | _ => false

/-! A walk lists the regular files below a directory. Entries whose name starts
with a dot are left out with all they hold, and links are left out too. -/

/-- A name that a walk passes over. -/
def isHidden (name : String) : Bool :=
  name.toList.head? == some '.'

mutual

/-- The files that an entry of a directory contributes. -/
def filesOf (path : Path) : Entry → List Path
  | .file _ => [path]
  | .directory entries => filesIn path entries
  | .link _ => []

/-- The files below a directory, by its path and its entries. -/
def filesIn (folder : Path) : List (String × Entry) → List Path
  | [] => []
  | (name, entry) :: rest =>
      if isHidden name then filesIn folder rest
      else filesOf (folder.join ⟨name⟩) entry ++ filesIn folder rest

end

/-- The files below a directory. The directory itself may be hidden and may be
reached through a link. -/
def filesBelow (files : FileSystem) (folder : Path) : List Path :=
  match files.entry folder with
  | .ok (.directory entries) => filesIn folder entries
  | _ => []

end FileSystem

end TemplateCheck

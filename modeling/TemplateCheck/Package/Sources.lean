import TemplateCheck.FileSystem.Basic
import TemplateCheck.Package.Glob
import TemplateCheck.Package.Layout

/-! # Source files

The model and logic files of a package are found by their extension, below the
directory of the edited file and the directory that the layout names. -/

namespace TemplateCheck.Package

inductive SourceSet where
  | models
  | logic
  deriving Repr, DecidableEq

/-- The patterns for the names of both kinds of source. -/
structure Sources where
  models : List Glob.Token
  logic : List Glob.Token
  deriving Repr, Inhabited

structure SourcesFault where
  pattern : String
  fault : Glob.Fault
  deriving Repr, DecidableEq

def SourcesFault.message (fault : SourcesFault) : String :=
  "invalid source glob '" ++ fault.pattern ++ "': error parsing glob '" ++ fault.pattern ++
    "': " ++ fault.fault.message

namespace Sources

def patternText (extension : String) : String :=
  "*." ++ Glob.escape extension

def pattern (extension : String) : Except SourcesFault (List Glob.Token) :=
  let text := patternText extension
  match Glob.parse text with
  | .ok tokens => .ok tokens
  | .error fault => .error ⟨text, fault⟩

/-- The patterns of a layout. An extension may make no pattern, as one that ends
with a backslash does. -/
def ofLayout (layout : Layout) : Except SourcesFault Sources := do
  let models ← pattern layout.modelExtension
  let logic ← pattern layout.logicExtension
  return ⟨models, logic⟩

def patternOf (sources : Sources) : SourceSet → List Glob.Token
  | .models => sources.models
  | .logic => sources.logic

/-- Whether a file belongs to a set, by its name. -/
def belongs (sources : Sources) (set : SourceSet) (path : Path) : Bool :=
  match path.fileName? with
  | some name => Glob.isMatch (sources.patternOf set) name
  | none => false

/-- The files of a set below some directories, in path order and each once. -/
def find (sources : Sources) (files : FileSystem) (folders : List Path) (set : SourceSet) :
    List Path :=
  let candidates := folders.flatMap fun folder => files.filesBelow folder
  Ordered.insertAll Path.compare (candidates.filter (sources.belongs set)) []

end Sources

/-- The directories to search after an edit: the one of the edited file, and the
one that the layout names unless it is the same. -/
def searchFolders (edited : Path) (layoutFolder : Path) : List Path :=
  match edited.parent? with
  | none => [layoutFolder]
  | some parent => if parent.same layoutFolder then [parent] else [parent, layoutFolder]

end TemplateCheck.Package

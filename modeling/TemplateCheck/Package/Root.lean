import TemplateCheck.FileSystem.Basic
import TemplateCheck.Json.Parser
import TemplateCheck.Package.Layout

/-! # Package roots

The root of a package is the nearest directory above a file whose manifest is
JSON and has the marker key with a value other than null and false. -/

namespace TemplateCheck.Package

def hasMarker (manifest : Json) (marker : String) : Bool :=
  match manifest.get? marker with
  | none => false
  | some .null => false
  | some (.bool false) => false
  | some _ => true

/-- The path where the manifest of a directory is looked for. -/
def Layout.manifestIn (layout : Layout) (folder : Path) : Path :=
  folder.join ⟨layout.manifestFile⟩

/-- Whether a directory holds a marked manifest. A manifest that cannot be read
counts as none. -/
def isRoot (files : FileSystem) (layout : Layout) (folder : Path) : Bool :=
  match files.readText (layout.manifestIn folder) with
  | .error _ => false
  | .ok content =>
      match Json.parse content with
      | none => false
      | some manifest => hasMarker manifest layout.markerKey

/-- The directories that may be the root of a path's package, nearest first. -/
def rootCandidates (path : Path) : List Path :=
  ((path.parent?).getD path).ancestors.filter fun folder => !folder.text.isEmpty

/-- Look through directories for a root, and stop at the first. The manifests that were read
come with it. -/
def search (files : FileSystem) (layout : Layout) : List Path → List Path × Option Path
  | [] => ([], none)
  | folder :: higher =>
      if isRoot files layout folder then ([layout.manifestIn folder], some folder)
      else
        let (manifests, found) := search files layout higher
        (layout.manifestIn folder :: manifests, found)

def findRoot? (files : FileSystem) (layout : Layout) (path : Path) : Option Path :=
  (search files layout (rootCandidates path)).2

/-- The manifests that are read to find the root of a path's package. -/
def manifestsRead (files : FileSystem) (layout : Layout) (path : Path) : List Path :=
  (search files layout (rootCandidates path)).1

def rootNotFoundMessage (layout : Layout) (path : Path) : String :=
  path.text ++ " is not a sub-folder of a template package. Ensure a parent folder contains a valid " ++
    layout.manifestFile ++ " with a \"" ++ layout.markerKey ++ "\" entry."

/-- Why a path has no package: the manifest and the marker that no directory above it has. -/
structure RootNotFound where
  path : Path
  manifest : String
  marker : String
  deriving Repr, DecidableEq

def RootNotFound.message (fault : RootNotFound) : String :=
  rootNotFoundMessage { manifestFile := fault.manifest, markerKey := fault.marker } fault.path

/-- The root of a path's package. -/
def resolve (files : FileSystem) (layout : Layout) (path : Path) : Except RootNotFound Path :=
  match findRoot? files layout path with
  | some root => .ok root
  | none => .error ⟨path, layout.manifestFile, layout.markerKey⟩

end TemplateCheck.Package

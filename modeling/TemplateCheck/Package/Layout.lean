import TemplateCheck.Decode
import TemplateCheck.Path
import TemplateCheck.Text.Blank

/-! # Package layout

Where a template package keeps its parts: the manifest and the key that marks
it, the three source extensions, and four paths below the package root. A layout
is only made from names that are not blank, extensions that are distinct and
have no leading dot, and paths that stay inside the package.
-/

namespace TemplateCheck.Package

/-- What an extension says about a file. -/
inductive SourceKind where
  | model
  | logic
  | grammar
  | other
  deriving Repr, DecidableEq, Inhabited

def SourceKind.name : SourceKind → String
  | .model => "model"
  | .logic => "logic"
  | .grammar => "grammar"
  | .other => "other"

structure Layout where
  manifestFile : String := "package.json"
  markerKey : String := "accordproject"
  modelExtension : String := "cto"
  logicExtension : String := "ergo"
  grammarExtension : String := "tem"
  modelsFolder : Path := ⟨"models"⟩
  logicFolder : Path := ⟨"lib"⟩
  grammarPath : Path := ⟨"grammar/template.tem"⟩
  samplePath : Path := ⟨"sample.txt"⟩
  deriving Repr, DecidableEq

instance : Inhabited Layout := ⟨{}⟩

/-- Why values do not make a layout. -/
inductive LayoutFault where
  | empty (field : String)
  | dottedExtension (field value : String)
  | duplicateExtension
  | notRelative (field value : String)
  deriving Repr, DecidableEq

def LayoutFault.message : LayoutFault → String
  | .empty field => field ++ " must not be empty"
  | .dottedExtension field value =>
      field ++ " must be given without a leading dot (got " ++ Text.quote value ++ ")"
  | .duplicateExtension => "model, logic and grammar extensions must be distinct"
  | .notRelative field value =>
      field ++ " must be a relative path inside the package (got " ++ Text.quote value ++ ")"

namespace Layout

/-- The models of the package at a root. -/
def modelsDirectory (layout : Layout) (root : Path) : Path :=
  root.join layout.modelsFolder

/-- The logic of the package at a root. -/
def logicDirectory (layout : Layout) (root : Path) : Path :=
  root.join layout.logicFolder

/-- The grammar of the package at a root. -/
def grammarFile (layout : Layout) (root : Path) : Path :=
  root.join layout.grammarPath

/-- The sample text of the package at a root. -/
def sampleFile (layout : Layout) (root : Path) : Path :=
  root.join layout.samplePath

/-- The kind of a file, by its extension. -/
def classify (layout : Layout) (path : Path) : SourceKind :=
  match path.extension? with
  | none => .other
  | some extension =>
      if extension = layout.modelExtension then .model
      else if extension = layout.logicExtension then .logic
      else if extension = layout.grammarExtension then .grammar
      else .other

/-- Equality of layouts, with paths compared by components. -/
def same (left right : Layout) : Bool :=
  left.manifestFile == right.manifestFile && left.markerKey == right.markerKey &&
    left.modelExtension == right.modelExtension && left.logicExtension == right.logicExtension &&
    left.grammarExtension == right.grammarExtension &&
    left.modelsFolder.same right.modelsFolder && left.logicFolder.same right.logicFolder &&
    left.grammarPath.same right.grammarPath && left.samplePath.same right.samplePath

def checkNonEmpty (field value : String) : Except LayoutFault Unit :=
  if Text.isAllBlank value then .error (.empty field) else .ok ()

def checkExtension (field value : String) : Except LayoutFault Unit := do
  checkNonEmpty field value
  if value.toList.head? == some '.' then .error (.dottedExtension field value) else .ok ()

def checkInside (field : String) (value : Path) : Except LayoutFault Unit := do
  checkNonEmpty field value.text
  if value.components.all Path.Component.staysInside then .ok ()
  else .error (.notRelative field value.text)

/-- The rules of a layout, in the order in which a breach is reported. -/
def check (layout : Layout) : Except LayoutFault Unit := do
  checkNonEmpty "manifest_file" layout.manifestFile
  checkNonEmpty "marker_key" layout.markerKey
  checkExtension "model_extension" layout.modelExtension
  checkExtension "logic_extension" layout.logicExtension
  checkExtension "grammar_extension" layout.grammarExtension
  if layout.modelExtension = layout.logicExtension ||
      layout.modelExtension = layout.grammarExtension ||
      layout.logicExtension = layout.grammarExtension then
    .error .duplicateExtension
  checkInside "models_dir" layout.modelsFolder
  checkInside "logic_dir" layout.logicFolder
  checkInside "grammar_file" layout.grammarPath
  checkInside "sample_file" layout.samplePath

/-- A field that holds a text. -/
def textField (name : String) (set : Layout → String → Layout) : Decode.Field Layout where
  name
  required := false
  read json layout := (Decode.text json).map (set layout)

/-- The fields of a layout as they are written, before the rules are checked. -/
def record : Decode.Record Layout where
  name := "RawPackageLayout"
  strict := true
  fields := [
    textField "manifest_file" fun layout value => { layout with manifestFile := value },
    textField "marker_key" fun layout value => { layout with markerKey := value },
    textField "model_extension" fun layout value => { layout with modelExtension := value },
    textField "logic_extension" fun layout value => { layout with logicExtension := value },
    textField "grammar_extension" fun layout value => { layout with grammarExtension := value },
    textField "models_dir" fun layout value => { layout with modelsFolder := ⟨value⟩ },
    textField "logic_dir" fun layout value => { layout with logicFolder := ⟨value⟩ },
    textField "grammar_file" fun layout value => { layout with grammarPath := ⟨value⟩ },
    textField "sample_file" fun layout value => { layout with samplePath := ⟨value⟩ }]
  initial := {}

/-- Read a layout and check its rules. Fields that are not given keep their
defaults. -/
def decode (format : Decode.Format) : Decode.Decoder Layout := fun json => do
  let layout ← record.decode format json
  match layout.check with
  | .ok () => .ok layout
  | .error fault => .error (.refused fault.message)

end Layout

end TemplateCheck.Package

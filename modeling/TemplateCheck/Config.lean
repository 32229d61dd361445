import TemplateCheck.FileSystem.Basic
import TemplateCheck.Settings
import TemplateCheck.Toml.Document

/-! # Configuration files

Settings are read from a TOML file with the sections `layout`, `cache` and
`session`. Its path is given from outside or lies in the home directory; a file
that is not there leaves all settings at their defaults. -/

namespace TemplateCheck.Config

inductive Fault where
  | unreadable (path : Path) (cause : FileFault)
  | malformed (path : Path)
  | refused (path : Path) (cause : Decode.Fault)
  deriving Repr, DecidableEq

def Fault.path : Fault → Path
  | .unreadable path _ => path
  | .malformed path => path
  | .refused path _ => path

/-- The message of a fault. A file that is not TOML has none of its own. -/
def Fault.message? : Fault → Option String
  | .unreadable path cause =>
      some ("failed to read config at " ++ path.text ++ ": " ++ cause.message)
  | .malformed _ => none
  | .refused _ cause => some (cause.message Decode.configFormat)

/-- The path of the configuration file: the one that is asked for, unless it is
empty, else the one in the home directory. -/
def path (asked : Option String) (home : Path) : Path :=
  match asked with
  | some text => if text.isEmpty then standard else ⟨text⟩
  | none => standard
where
  standard : Path := (home.join ⟨".stencil"⟩).join ⟨"config.toml"⟩

def parse (source : Path) (text : String) : Except Fault Settings :=
  match Toml.parse text with
  | none => .error (.malformed source)
  | some json =>
      match Settings.decode Decode.configFormat json with
      | .ok settings => .ok settings
      | .error cause => .error (.refused source cause)

def loadFrom (files : FileSystem) (source : Path) : Except Fault Settings :=
  match files.readText source with
  | .error cause => .error (.unreadable source cause)
  | .ok text => parse source text

/-- The settings in the configuration file, if it is there. -/
def load? (files : FileSystem) (asked : Option String) (home : Path) :
    Except Fault (Option Settings) :=
  let source := path asked home
  if files.exists? source then (loadFrom files source).map some else .ok none

end TemplateCheck.Config

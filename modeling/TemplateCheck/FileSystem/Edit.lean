import TemplateCheck.FileSystem.Basic

/-! # Changing a file system

Files are written with the directories above them, as an editor saves them.
Links among those directories are followed.
-/

namespace TemplateCheck.FileSystem

/-- An empty tree whose working directory exists. -/
def singleDirectory : List String → List (String × Entry)
  | [] => []
  | name :: rest => [(name, .directory (singleDirectory rest))]

def empty (workingDirectory : List String) : FileSystem :=
  ⟨singleDirectory workingDirectory, workingDirectory⟩

def changeAt (files : FileSystem) (place : Place) (name : String) (content : Option Entry) :
    FileSystem :=
  match files.root.change name content place.reverse with
  | .directory entries => { files with entries }
  | _ => files

/-- Create the missing directories along segments, and say where they end. -/
def makeDirectories : FileSystem → Place → List String → FileSystem × Place
  | files, place, [] => (files, place)
  | files, place, segment :: rest =>
      if segment = "" || segment = "." then makeDirectories files place rest
      else if segment = ".." then makeDirectories files place.tail rest
      else
        match (files.at? place).bind fun directory => directory.child? segment with
        | none =>
            makeDirectories (files.changeAt place segment (some (.directory [])))
              (segment :: place) rest
        | some (.link _) =>
            match files.follow greatestLinkCount place [segment] with
            | .ok target => makeDirectories files target rest
            | .error _ => (files, place)
        | some _ => makeDirectories files (segment :: place) rest

def createDirectory (files : FileSystem) (path : Path) : FileSystem :=
  (makeDirectories files (files.startOf path) path.segments).1

/-- Create the directories above a path; gives the place and the name in it. -/
def prepare (files : FileSystem) (path : Path) : Option (FileSystem × Place × String) :=
  match Path.dropNoise path.segments.reverse with
  | [] => none
  | name :: above =>
      let (files, place) := makeDirectories files (files.startOf path) above.reverse
      some (files, place, name)

/-- Write a file, through a link if the path leads to a file by one. -/
def writeFile (files : FileSystem) (path : Path) (content : List UInt8) : FileSystem :=
  match files.prepare path with
  | none => files
  | some (files, place, name) =>
      match files.follow greatestLinkCount place [name] with
      | .ok (target :: above) => files.changeAt above target (some (.file content))
      | _ => files.changeAt place name (some (.file content))

/-- Create a symbolic link in place of what was there. -/
def createLink (files : FileSystem) (path : Path) (target : String) : FileSystem :=
  match files.prepare path with
  | none => files
  | some (files, place, name) => files.changeAt place name (some (.link target))

def remove (files : FileSystem) (path : Path) : FileSystem :=
  match Path.dropNoise path.segments.reverse with
  | [] => files
  | name :: above =>
      match files.follow greatestLinkCount (files.startOf path) above.reverse with
      | .ok place => files.changeAt place name none
      | .error _ => files

end TemplateCheck.FileSystem

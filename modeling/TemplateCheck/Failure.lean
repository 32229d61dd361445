import TemplateCheck.FileSystem.Basic
import TemplateCheck.Path

/-! # Failures

How the compilation engines report that something is wrong: a message, perhaps a
file or the name of a model file, and perhaps a location. A located failure
either gives two positions in a file or a descriptor, whose positions may be
missing and whose verbose text may name a file. Lines count from one; line zero
of a descriptor means that the position is not known.
-/

namespace TemplateCheck

/-- A position as an engine reports it: lines from one, columns from zero. -/
structure SourcePosition where
  line : UInt32
  column : UInt32
  deriving Repr, DecidableEq, Inhabited

def SourcePosition.isKnown (position : SourcePosition) : Bool :=
  position.line != 0

inductive DescriptorKind where
  | compilationError
  | typeError
  | other (tag : String)
  deriving Repr, DecidableEq, Inhabited

def DescriptorKind.ofTag (tag : String) : DescriptorKind :=
  if tag = "CompilationError" then .compilationError
  else if tag = "TypeError" then .typeError
  else .other tag

/-- Errors whose start alone is meaningful. -/
def DescriptorKind.isPointError : DescriptorKind → Bool
  | .compilationError => true
  | .typeError => true
  | .other _ => false

structure Descriptor where
  kind : DescriptorKind
  start : Option SourcePosition
  stop : Option SourcePosition
  verbose : Option String
  deriving Repr, DecidableEq, Inhabited

inductive FailureLocation where
  | file (start stop : SourcePosition)
  | descriptor (descriptor : Descriptor)
  | unlocated
  deriving Repr, DecidableEq, Inhabited

structure Failure where
  message : String
  file : Option Path := none
  modelFile : Option String := none
  location : FailureLocation := .unlocated
  deriving Repr, DecidableEq, Inhabited

namespace Failure

def ofRead (path : Path) (reason : String) : Failure where
  message := "Failed to read " ++ path.text ++ ": " ++ reason
  file := some path

def withFile (failure : Failure) (path : Path) : Failure :=
  { failure with file := some path }

def withModelFile (failure : Failure) (name : String) : Failure :=
  { failure with modelFile := some name }

def between (failure : Failure) (start stop : SourcePosition) : Failure :=
  { failure with location := .file start stop }

def withDescriptor (failure : Failure) (descriptor : Descriptor) : Failure :=
  { failure with location := .descriptor descriptor }

/-- The verbose text, which only a descriptor has. -/
def verbose? (failure : Failure) : Option String :=
  match failure.location with
  | .descriptor descriptor => descriptor.verbose
  | _ => none

end Failure

end TemplateCheck

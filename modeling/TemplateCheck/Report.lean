import TemplateCheck.Diagnostic
import TemplateCheck.Uri.Basic

/-! # Reports

What one pass has to say about files: for every file it looked at, the set of
its diagnostics. An empty set says that the file is valid, so that markers shown
for it earlier are cleared; a file that is absent keeps its markers. Files stand
in the order of their URIs and diagnostics in their own order.
-/

namespace TemplateCheck

/-- One file's diagnostics as they are published. -/
structure Batch where
  uri : Uri
  diagnostics : List Diagnostic
  deriving Repr, DecidableEq, Inhabited

structure Report where
  files : List (Uri × List Diagnostic) := []
  deriving Repr, DecidableEq, Inhabited

namespace Report

def empty : Report := {}

/-- The diagnostics of a file, if the report mentions it. -/
def get? (report : Report) (uri : Uri) : Option (List Diagnostic) :=
  Ordered.find? Uri.compare uri report.files

/-- Forget the diagnostics of a file and list it as valid. -/
def markValid (report : Report) (uri : Uri) : Report :=
  ⟨Ordered.put Uri.compare uri [] report.files⟩

def add (report : Report) (uri : Uri) (diagnostic : Diagnostic) : Report :=
  let known := (report.get? uri).getD []
  ⟨Ordered.put Uri.compare uri (Ordered.insert Diagnostic.compare diagnostic known) report.files⟩

def size (report : Report) : Nat := report.files.length

def isEmpty (report : Report) : Bool := report.files.isEmpty

def errorCount (report : Report) : Nat :=
  (report.files.flatMap Prod.snd).countP fun diagnostic => diagnostic.severity.isError

def batches (report : Report) : List Batch :=
  report.files.map fun (uri, diagnostics) => ⟨uri, diagnostics⟩

end Report

end TemplateCheck

import TemplateCheck.Engine.Basic
import TemplateCheck.Roots.Cache
import TemplateCheck.Text.Quoted
import TemplateCheck.Uri.Basic

/-! # Handles of package roots

A handle keeps what is compiled of one package: its registries, which one pass
at a time may use, and the tickets of the passes that want to. A ticket is
numbered; for every document only the newest ticket is current. Passes that wait
for the registries get them in the order in which they asked. -/

namespace TemplateCheck.Roots

/-- The number of a pass for a document. -/
structure Ticket where
  document : Uri
  generation : Nat
  deriving Repr, DecidableEq, Inhabited

/-- Tickets are the same for the same document and number, whatever handle they
came from. -/
def Ticket.same (left right : Ticket) : Bool :=
  left.document.same right.document && left.generation == right.generation

structure Handle (engine : Engine) where
  root : Path
  models : engine.Models
  logic : engine.Logic
  issued : Nat := 0
  /-- The newest ticket number of every document. -/
  latest : List (Uri × Nat) := []
  /-- The task that uses the registries. -/
  owner : Option Nat := none
  /-- The tasks that wait for them, first come first. -/
  waiting : List Nat := []

namespace Handle

variable {engine : Engine}

def fresh (engine : Engine) (root : Path) : Handle engine where
  root := root
  models := engine.newModels
  logic := engine.newLogic

def issue (handle : Handle engine) (document : Uri) : Handle engine × Ticket :=
  let generation := handle.issued + 1
  ({ handle with
      issued := generation
      latest := Ordered.put Uri.compare document generation handle.latest },
    ⟨document, generation⟩)

def isCurrent (handle : Handle engine) (ticket : Ticket) : Bool :=
  Ordered.find? Uri.compare ticket.document handle.latest == some ticket.generation

/-- Take the registries if they are free, else wait for them. -/
def acquire (handle : Handle engine) (task : Nat) : Handle engine × Bool :=
  match handle.owner with
  | none => ({ handle with owner := some task }, true)
  | some _ => ({ handle with waiting := handle.waiting ++ [task] }, false)

/-- Hand the registries to the first task that waits for them. -/
def release (handle : Handle engine) : Handle engine :=
  match handle.waiting with
  | [] => { handle with owner := none }
  | next :: rest => { handle with owner := some next, waiting := rest }

/-- How messages show a handle. -/
def description (handle : Handle engine) : String :=
  "RootHandle \x7b root: " ++ Text.quotePath handle.root.text ++ ", issued: " ++
    toString handle.issued ++ ", .. \x7d"

end Handle

/-- The cache together with all handles that were ever made, by number. -/
structure Store (engine : Engine) where
  cache : Cache
  handles : List (Handle engine) := []

namespace Store

variable {engine : Engine}

def empty (engine : Engine) (capacity : Nat) : Store engine where
  cache := { capacity }

def handle? (store : Store engine) (number : Nat) : Option (Handle engine) :=
  store.handles[number]?

def change (store : Store engine) (number : Nat) (edit : Handle engine → Handle engine) :
    Store engine :=
  { store with handles := store.handles.modify number edit }

/-- The handle of a root, made with new registries where there is none. The flag
says whether it was made. -/
def request (store : Store engine) (held : Nat → Bool) (root : Path) :
    Store engine × Nat × Bool :=
  let fresh := store.handles.length
  let (cache, number) := store.cache.request held fresh root
  if number = fresh then
    ({ cache, handles := store.handles ++ [.fresh engine root] }, number, true)
  else ({ store with cache }, number, false)

def evict (store : Store engine) (held : Nat → Bool) (root : Path) : Store engine × Bool :=
  let (cache, found) := store.cache.evict held root
  ({ store with cache }, found)

def evictUnder (store : Store engine) (held : Nat → Bool) (folder : Path) :
    Store engine × Nat :=
  let (cache, count) := store.cache.evictUnder held folder
  ({ store with cache }, count)

/-- Issue a ticket at a handle. -/
def issue (store : Store engine) (number : Nat) (document : Uri) :
    Store engine × Option Ticket :=
  match store.handle? number with
  | none => (store, none)
  | some handle =>
      let (changed, ticket) := handle.issue document
      (store.change number fun _ => changed, some ticket)

/-- Whether a ticket is the newest of its document at a handle. -/
def isCurrent (store : Store engine) (number : Nat) (ticket : Ticket) : Bool :=
  match store.handle? number with
  | some handle => handle.isCurrent ticket
  | none => false

end Store

end TemplateCheck.Roots

import TemplateCheck.Pool
import TemplateCheck.Session.Message
import TemplateCheck.Uri.Parser

/-! # Sessions

A session keeps the documents that an editor has open and the settings in force.
It answers every request, and every edit of a document asks for a check. Nothing
is checked before the session is initialized, but the documents are kept. -/

namespace TemplateCheck

structure Session where
  settings : Settings := {}
  /-- What checks documents, once the session is initialized. -/
  checker : Option Checker := none
  /-- The texts of the open documents, in the order of their URIs. -/
  documents : List (Uri × String) := []
  folders : List Uri := []
  isShuttingDown : Bool := false
  deriving Repr, Inhabited

namespace Session

/-- What a message brings about: an answer, a task to start, or the end. -/
structure Reaction where
  reply : Option Json := none
  jobs : List Job := []
  exits : Bool := false
  deriving Repr, Inhabited

def text? (session : Session) (uri : Uri) : Option String :=
  Ordered.find? Uri.compare uri session.documents

/-- The folders that an editor starts with. -/
def initialFolders (params : InitializeParams) : List Uri :=
  match params.workspaceFolders with
  | some folders => folders.filterMap Uri.parse
  | none => (params.rootUri.bind Uri.parse).toList

/-- Take over the settings and folders that an editor asks for. -/
def adopt (session : Session) (params : InitializeParams) (options : InitializationOptions) :
    Session :=
  { session with
    settings := { session.settings with
      layout := options.layout.getD session.settings.layout
      session := options.session.getD session.settings.session }
    folders := initialFolders params }

/-- Initialize a session. The settings are taken over before the layout turns out
to make source patterns or not. -/
def setUp (session : Session) (params : Option Json) :
    Session × Except Refusal Json :=
  if session.checker.isSome then
    (session, .error (invalidRequest "Server already initialized"))
  else
    match orDefault initializeRecord params with
    | .error fault =>
        (session, .error (invalidParams
          ("Invalid initialize params: " ++ fault.message Decode.dataFormat)))
    | .ok params =>
        match orDefault optionsRecord params.initializationOptions with
        | .error fault =>
            (session, .error (invalidParams
              ("Invalid initializationOptions: " ++ fault.message Decode.dataFormat)))
        | .ok options =>
            let session := session.adopt params options
            match Checker.ofLayout session.settings.layout with
            | .error fault => (session, .error (invalidParams fault.message))
            | .ok checker => ({ session with checker := some checker }, .ok capabilities)

def handleRequest (session : Session) (method : String) (params : Option Json) :
    Session × Except Refusal Json :=
  if session.isShuttingDown then
    (session, .error (invalidRequest ("Server is shutting down, rejecting " ++ method)))
  else if method = "initialize" then session.setUp params
  else if method = "shutdown" then ({ session with isShuttingDown := true }, .ok .null)
  else (session, .error (methodNotFound method))

/-- The documents to check after an edit: the edited one, or all that are open. -/
def toCheck (session : Session) (uri : Uri) : List Document :=
  if session.settings.session.revalidatesOpenDocuments then
    session.documents.map fun (uri, text) => ⟨uri, text⟩
  else
    match session.text? uri with
    | some text => [⟨uri, text⟩]
    | none => []

/-- Keep the text of a document and ask for a check. -/
def edit (session : Session) (uri : Uri) (text : String) : Session × List Job :=
  let session :=
    { session with documents := Ordered.put Uri.compare uri text session.documents }
  match session.checker with
  | none => (session, [])
  | some checker => (session, (session.toCheck uri).map (Job.validate checker))

def close (session : Session) (uri : Uri) : Session :=
  { session with documents := Ordered.erase Uri.compare uri session.documents }

/-- Change the folders of the workspace. What is compiled of packages in removed
folders is let go. -/
def changeFolders (session : Session) (change : FolderChange) : Session × List Job :=
  let removed := change.removed.filterMap Uri.parse
  let kept := session.folders.filter fun folder => !removed.any folder.same
  let session := { session with folders := kept ++ change.added.filterMap Uri.parse }
  if session.checker.isNone then (session, [])
  else (session, (removed.filterMap Uri.toPath?).map Job.evictUnder)

/-- The parameters of a notification, if they can be read. -/
def readParams {result : Type} (decoder : Decode.Decoder result) (params : Option Json) :
    Option result :=
  params.bind fun json => (decoder json).toOption

/-- An opened document, if its URI can be read. -/
def opened? (params : Option Json) : Option (Uri × String) := do
  let (uri, text) ← readParams openParams params
  return (← Uri.parse uri, text)

/-- A changed document with its last text. -/
def changed? (params : Option Json) : Option (Uri × String) := do
  let (uri, texts) ← readParams changeParams params
  return (← Uri.parse uri, ← texts.getLast?)

def closed? (params : Option Json) : Option Uri := do
  Uri.parse (← readParams closeParams params)

/-- The document that a notification opens or changes, with its new text. -/
def edited? (method : String) (params : Option Json) : Option (Uri × String) :=
  if method = "textDocument/didOpen" then opened? params
  else if method = "textDocument/didChange" then changed? params
  else none

def handleNotification (session : Session) (method : String) (params : Option Json) :
    Session × List Job :=
  match edited? method params with
  | some (uri, text) => session.edit uri text
  | none =>
      if method = "textDocument/didClose" then
        match closed? params with
        | some uri => (session.close uri, [])
        | none => (session, [])
      else if method = "workspace/didChangeWorkspaceFolders" then
        match readParams folderParams params with
        | some change => session.changeFolders change
        | none => (session, [])
      else (session, [])

/-- React to one message. -/
def handle (session : Session) (frame : Json) : Session × Reaction :=
  match Incoming.of? frame with
  | none => (session, {})
  | some .response => (session, {})
  | some (.request id method params) =>
      let (session, answer) := session.handleRequest method params
      (session, { reply := some (reply id answer) })
  | some (.notification method params) =>
      if method = "exit" then (session, { exits := true })
      else
        let (session, jobs) := session.handleNotification method params
        (session, { jobs })

end Session

end TemplateCheck

import TemplateCheck.Decode
import TemplateCheck.Report
import TemplateCheck.Settings

/-! # Messages

What an editor and the server say to each other: requests, which are answered,
notifications, which are not, and the parameters of those that matter. -/

namespace TemplateCheck.Session

/-- A message from the editor. -/
inductive Incoming where
  | request (id : Json) (method : String) (params : Option Json)
  | notification (method : String) (params : Option Json)
  | response
  deriving Repr, Inhabited

/-- A message with a method is a request if it has an identifier, of whatever
kind, and a notification otherwise. One without a method is a response if it has
an identifier and a result or an error. -/
def Incoming.of? (frame : Json) : Option Incoming :=
  let params := frame.get? "params"
  match frame.get? "id", (frame.get? "method").bind Json.text? with
  | some id, some method => some (.request id method params)
  | none, some method => some (.notification method params)
  | some _, none =>
      if (frame.get? "result").isSome || (frame.get? "error").isSome then some .response else none
  | none, none => none

/-- Why a request is refused. -/
structure Refusal where
  code : Int
  message : String
  deriving Repr, DecidableEq

def invalidRequest (message : String) : Refusal := ⟨-32600, message⟩
def methodNotFound (method : String) : Refusal := ⟨-32601, "Method not found: " ++ method⟩
def invalidParams (message : String) : Refusal := ⟨-32602, message⟩

/-- The answer to a request. -/
def reply (id : Json) (answer : Except Refusal Json) : Json :=
  match answer with
  | .ok result => .ofMembers [("jsonrpc", .str "2.0"), ("id", id), ("result", result)]
  | .error refusal =>
      .ofMembers [
        ("jsonrpc", .str "2.0"),
        ("id", id),
        ("error", .ofMembers [("code", .int refusal.code), ("message", .str refusal.message)])]

/-- The notification that publishes one file's diagnostics. -/
def publication (batch : Batch) : Json :=
  .ofMembers [
    ("jsonrpc", .str "2.0"),
    ("method", .str "textDocument/publishDiagnostics"),
    ("params", .ofMembers [
      ("uri", .str batch.uri.text),
      ("diagnostics", .arr (batch.diagnostics.map Diagnostic.toJson))])]

/-- What the server says about itself. -/
def capabilities : Json :=
  .ofMembers [
    ("capabilities", .ofMembers [
      ("textDocumentSync", .ofMembers [("openClose", .bool true), ("change", .int 1)])]),
    ("serverInfo", .ofMembers [("name", .str "stencil-lsp"), ("version", .str "0.0.0")])]

/-! Parameters. Members that are not known are passed over. -/

section Parameters

open Decode

/-- A record whose only field is read by a decoder. -/
def wrapped {content : Type} (name field : String) (decoder : Decoder content)
    (initial : content) : Record content where
  name
  strict := false
  fields := [{ name := field, required := true, read := fun json _ => decoder json }]
  initial

def folderUri : Decoder String := (wrapped "WorkspaceFolder" "uri" text "").decode dataFormat
def documentUri : Decoder String :=
  (wrapped "TextDocumentIdentifier" "uri" text "").decode dataFormat
def changedText : Decoder String := (wrapped "ContentChange" "text" text "").decode dataFormat

structure InitializeParams where
  rootUri : Option String := none
  workspaceFolders : Option (List String) := none
  initializationOptions : Option Json := none
  deriving Repr, Inhabited

def initializeRecord : Record InitializeParams where
  name := "InitializeParams"
  strict := false
  fields := [
    { name := "rootUri"
      required := false
      read := fun json params =>
        (optional text json).map fun rootUri => { params with rootUri } },
    { name := "workspaceFolders"
      required := false
      read := fun json params =>
        (optional (list folderUri) json).map fun workspaceFolders =>
          { params with workspaceFolders } },
    { name := "initializationOptions"
      required := false
      read := fun json params =>
        (optional any json).map fun initializationOptions =>
          { params with initializationOptions } }]
  initial := {}

/-- The settings that an editor may override as a whole. -/
structure InitializationOptions where
  layout : Option Package.Layout := none
  session : Option SessionSettings := none
  deriving Repr, Inhabited

def optionsRecord : Record InitializationOptions where
  name := "InitializationOptions"
  strict := false
  fields := [
    { name := "layout"
      required := false
      read := fun json options =>
        (optional (Package.Layout.decode dataFormat) json).map fun layout =>
          { options with layout } },
    { name := "session"
      required := false
      read := fun json options =>
        (optional (SessionSettings.decode dataFormat) json).map fun session =>
          { options with session } }]
  initial := {}

/-- Parameters that may be left out or null. -/
def orDefault {draft : Type} (record : Record draft) : Option Json → Except Fault draft
  | none => .ok record.initial
  | some .null => .ok record.initial
  | some json => record.decode dataFormat json

/-- An opened document: its URI and its text. -/
def openedRecord : Record (String × String) where
  name := "TextDocumentItem"
  strict := false
  fields := [
    { name := "uri"
      required := true
      read := fun json (_, content) => (text json).map fun uri => (uri, content) },
    { name := "text"
      required := true
      read := fun json (uri, _) => (text json).map fun content => (uri, content) }]
  initial := ("", "")

def openParams : Decoder (String × String) :=
  (wrapped "DidOpenParams" "textDocument" (openedRecord.decode dataFormat) ("", "")).decode
    dataFormat

/-- A changed document: its URI and the texts it was given. -/
def changeRecord : Record (String × List String) where
  name := "DidChangeParams"
  strict := false
  fields := [
    { name := "textDocument"
      required := true
      read := fun json (_, texts) => (documentUri json).map fun uri => (uri, texts) },
    { name := "contentChanges"
      required := true
      read := fun json (uri, _) => (list changedText json).map fun texts => (uri, texts) }]
  initial := ("", [])

def changeParams : Decoder (String × List String) :=
  changeRecord.decode dataFormat

def closeParams : Decoder String :=
  (wrapped "DidCloseParams" "textDocument" documentUri "").decode dataFormat

/-- The folders that were added to and removed from the workspace. -/
structure FolderChange where
  added : List String := []
  removed : List String := []
  deriving Repr, Inhabited

def folderRecord : Record FolderChange where
  name := "WorkspaceFoldersChange"
  strict := false
  fields := [
    { name := "added"
      required := false
      read := fun json change =>
        (list folderUri json).map fun added => { change with added } },
    { name := "removed"
      required := false
      read := fun json change =>
        (list folderUri json).map fun removed => { change with removed } }]
  initial := {}

def folderParams : Decoder FolderChange :=
  (wrapped "DidChangeWorkspaceFoldersParams" "event" (folderRecord.decode dataFormat) {}).decode
    dataFormat

end Parameters

end TemplateCheck.Session

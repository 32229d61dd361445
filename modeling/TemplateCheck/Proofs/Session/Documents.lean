import TemplateCheck.Proofs.History
import TemplateCheck.Proofs.Increasing
import TemplateCheck.Proofs.Server.Drain
import TemplateCheck.Proofs.Text.ByteOrder

/-! # Open documents and their checks

A session keeps the last text that each open document was given. An edit that comes after the
initialization starts one task, which checks the edited document or all that are open. What
cannot be read changes nothing, and before the initialization texts are only kept.
-/

namespace TemplateCheck

namespace Session

/-! ## What frames say about documents -/

/-- A notification with parameters. -/
structure Notifies (frame : Json) (method : String) (params : Json) : Prop where
  noId : frame.get? "id" = none
  isMethod : frame.get? "method" = some (.str method)
  given : frame.get? "params" = some params

/-- A document is opened with a text, or the last of its changes is that text. -/
inductive Edits (frame : Json) (uri : Uri) (text : String) : Prop where
  | opened {params : Json} {name : String}
      (notifies : Notifies frame "textDocument/didOpen" params)
      (read : openParams params = .ok (name, text)) (named : Uri.parse name = some uri)
  | changed {params : Json} {name : String} {texts : List String}
      (notifies : Notifies frame "textDocument/didChange" params)
      (read : changeParams params = .ok (name, texts)) (named : Uri.parse name = some uri)
      (last : texts.getLast? = some text)

inductive Closes (frame : Json) (uri : Uri) : Prop where
  | closed {params : Json} {name : String}
      (notifies : Notifies frame "textDocument/didClose" params)
      (read : closeParams params = .ok name) (named : Uri.parse name = some uri)

/-- The notifications that tell of documents, be it that they can be read or not. -/
def TellsOfDocument (frame : Json) : Prop :=
  frame.get? "id" = none ∧
    ∃ method ∈ ["textDocument/didOpen", "textDocument/didChange", "textDocument/didClose"],
      frame.get? "method" = some (.str method)

/-- The frame neither edits nor closes the document. -/
structure Spares (frame : Json) (uri : Uri) : Prop where
  unedited : ∀ own text, Edits frame own text → own.same uri = false
  unclosed : ∀ own, Closes frame own → own.same uri = false

/-- The text of the last edit of a document that was not closed since. -/
def LastText (frames : List Json) (uri : Uri) (text : String) : Prop :=
  Lasts (fun frame => ∃ own, Edits frame own text ∧ own.same uri = true)
    (fun frame => Spares frame uri) frames

theorem readParams_eq_some_iff {result : Type} {decoder : Decode.Decoder result}
    {params : Option Json} {value : result} :
    readParams decoder params = some value ↔
      ∃ json, params = some json ∧ decoder json = .ok value := by
  have ok : ∀ answer : Except Decode.Fault result,
      answer.toOption = some value ↔ answer = .ok value := by
    intro answer
    cases answer <;> simp [Except.toOption]
  simp only [readParams, Option.bind_eq_some_iff, ok]

section Notification

variable {frame : Json} (noId : frame.get? "id" = none)

include noId

theorem edited?_iff {method : String} (isMethod : frame.get? "method" = some (.str method))
    {uri : Uri} {text : String} :
    edited? method (frame.get? "params") = some (uri, text) ↔ Edits frame uri text := by
  constructor
  · intro edited
    unfold edited? at edited
    split at edited
    · next isOpen =>
        simp only [opened?, Option.bind_eq_bind, Option.bind_eq_some_iff, readParams_eq_some_iff,
          Option.pure_def, Option.some.injEq, Prod.mk.injEq, Prod.exists] at edited
        rcases edited with ⟨name, _, ⟨params, given, read⟩, _, named, rfl, rfl⟩
        exact .opened ⟨noId, isOpen ▸ isMethod, given⟩ read named
    · split at edited
      · next isChange =>
          simp only [changed?, Option.bind_eq_bind, Option.bind_eq_some_iff,
            readParams_eq_some_iff, Option.pure_def, Option.some.injEq, Prod.mk.injEq,
            Prod.exists] at edited
          rcases edited with ⟨name, texts, ⟨params, given, read⟩, _, named, _, last, rfl, rfl⟩
          exact .changed ⟨noId, isChange ▸ isMethod, given⟩ read named last
      · cases edited
  · intro edits
    cases edits with
    | opened notifies read named =>
        cases isMethod.symm.trans notifies.isMethod
        simp [edited?, opened?, readParams, notifies.given, read, named, Except.toOption]
    | changed notifies read named last =>
        cases isMethod.symm.trans notifies.isMethod
        simp [edited?, changed?, readParams, notifies.given, read, named, last, Except.toOption]

theorem closed?_iff (isMethod : frame.get? "method" = some (.str "textDocument/didClose"))
    {uri : Uri} : closed? (frame.get? "params") = some uri ↔ Closes frame uri := by
  simp only [closed?, Option.bind_eq_bind, Option.bind_eq_some_iff, readParams_eq_some_iff]
  constructor
  · rintro ⟨name, ⟨params, given, read⟩, named⟩
    exact .closed ⟨noId, isMethod, given⟩ read named
  · rintro ⟨notifies, read, named⟩
    exact ⟨_, ⟨_, notifies.given, read⟩, named⟩

end Notification

theorem Edits.method {frame : Json} {uri : Uri} {text : String} (edits : Edits frame uri text) :
    frame.get? "id" = none ∧
      ∃ method ∈ ["textDocument/didOpen", "textDocument/didChange"],
        frame.get? "method" = some (.str method) := by
  cases edits with
  | opened notifies read named =>
      exact ⟨notifies.noId, _, List.mem_cons_self, notifies.isMethod⟩
  | changed notifies read named last =>
      exact ⟨notifies.noId, _, List.mem_cons_of_mem _ List.mem_cons_self, notifies.isMethod⟩

theorem Edits.tells {frame : Json} {uri : Uri} {text : String} (edits : Edits frame uri text) :
    TellsOfDocument frame := by
  rcases edits.method with ⟨noId, method, member, isMethod⟩
  exact ⟨noId, method, List.mem_append_left _ member, isMethod⟩

theorem Closes.tells {frame : Json} {uri : Uri} (closes : Closes frame uri) :
    TellsOfDocument frame := by
  rcases closes with ⟨notifies, _, _⟩
  exact ⟨notifies.noId, _, by simp, notifies.isMethod⟩

theorem Edits.unique {frame : Json} {uri other : Uri} {text content : String}
    (edits : Edits frame uri text) (again : Edits frame other content) :
    uri = other ∧ text = content := by
  rcases edits.method with ⟨noId, method, _, isMethod⟩
  have same := ((edited?_iff noId isMethod).mpr edits).symm.trans
    ((edited?_iff noId isMethod).mpr again)
  simpa using same

theorem Closes.unedited {frame : Json} {uri : Uri} (closes : Closes frame uri) (other : Uri)
    (text : String) : ¬ Edits frame other text := by
  intro edits
  rcases closes with ⟨notifies, _, _⟩
  rcases edits.method with ⟨_, method, member, isMethod⟩
  cases isMethod.symm.trans notifies.isMethod
  exact absurd member (by decide)

theorem Closes.unique {frame : Json} {uri other : Uri} (closes : Closes frame uri)
    (again : Closes frame other) : uri = other := by
  rcases closes with ⟨notifies, read, named⟩
  have first := (closed?_iff notifies.noId notifies.isMethod).mpr (.closed notifies read named)
  have second := (closed?_iff notifies.noId notifies.isMethod).mpr again
  exact Option.some.inj (first.symm.trans second)

theorem Edits.makes_iff {frame : Json} {uri other : Uri} {text content : String}
    (edits : Edits frame uri text) :
    (∃ own, Edits frame own content ∧ own.same other = true) ↔
      text = content ∧ uri.same other = true := by
  constructor
  · rintro ⟨own, again, same⟩
    rcases edits.unique again with ⟨rfl, rfl⟩
    exact ⟨rfl, same⟩
  · rintro ⟨rfl, same⟩
    exact ⟨uri, edits, same⟩

theorem Edits.spares_iff {frame : Json} {uri : Uri} {text : String} (edits : Edits frame uri text)
    (other : Uri) : Spares frame other ↔ uri.same other = false := by
  constructor
  · intro spares
    exact spares.unedited uri text edits
  · intro different
    refine ⟨?_, ?_⟩
    · intro own content again
      exact (edits.unique again).1 ▸ different
    · intro own closes
      exact absurd edits (closes.unedited uri text)

theorem Closes.spares_iff {frame : Json} {uri : Uri} (closes : Closes frame uri) (other : Uri) :
    Spares frame other ↔ uri.same other = false := by
  constructor
  · intro spares
    exact spares.unclosed uri closes
  · intro different
    refine ⟨?_, ?_⟩
    · intro own text edits
      exact absurd edits (closes.unedited own text)
    · intro own again
      exact closes.unique again ▸ different

/-! ## One frame -/

/-- What a frame does to the documents of a session. -/
inductive Concerns : Exchange → Prop where
  | edited (session : Session) {frame : Json} {uri : Uri} {text : String}
      (edits : Edits frame uri text) :
      Concerns ⟨session, frame, { jobs := (session.edit uri text).2 }, (session.edit uri text).1⟩
  | closed (session : Session) {frame : Json} {uri : Uri} (closes : Closes frame uri) :
      Concerns ⟨session, frame, {}, session.close uri⟩
  | spared {exchange : Exchange} (unedited : ∀ uri text, ¬ Edits exchange.frame uri text)
      (unclosed : ∀ uri, ¬ Closes exchange.frame uri)
      (kept : exchange.after.documents = exchange.before.documents)
      (evicts : ∃ folders : List Path, exchange.reaction.jobs = folders.map .evictUnder)
      (unread : TellsOfDocument exchange.frame →
        exchange.after = exchange.before ∧ exchange.reaction.jobs = []) :
      Concerns exchange

theorem documents_handleRequest (session : Session) (method : String) (params : Option Json) :
    (session.handleRequest method params).1.documents = session.documents := by
  have equipped : ∀ session : Session, session.equip.1.documents = session.documents := by
    intro session
    unfold equip
    split
    · rfl
    · rfl
  unfold handleRequest
  split
  · rfl
  · split
    · rcases setUp_cases session params with ⟨refusal, refused⟩ | ⟨asked, options, _, tried⟩
      · rw [refused]
      · rw [tried, equipped]
        rfl
    · split
      · rfl
      · rfl

theorem changeFolders_spares (session : Session) (change : FolderChange) :
    (session.changeFolders change).1.documents = session.documents ∧
      ∃ folders : List Path, (session.changeFolders change).2 = folders.map .evictUnder := by
  unfold changeFolders
  dsimp only
  split
  · exact ⟨rfl, [], rfl⟩
  · exact ⟨rfl, _, rfl⟩

theorem concerns_of_untold {exchange : Exchange} (untold : ¬ TellsOfDocument exchange.frame)
    (kept : exchange.after.documents = exchange.before.documents)
    (evicts : ∃ folders : List Path, exchange.reaction.jobs = folders.map .evictUnder) :
    Concerns exchange :=
  .spared (fun _ _ edits => untold edits.tells) (fun _ closes => untold closes.tells) kept evicts
    fun tells => absurd tells untold

/-- A notification that cannot be read, or is not about documents. -/
theorem concerns_of_unread (session : Session) {frame : Json} {method : String}
    (noId : frame.get? "id" = none) (isMethod : frame.get? "method" = some (.str method))
    (unedited : edited? method (frame.get? "params") = none)
    (unclosed : method = "textDocument/didClose" → closed? (frame.get? "params") = none) :
    Concerns ⟨session, frame,
      { jobs := (session.handleNotification method (frame.get? "params")).2 },
      (session.handleNotification method (frame.get? "params")).1⟩ := by
  have noEdit : ∀ uri text, ¬ Edits frame uri text := by
    intro uri text edits
    rw [(edited?_iff noId isMethod).mpr edits] at unedited
    cases unedited
  have noClose : ∀ uri, ¬ Closes frame uri := by
    rintro uri ⟨notifies, read, named⟩
    cases isMethod.symm.trans notifies.isMethod
    have closes := (closed?_iff noId isMethod).mpr (.closed notifies read named)
    rw [unclosed rfl] at closes
    cases closes
  by_cases folders : method = "workspace/didChangeWorkspaceFolders"
  · subst folders
    have untold : ¬ TellsOfDocument frame := by
      rintro ⟨_, own, member, isOwn⟩
      cases isMethod.symm.trans isOwn
      exact absurd member (by decide)
    cases change : readParams folderParams (frame.get? "params") with
    | none =>
        simp only [handleNotification, unedited, change]
        exact concerns_of_untold untold rfl ⟨[], rfl⟩
    | some folders =>
        simp only [handleNotification, unedited, change]
        rcases changeFolders_spares session folders with ⟨kept, evicts⟩
        exact concerns_of_untold untold kept evicts
  · have handles : session.handleNotification method (frame.get? "params") = (session, []) := by
      by_cases close : method = "textDocument/didClose"
      · subst close
        simp [handleNotification, unedited, unclosed]
      · simp [handleNotification, unedited, close, folders]
    rw [handles]
    exact .spared noEdit noClose rfl ⟨[], rfl⟩ fun _ => ⟨rfl, rfl⟩

theorem concerns_exchange (session : Session) (frame : Json) :
    Concerns (session.exchange frame) := by
  have handled := handled_exchange session frame
  generalize session.exchange frame = exchange at handled
  cases handled with
  | request session frame id method isId isMethod =>
      refine concerns_of_untold ?_ (documents_handleRequest session method _) ⟨[], rfl⟩
      rintro ⟨noId, _⟩
      cases isId.symm.trans noId
  | notification session frame method noId isMethod stays =>
      cases edited : edited? method (frame.get? "params") with
      | some edit =>
          have handles : session.handleNotification method (frame.get? "params") =
              session.edit edit.1 edit.2 := by
            simp [handleNotification, edited]
          rw [handles]
          exact .edited session ((edited?_iff noId isMethod).mp edited)
      | none =>
          by_cases close : method = "textDocument/didClose"
          · subst close
            cases closed : closed? (frame.get? "params") with
            | some uri =>
                simp only [handleNotification, edited, closed]
                exact .closed session ((closed?_iff noId isMethod).mp closed)
            | none => exact concerns_of_unread session noId isMethod edited fun _ => closed
          · exact concerns_of_unread session noId isMethod edited fun isClose => absurd isClose close
  | exit session frame noId isMethod =>
      refine concerns_of_untold ?_ rfl ⟨[], rfl⟩
      rintro ⟨_, own, member, isOwn⟩
      cases isMethod.symm.trans isOwn
      exact absurd member (by decide)
  | ignored session frame noMethod =>
      refine concerns_of_untold ?_ rfl ⟨[], rfl⟩
      rintro ⟨_, own, _, isOwn⟩
      exact noMethod own isOwn

namespace Concerns

variable {exchange : Exchange} (concerns : Concerns exchange)

include concerns

theorem edit_of_edits {uri : Uri} {text : String} (edits : Edits exchange.frame uri text) :
    exchange.after = (exchange.before.edit uri text).1 ∧
      exchange.reaction.jobs = (exchange.before.edit uri text).2 := by
  cases concerns with
  | edited session again =>
      rcases edits.unique again with ⟨rfl, rfl⟩
      exact ⟨rfl, rfl⟩
  | closed session closes => exact absurd edits (closes.unedited uri text)
  | spared unedited unclosed kept evicts unread => exact absurd edits (unedited uri text)

theorem evicts_of_unedited (unedited : ∀ uri text, ¬ Edits exchange.frame uri text) :
    ∃ folders : List Path, exchange.reaction.jobs = folders.map .evictUnder := by
  cases concerns with
  | edited session edits => exact absurd edits (unedited _ _)
  | closed session closes => exact ⟨[], rfl⟩
  | spared unedited unclosed kept evicts unread => exact evicts

theorem steady_of_unread (tells : TellsOfDocument exchange.frame)
    (unedited : ∀ uri text, ¬ Edits exchange.frame uri text)
    (unclosed : ∀ uri, ¬ Closes exchange.frame uri) :
    exchange.after = exchange.before ∧ exchange.reaction.jobs = [] := by
  cases concerns with
  | edited session edits => exact absurd edits (unedited _ _)
  | closed session closes => exact absurd closes (unclosed _)
  | spared unedited unclosed kept evicts unread => exact unread tells

end Concerns

/-! ## All frames -/

/-- The documents of a session are those that the frames have left open, with their last texts,
in the order of the bytes of their URIs. -/
structure Stores (frames : List Json) (session : Session) : Prop where
  stored : ∀ uri text, session.text? uri = some text ↔ LastText frames uri text
  ascending : Ordered.IncreasingKeys Uri.compare session.documents

theorem documents_edit (session : Session) (uri : Uri) (text : String) :
    (session.edit uri text).1.documents = Ordered.put Uri.compare uri text session.documents := by
  unfold edit
  dsimp only
  split
  · rfl
  · rfl

theorem Stores.edited {frames : List Json} {session : Session} (stores : Stores frames session)
    {frame : Json} {uri : Uri} {text : String} (edits : Edits frame uri text) :
    Stores (frames ++ [frame]) (session.edit uri text).1 where
  stored := by
    intro other content
    rw [text?, documents_edit, Uri.find?_put, LastText, lasts_append, ← LastText, ← stores.stored,
      edits.makes_iff, edits.spares_iff, text?, Uri.same_comm]
    cases same : uri.same other <;> simp
  ascending := by
    rw [documents_edit]
    exact stores.ascending.put uri text

theorem Stores.closed {frames : List Json} {session : Session} (stores : Stores frames session)
    {frame : Json} {uri : Uri} (closes : Closes frame uri) :
    Stores (frames ++ [frame]) (session.close uri) where
  stored := by
    intro other content
    have noEdit := closes.unedited
    rw [text?, close, stores.ascending.find?_erase, LastText, lasts_append, ← LastText,
      ← stores.stored, closes.spares_iff, text?]
    simp only [Uri.compare_eq_iff, Uri.same_comm other]
    cases same : uri.same other <;> simp [noEdit]
  ascending := stores.ascending.erase uri

theorem Stores.spared {frames : List Json} {session next : Session} (stores : Stores frames session)
    {frame : Json} (unedited : ∀ uri text, ¬ Edits frame uri text)
    (unclosed : ∀ uri, ¬ Closes frame uri) (kept : next.documents = session.documents) :
    Stores (frames ++ [frame]) next where
  stored := by
    intro uri text
    have spares : Spares frame uri :=
      ⟨fun own text edits => absurd edits (unedited own text),
        fun own closes => absurd closes (unclosed own)⟩
    rw [text?, kept, ← text?, LastText, lasts_append, ← LastText, ← stores.stored]
    simp [unedited, spares]
  ascending := kept ▸ stores.ascending

theorem Stores.handled {frames : List Json} {session : Session} (stores : Stores frames session)
    (frame : Json) : Stores (frames ++ [frame]) (session.exchange frame).after := by
  have concerns := concerns_exchange session frame
  have isFrame : (session.exchange frame).frame = frame := rfl
  have isBefore : (session.exchange frame).before = session := rfl
  generalize session.exchange frame = exchange at concerns isFrame isBefore
  subst isFrame isBefore
  cases concerns with
  | edited session edits => exact stores.edited edits
  | closed session closes => exact stores.closed closes
  | spared unedited unclosed kept evicts unread => exact stores.spared unedited unclosed kept

/-! ## Initialization -/

theorem checker_handleNotification (session : Session) (method : String) (params : Option Json) :
    (session.handleNotification method params).1.checker = session.checker := by
  unfold handleNotification
  split
  · unfold edit
    dsimp only
    split
    · rfl
    · rfl
  · split
    · split
      · rfl
      · rfl
    · split
      · split
        · unfold changeFolders
          dsimp only
          split
          · rfl
          · rfl
        · rfl
      · rfl

theorem granted_of_setUp {session : Session} {params : Option Json}
    (equipped : (session.setUp params).1.checker.isSome = true) :
    session.checker.isSome = true ∨ ∃ result, (session.setUp params).2 = .ok result := by
  rcases setUp_cases session params with ⟨refusal, refused⟩ | ⟨asked, options, fresh, tried⟩
  · rw [refused] at equipped
    exact Or.inl equipped
  · rw [tried] at equipped ⊢
    unfold equip at equipped ⊢
    cases made : Checker.ofLayout (session.adopt asked options).settings.layout with
    | error fault =>
        simp only [made] at equipped
        exact Or.inl equipped
    | ok checker => exact Or.inr ⟨capabilities, rfl⟩

/-- A session is initialized by a request to that end, and by nothing else. -/
theorem Handled.initialized_iff {exchange : Exchange} (handled : Handled exchange) :
    exchange.after.checker.isSome = true ↔
      exchange.before.checker.isSome = true ∨ exchange.Grants "initialize" := by
  constructor
  · intro initialized
    cases handled with
    | request session frame id method isId isMethod =>
        by_cases isInitialize : method = "initialize" ∧ session.isShuttingDown = false
        · rcases isInitialize with ⟨rfl, running⟩
          rw [handleRequest_of_running running] at initialized ⊢
          rcases granted_of_setUp initialized with before | ⟨result, granted⟩
          · exact Or.inl before
          · refine Or.inr ⟨isMethod, ?_⟩
            simp [Exchange.result?, result_reply, granted, Except.toOption]
        · have kept : (session.handleRequest method (frame.get? "params")).1.checker =
              session.checker := by
            unfold handleRequest
            split
            · rfl
            · next running =>
                rw [if_neg fun isMethod => isInitialize ⟨isMethod, by simpa using running⟩]
                split
                · rfl
                · rfl
          exact Or.inl (kept ▸ initialized)
    | notification session frame method noId isMethod stays =>
        exact Or.inl (checker_handleNotification session method _ ▸ initialized)
    | exit session frame noId isMethod => exact Or.inl initialized
    | ignored session frame noMethod => exact Or.inl initialized
  · rintro (before | grants)
    · exact handled.later.initialized before
    · exact (handled.initializes grants).2

theorem initialized_reached (session : Session) (frames : List Json) :
    (session.reached frames).checker.isSome = true ↔ session.checker.isSome = true ∨
      ∃ exchange ∈ session.converse frames, exchange.Grants "initialize" := by
  induction frames generalizing session with
  | nil => simp [reached, converse]
  | cons frame frames induction =>
      have first := (handled_exchange session frame).initialized_iff
      have before : (session.exchange frame).before = session := rfl
      rw [before] at first
      rw [reached_cons, converse_cons]
      cases leaves : isExit frame with
      | true => simpa using first
      | false => simp [induction, first, or_assoc]

/-! ## Checks -/

/-- The documents to check after an edit: the edited one with its new text or, if the settings
say so, all that are open with their texts, in the order of the bytes of their URIs. -/
structure Asks (session : Session) (uri : Uri) (text : String) (documents : List Document) :
    Prop where
  alone : session.settings.session.revalidatesOpenDocuments = false → documents = [⟨uri, text⟩]
  all : session.settings.session.revalidatesOpenDocuments = true → ∀ other content,
    session.text? other = some content ↔
      ∃ document ∈ documents, document.uri.same other = true ∧ document.text = content
  ascending : documents.Pairwise fun left right =>
    Text.Utf8.encode left.uri.text < Text.Utf8.encode right.uri.text

theorem text?_edit (session : Session) (uri : Uri) (text : String) :
    (session.edit uri text).1.text? uri = some text := by
  rw [text?, documents_edit, Uri.find?_put, if_pos (Uri.same_refl uri)]

theorem asks_toCheck {session : Session} {uri : Uri} {text : String}
    (ascending : Ordered.IncreasingKeys Uri.compare session.documents)
    (edited : session.text? uri = some text) : Asks session uri text (session.toCheck uri) := by
  unfold toCheck
  split
  · next revalidates =>
      refine ⟨fun alone => absurd revalidates (by simp [alone]), fun _ other content => ?_, ?_⟩
      · rw [text?, ascending.find?_eq_some_iff]
        simp [Uri.compare_eq_iff, Uri.same_comm other]
      · rw [List.pairwise_map]
        exact ascending.imp Uri.compare_eq_lt_iff.mp
  · next alone =>
      rw [edited]
      exact ⟨fun _ => rfl, fun all => absurd all alone, List.pairwise_singleton _ _⟩

theorem Asks.ne_nil {session : Session} {uri : Uri} {text : String} {documents : List Document}
    (asks : Asks session uri text documents) (edited : session.text? uri = some text) :
    documents ≠ [] := by
  cases revalidates : session.settings.session.revalidatesOpenDocuments with
  | false => simp [asks.alone revalidates]
  | true =>
      rcases (asks.all revalidates uri text).mp edited with ⟨document, member, _⟩
      exact List.ne_nil_of_mem member

theorem jobs_edit (session : Session) (uri : Uri) (text : String) :
    (session.edit uri text).2 = match session.checker with
      | none => []
      | some checker => ((session.edit uri text).1.toCheck uri).map (.validate checker) := by
  unfold edit
  cases session.checker <;> rfl

end Session

namespace Server

open Session (Asks Closes Edits LastText Stores TellsOfDocument)

variable {engine : Engine}

theorem stores_follow (engine : Engine) (files : FileSystem) (settings : Settings)
    (moves : List Move) :
    Stores (((start engine files settings).events moves).filterMap Event.heard?)
      ((start engine files settings).follow moves).session := by
  refine follow_induction (fun events server =>
    Stores (events.filterMap Event.heard?) server.session) ?_ ?_ moves
  · exact ⟨fun uri text => by simp [start, Session.text?, Ordered.find?, LastText, not_lasts_nil],
      .nil⟩
  · intro events server move stores
    have act := act_after server move
    generalize server.eventsOf move = more, server.after move = next at act
    have unheard : more.filterMap Event.heard? = [] → next.session = server.session →
        Stores ((events ++ more).filterMap Event.heard?) next.session := by
      intro none kept
      rw [List.filterMap_append, none, List.append_nil, kept]
      exact stores
    cases act with
    | hears active =>
        rw [List.filterMap_append, Event.heard?_answered, session_react]
        exact stores.handled _
    | rests => exact unheard rfl rfl
    | releases => exact unheard rfl rfl
    | ceases active => exact unheard rfl rfl
    | steps free => exact unheard (Event.filterMap_delivered (fun _ => rfl) _) rfl
    | publishes first => exact unheard rfl rfl
    | finishes draining allDone => exact unheard rfl rfl
    | writes working queue => exact unheard rfl rfl
    | stops working queue => exact unheard rfl rfl

/-- What a server makes of a frame that it reads. -/
structure Schedules (server : Server engine) (frame : Json) (next : Server engine) : Prop where
  /-- An edit starts one task. -/
  checked : ∀ uri text checker, Edits frame uri text → server.session.checker = some checker →
    ∃ documents, Asks next.session uri text documents ∧
      next.pool = server.pool.spawn (documents.map (.validate checker))
  early : ∀ uri text, Edits frame uri text → server.session.checker = none →
    next.pool = server.pool
  unread : TellsOfDocument frame → (∀ uri text, ¬ Edits frame uri text) →
    (∀ uri, ¬ Closes frame uri) → next.session = server.session ∧ next.pool = server.pool
  /-- Nothing but an edit starts a check. -/
  others : (∀ uri text, ¬ Edits frame uri text) → next.pool = server.pool ∨
    ∃ folders : List Path, next.pool = server.pool.spawn (folders.map .evictUnder)

theorem reacts_of_news {server : Server engine} {frame : Json}
    (heard : server.news .read = [.heard frame]) :
    ∃ source, server.after .read = { server with source }.react frame := by
  cases readable : server.canRead with
  | false => simp [news, readable] at heard
  | true =>
      have active : server.reading = .active := by
        simp only [canRead, Bool.and_eq_true, beq_iff_eq] at readable
        exact readable.1
      refine ⟨(Frame.read server.source).2, ?_⟩
      cases found : (Frame.read server.source).1 with
      | frame json =>
          have isFrame : json = frame := by simpa [news, readable, found] using heard
          simp [after, readable, readFrame, active, found, isFrame]
      | ended => simp [news, readable, found] at heard
      | fault cause => simp [news, readable, found] at heard

theorem schedules_react (server : Server engine) (source : Frame.Source) (frame : Json)
    (ascending : Ordered.IncreasingKeys Uri.compare server.session.documents) :
    Schedules server frame ({ server with source }.react frame) := by
  have concerns := Session.concerns_exchange server.session frame
  constructor
  case checked =>
    intro uri text checker edits initialized
    rcases concerns.edit_of_edits edits with ⟨after, jobs⟩
    have edited := Session.text?_edit server.session uri text
    have asks : Asks (server.session.edit uri text).1 uri text _ :=
      Session.asks_toCheck (by rw [Session.documents_edit]; exact ascending.put uri text) edited
    have listed := asks.ne_nil edited
    refine ⟨(server.session.edit uri text).1.toCheck uri, ?_, ?_⟩
    · rw [session_react, after]
      exact asks
    · rw [pool_react, jobs, Session.jobs_edit]
      simp [Session.exchange, initialized, listed]
  case early =>
    intro uri text edits fresh
    rcases concerns.edit_of_edits edits with ⟨_, jobs⟩
    rw [pool_react, jobs, Session.jobs_edit]
    simp [Session.exchange, fresh]
  case unread =>
    intro tells unedited unclosed
    rcases concerns.steady_of_unread tells unedited unclosed with ⟨after, jobs⟩
    rw [session_react, pool_react, jobs]
    exact ⟨after, rfl⟩
  case others =>
    intro unedited
    rcases concerns.evicts_of_unedited unedited with ⟨folders, jobs⟩
    rw [pool_react, jobs]
    dsimp only
    split
    · exact Or.inl rfl
    · exact Or.inr ⟨folders, rfl⟩

/-- The documents and the tasks of a server that has heard frames. -/
structure Attends (start : Session) (heard : List Json) (server : Server engine) : Prop where
  stored : ∀ uri text, server.session.text? uri = some text ↔ LastText heard uri text
  initialized : server.session.checker.isSome = true ↔
    ∃ exchange ∈ start.converse heard, exchange.Grants "initialize"
  schedules : ∀ frame, server.news .read = [.heard frame] →
    Schedules server frame (server.after .read)

/-- However its parts take turns, a server keeps the last texts of the open documents, and every
edit after the initialization starts one task that checks what is to be checked. -/
theorem attends_follow (engine : Engine) (files : FileSystem) (settings : Settings)
    (moves : List Move) :
    Attends { settings } (((start engine files settings).events moves).filterMap Event.heard?)
      ((start engine files settings).follow moves) := by
  have stores := stores_follow engine files settings moves
  have session := (account_follow engine files settings moves).spoken.session
  refine ⟨stores.stored, ?_, ?_⟩
  · rw [session, Session.initialized_reached]
    simp
  · intro frame heard
    rcases reacts_of_news heard with ⟨source, next⟩
    rw [next]
    exact schedules_react _ source frame stores.ascending

/-! Two documents are opened after the initialization, and the settings ask for checks of all
that are open. -/

namespace TwoDocuments

def opens (name text : String) : Json :=
  .obj [("method", .str "textDocument/didOpen"), ("params", .obj [("textDocument",
    .obj [("text", .str text), ("uri", .str name)])])]

def frames : List Json :=
  [.obj [("id", .int 1), ("method", .str "initialize")], opens "file:///b.cto" "second",
    opens "file:///a.cto" "first"]

def moves : List Move := [.receive (frames.map Frame.write), .read, .read]

def settings : Settings := { session := { revalidatesOpenDocuments := true } }

def server : Server .lenient := (start .lenient ⟨[], []⟩ settings).follow moves

def document : Document := ⟨⟨"file", some ⟨"", "", none⟩, "/a.cto", none, none⟩, "first"⟩

def last : Json :=
  match (Frame.read server.source).1 with
  | .frame json => json
  | _ => .null

/-- What there is to compute of the run. -/
theorem computed :
    server.canRead = true ∧ ((Frame.read server.source).1 matches .frame _) = true ∧
      ((last.get? "id").isNone = true ∧
        (last.get? "method").bind Json.text? = some "textDocument/didOpen" ∧
        Session.edited? "textDocument/didOpen" (last.get? "params") =
          some (document.uri, document.text)) ∧
      server.session.checker.isSome = true ∧
      (server.after .read).pool.tasks.map (·.jobs.length) = [1, 2] := by
  decide +kernel

theorem news_last : server.news .read = [.heard last] := by
  rcases computed with ⟨readable, isFrame, _⟩
  unfold news last
  rw [readable]
  cases found : (Frame.read server.source).1 with
  | frame json => rfl
  | ended => simp [found] at isFrame
  | fault cause => simp [found] at isFrame

theorem edits_last : Edits last document.uri document.text := by
  rcases computed with ⟨_, _, ⟨noId, isMethod, edited⟩, _⟩
  rcases Option.bind_eq_some_iff.mp isMethod with ⟨json, found, isText⟩
  rw [Session.text?_eq_some_iff.mp isText] at found
  exact (Session.edited?_iff (Option.isNone_iff_eq_none.mp noId) found).mp edited

theorem attends_twoDocuments :
    server.news .read = [.heard last] ∧ Edits last document.uri document.text ∧
      (∃ checker documents, server.session.checker = some checker ∧
        Asks (server.after .read).session document.uri document.text documents ∧
          (server.after .read).pool = server.pool.spawn (documents.map (.validate checker))) ∧
      (server.after .read).pool.tasks.map (·.jobs.length) = [1, 2] := by
  rcases computed with ⟨_, _, _, initialized, tasks⟩
  rcases Option.isSome_iff_exists.mp initialized with ⟨checker, isChecker⟩
  have attends : Attends { settings } _ server := attends_follow .lenient ⟨[], []⟩ settings moves
  have schedules := attends.schedules last news_last
  rcases schedules.checked _ _ checker edits_last isChecker with ⟨documents, asks, pool⟩
  exact ⟨news_last, edits_last, ⟨checker, documents, isChecker, asks, pool⟩, tasks⟩

end TwoDocuments

end Server

end TemplateCheck

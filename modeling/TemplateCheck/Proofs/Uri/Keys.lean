import TemplateCheck.Proofs.Pool.Reports
import TemplateCheck.Proofs.Report.Calls
import TemplateCheck.Proofs.Uri.Text

/-! # One key per file

A report has one entry per URI. Within a pass the edited document keeps the URI that the editor
gave it, however that is spelled, and any other file gets the URI of its path. The editor's
spelling cannot be the URI of another path, because a URI leads to one path only. So paths and
keys correspond: what is marked valid and what is shown at a file is filed under one key, and no
two files share theirs.
-/

namespace TemplateCheck

namespace Pass

variable {engine : Engine} {files : FileSystem} {context : Context}

theorem Course.mem_filesOf {stage : Stage} {work result : Work engine} {tried : List Path}
    {answer : Answer} (course : Course files context stage work tried answer result) {path : Path}
    (member : path ∈ tried) : path ∈ filesOf files context stage := by
  cases course with
  | stopped enumerated =>
      rw [enumerated]
      rcases List.mem_append.mp member with before | last
      · exact List.mem_append_left _ before
      · exact List.mem_append_right _ (List.mem_singleton.mp last ▸ List.mem_cons_self)
  | answered => exact member

theorem Journey.mem_filesOf {stages : List Stage} {work last : Work engine}
    {looked : List (Stage × List Path)} {ended : Option (Stage × Setback)}
    (journey : Journey files context stages work looked ended last) {entry : Stage × List Path}
    (reached : entry ∈ looked) {path : Path} (member : path ∈ entry.2) :
    path ∈ filesOf files context entry.1 := by
  induction journey with
  | done work => cases reached
  | passed course ran later induction =>
      rcases List.mem_cons.mp reached with rfl | further
      · exact course.mem_filesOf member
      · exact induction further
  | ended course =>
      cases List.mem_singleton.mp reached
      exact course.mem_filesOf member

end Pass

namespace Subject

variable {subject : Subject}

/-- Where a file lies that a failure names: a relative path is taken from the root. -/
def full (subject : Subject) (path : Path) : Path :=
  match subject.root with
  | some root => if path.isAbsolute then path else root.join path
  | none => path

theorem place_eq {failure : Failure} {logicExtension : String} {path : Path}
    (named : failure.namedFile? logicExtension = some path) :
    failure.place logicExtension subject =
      (subject.uriFor? (subject.full path)).getD subject.uri := by
  simp only [Failure.place, named]
  rfl

theorem isAbsolute_full {root : Path} (isRoot : subject.root = some root)
    (absolute : root.isAbsolute = true) (path : Path) : (subject.full path).isAbsolute = true := by
  simp only [full, isRoot]
  split
  · next isAbsolute => exact isAbsolute
  · exact Path.isAbsolute_join absolute path

theorem uriFor?_own {path : Path} (same : path.same subject.path = true) :
    subject.uriFor? path = some subject.uri :=
  if_pos same

theorem isSome_uriFor? (subject : Subject) {path : Path} (absolute : path.isAbsolute = true) :
    ∃ uri, subject.uriFor? path = some uri := by
  unfold uriFor?
  split
  · exact ⟨_, rfl⟩
  · exact Option.isSome_iff_exists.mp (Uri.isSome_ofPath? absolute)

/-- The document's URI is not that of another path. -/
theorem same_ofPath?_own (given : subject.uri.Given)
    (isFile : subject.uri.toPath? = some subject.path) {path : Path} {uri : Uri}
    (named : Uri.ofPath? path = some uri) (same : subject.uri.same uri = true) :
    path.same subject.path = true := by
  cases Uri.eq_of_text given.formed isFile named (Uri.same_iff.mp same)
  rcases Uri.toPath?_ofPath? named with ⟨again, isAgain, sameAgain⟩
  cases isFile.symm.trans isAgain
  exact Path.same_symm sameAgain

/-- Two paths have the same key just when they are the same path. -/
theorem uriFor?_same (given : subject.uri.Given)
    (isFile : subject.uri.toPath? = some subject.path) {left right : Path} {leftUri rightUri : Uri}
    (leftKey : subject.uriFor? left = some leftUri)
    (rightKey : subject.uriFor? right = some rightUri) :
    leftUri.same rightUri = left.same right := by
  by_cases leftOwn : left.same subject.path = true
  · by_cases rightOwn : right.same subject.path = true
    · cases (uriFor?_own leftOwn).symm.trans leftKey
      cases (uriFor?_own rightOwn).symm.trans rightKey
      rw [Uri.same_refl, Path.same_trans leftOwn (Path.same_symm rightOwn)]
    · cases (uriFor?_own leftOwn).symm.trans leftKey
      rw [uriFor?, if_neg rightOwn] at rightKey
      have apart : left.same right ≠ true := by
        intro same
        exact rightOwn (Path.same_trans (Path.same_symm same) leftOwn)
      rw [Bool.eq_false_iff.mpr apart, Bool.eq_false_iff]
      intro same
      exact rightOwn (same_ofPath?_own given isFile rightKey same)
  · rw [uriFor?, if_neg leftOwn] at leftKey
    by_cases rightOwn : right.same subject.path = true
    · cases (uriFor?_own rightOwn).symm.trans rightKey
      have apart : left.same right ≠ true := by
        intro same
        exact leftOwn (Path.same_trans same rightOwn)
      rw [Bool.eq_false_iff.mpr apart, Bool.eq_false_iff]
      intro same
      exact leftOwn (same_ofPath?_own given isFile leftKey (Uri.same_symm same))
    · rw [uriFor?, if_neg rightOwn] at rightKey
      exact Uri.same_ofPath? leftKey rightKey

/-- A failure is filed under the key of a file. -/
theorem place_key (subject : Subject) {root : Path} (isFile : subject.uri.toPath? = some subject.path)
    (isRoot : subject.root = some root) (absolute : root.isAbsolute = true) (failure : Failure)
    (logicExtension : String) :
    ∃ path, path.isAbsolute = true ∧
      subject.uriFor? path = some (failure.place logicExtension subject) := by
  cases named : failure.namedFile? logicExtension with
  | none =>
      have own : failure.place logicExtension subject = subject.uri := by
        simp only [Failure.place, named]
      rw [own]
      exact ⟨_, Uri.isAbsolute_toPath? isFile, uriFor?_own (Path.same_refl _)⟩
  | some path =>
      have fullAbsolute := isAbsolute_full isRoot absolute path
      rcases isSome_uriFor? subject fullAbsolute with ⟨uri, key⟩
      refine ⟨_, fullAbsolute, ?_⟩
      rw [place_eq named, key]
      rfl

end Subject

namespace Pass

variable {engine : Engine} {files : FileSystem} {checker : Checker} {document : Document}

/-- Whatever a pass reports on, it reports under the key of a file. -/
theorem Reports.key {path : Path} {registries : Registries engine} {completed : Completed}
    (isFile : document.uri.toPath? = some path)
    (reports : Reports files checker document path registries completed) (root : Option Path)
    {uri : Uri} (listed : (completed.report.get? uri).isSome = true) :
    ∃ reported own, reported.isAbsolute = true ∧
      (Subject.mk document.uri path root).uriFor? reported = some own ∧
        uri.same own = true := by
  have absolute := Uri.isAbsolute_toPath? isFile
  cases reports with
  | outside rootless =>
      refine ⟨path, document.uri, absolute, if_pos (Path.same_refl path), ?_⟩
      apply Uri.compare_eq_iff.mp
      simpa [outsideFinding, Report.get?, Ordered.isSome_find?] using listed
  | inside found journey finds =>
      have sited : Context.Sited files ⟨checker, document, path, _⟩ := ⟨isFile, found⟩
      rcases (finds.keys uri).mp listed with
        ⟨entry, reached, reported, member, own, key, same⟩ | ⟨stage, failure, -, same⟩
      · exact ⟨reported, own,
          sited.isAbsolute_of_mem_filesOf (journey.mem_filesOf reached member), key, same⟩
      · rcases Subject.place_key (Context.subject ⟨checker, document, path, _⟩) isFile
          rfl sited.isAbsolute_root failure checker.layout.logicExtension with
          ⟨reported, reportedAbsolute, key⟩
        exact ⟨reported, _, reportedAbsolute, key, same⟩

end Pass

namespace Subject

/-- Within a pass, paths and the keys of its report correspond. -/
structure Keyed (subject : Subject) : Prop where
  back : ∀ path : Path, path.isAbsolute = true →
    ∃ uri again, Uri.ofPath? path = some uri ∧ uri.toPath? = some again ∧
      again.same path = true
  key : ∀ left right : Path, left.isAbsolute = true → right.isAbsolute = true →
    ∃ leftUri rightUri, subject.uriFor? left = some leftUri ∧
      subject.uriFor? right = some rightUri ∧ leftUri.same rightUri = left.same right
  own : ∀ path : Path, path.same subject.path = true → subject.uriFor? path = some subject.uri
  /-- A call on the entry of one file changes the entry of that file only. -/
  filed : ∀ (report : Report) (call : Report.Call) (path other : Path) (uri : Uri),
    subject.uriFor? path = some call.uri → subject.uriFor? other = some uri →
    (call.apply report).get? uri =
      if other.same path = true then some (call.update (report.get? uri)) else report.get? uri
  /-- A failure that names a file is shown at the key of that file. -/
  placed : ∀ (failure : Failure) (logicExtension : String) (path : Path),
    failure.namedFile? logicExtension = some path → (subject.full path).isAbsolute = true →
    subject.uriFor? (subject.full path) = some (failure.place logicExtension subject)
  /-- Every entry of a pass's report stands for one file, and has all that is said of it. -/
  reported : ∀ (engine : Engine) (files : FileSystem) (checker : Checker) (document : Document)
      (registries : Pass.Registries engine) (completed : Completed),
    document.uri = subject.uri →
    (Pass.validate files checker document registries).outcome = .completed completed →
    ∀ uri, (completed.report.get? uri).isSome = true →
    ∃ path : Path, path.isAbsolute = true ∧
      ∀ (other : Path) (own : Uri), subject.uriFor? other = some own →
        uri.same own = path.same other

theorem keyed (subject : Subject) (given : subject.uri.Given)
    (isFile : subject.uri.toPath? = some subject.path) : subject.Keyed where
  back := by
    intro path absolute
    rcases Option.isSome_iff_exists.mp (Uri.isSome_ofPath? absolute) with ⟨uri, named⟩
    rcases Uri.toPath?_ofPath? named with ⟨again, isAgain, same⟩
    exact ⟨uri, again, named, isAgain, same⟩
  key := by
    intro left right leftAbsolute rightAbsolute
    rcases isSome_uriFor? subject leftAbsolute with ⟨leftUri, leftKey⟩
    rcases isSome_uriFor? subject rightAbsolute with ⟨rightUri, rightKey⟩
    exact ⟨leftUri, rightUri, leftKey, rightKey, uriFor?_same given isFile leftKey rightKey⟩
  own := fun path same => uriFor?_own same
  filed := by
    intro report call path other uri isCall isOther
    have sameKey := uriFor?_same given isFile isOther isCall
    rw [Report.get?_apply, sameKey]
    by_cases same : other.same path = true
    · rw [if_pos same, if_pos same, Report.get?_congr report (sameKey.trans same)]
    · rw [if_neg same, if_neg same]
  placed := by
    intro failure logicExtension path named absolute
    rcases isSome_uriFor? subject absolute with ⟨uri, key⟩
    rw [place_eq named, key]
    rfl
  reported := by
    intro engine files checker document registries completed isDocument ended uri listed
    have isDocumentFile : document.uri.toPath? = some subject.path := isDocument ▸ isFile
    have reports := Pass.reports_validate isDocumentFile ended
    rcases reports.key isDocumentFile subject.root listed with
      ⟨path, own, absolute, key, same⟩
    rw [isDocument] at key
    refine ⟨path, absolute, ?_⟩
    intro other otherUri otherKey
    rw [← uriFor?_same given isFile key otherKey, Bool.eq_iff_iff]
    exact ⟨fun first => Uri.same_trans (Uri.same_symm same) first,
      fun first => Uri.same_trans same first⟩

/-- The editor's spelling of a document: a letter that needs no escape, a query and a fragment. -/
def spelledSubject : Subject where
  uri := ⟨"file", some ⟨"", "", none⟩, "/p/my%20models/%61.cto", some "x=1", some "top"⟩
  path := ⟨"/p/my models/a.cto"⟩
  root := some ⟨"/p"⟩

theorem keyed_spelledSubject :
    Uri.parse "file:///p/my%20models/%61.cto?x=1#top" = some spelledSubject.uri ∧
      spelledSubject.uri.toPath? = some spelledSubject.path ∧ spelledSubject.Keyed := by
  have parsed : Uri.parse "file:///p/my%20models/%61.cto?x=1#top" = some spelledSubject.uri := by
    decide +kernel
  have isFile : spelledSubject.uri.toPath? = some spelledSubject.path := by decide +kernel
  exact ⟨parsed, isFile, keyed spelledSubject (.read parsed) isFile⟩

end Subject

end TemplateCheck

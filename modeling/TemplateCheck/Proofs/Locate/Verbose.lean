import TemplateCheck.Proofs.Uri.Keys

/-! # Paths in verbose text

A verbose text names a file behind a marker. The path begins right behind the marker and reaches
through the last ending that begins on the same line, with at least one character before it. A
marker with no such ending behind it is passed over, so the first marker that has one counts. The
ending is looked for as it is spelled, so one that has a line break in it may run over the line.
-/

namespace TemplateCheck

namespace Text

theorem afterStart?_eq_some_iff {start characters after : List Char} :
    afterStart? start characters = some after ↔ characters = start ++ after := by
  induction start generalizing characters with
  | nil => simp [afterStart?]
  | cons wanted start induction =>
      cases characters with
      | nil => simp [afterStart?]
      | cons character rest =>
          by_cases same : wanted = character
          · simp [afterStart?, same, induction]
          · simp [afterStart?, same, Ne.symm same]

end Text

namespace Verbose

/-- A path behind a marker: its body, which is not empty and stays on the line, and the ending. -/
structure Reaches (ending after body : List Char) : Prop where
  some : body ≠ []
  onLine : '\n' ∉ body
  ends : body ++ ending <+: after

/-- The last ending that a path behind a marker may have. -/
structure Longest (ending after body : List Char) : Prop where
  reaches : Reaches ending after body
  last : ∀ other, Reaches ending after other → other.length ≤ body.length

/-- The first marker in a text with a path behind it, and the body of that path. -/
structure Names (ending text before after body : List Char) : Prop where
  split : text = before ++ marker ++ after
  longest : Longest ending after body
  first : ∀ earlier rest other, text = earlier ++ marker ++ rest → Reaches ending rest other →
    before.length ≤ earlier.length

/-! ## Behind a marker -/

variable {ending : List Char}

theorem not_reaches_nil (body : List Char) : ¬ Reaches ending [] body := by
  intro reaches
  have empty := List.prefix_nil.mp reaches.ends
  exact reaches.some (List.append_eq_nil_iff.mp empty).1

theorem not_reaches_lineFeed (rest body : List Char) : ¬ Reaches ending ('\n' :: rest) body := by
  intro reaches
  cases body with
  | nil => exact reaches.some rfl
  | cons first others =>
      rw [(List.cons_prefix_cons.mp reaches.ends).1] at reaches
      exact reaches.onLine List.mem_cons_self

/-- A path either has one character before its ending, or it goes on with a path. -/
theorem reaches_cons_iff {first : Char} {rest body : List Char} (visible : first ≠ '\n') :
    Reaches ending (first :: rest) body ↔
      ∃ others, body = first :: others ∧ (others = [] ∧ ending <+: rest ∨ Reaches ending rest others) := by
  constructor
  · intro reaches
    cases body with
    | nil => exact absurd rfl reaches.some
    | cons head others =>
        rcases List.cons_prefix_cons.mp reaches.ends with ⟨rfl, ends⟩
        refine ⟨others, rfl, ?_⟩
        cases others with
        | nil => exact Or.inl ⟨rfl, ends⟩
        | cons second more =>
            exact Or.inr ⟨List.cons_ne_nil second more,
              fun member => reaches.onLine (List.mem_cons_of_mem _ member), ends⟩
  · rintro ⟨others, rfl, ⟨rfl, ends⟩ | reaches⟩
    · exact ⟨List.cons_ne_nil first [], by simpa using Ne.symm visible,
        List.cons_prefix_cons.mpr ⟨rfl, ends⟩⟩
    · exact ⟨List.cons_ne_nil first others,
        List.not_mem_cons_of_ne_of_not_mem (Ne.symm visible) reaches.onLine,
        List.cons_prefix_cons.mpr ⟨rfl, reaches.ends⟩⟩

theorem Longest.eq {after body other : List Char} (first : Longest ending after body)
    (second : Longest ending after other) : body = other := by
  have sameLength : body.length = other.length :=
    Nat.le_antisymm (second.last body first.reaches) (first.last other second.reaches)
  have ofFirst : body <+: after := (List.prefix_append body ending).trans first.reaches.ends
  have ofSecond : other <+: after := (List.prefix_append other ending).trans second.reaches.ends
  exact (List.prefix_of_prefix_length_le ofFirst ofSecond sameLength.le).eq_of_length sameLength

/-- What is found behind a marker is the longest path there, if there is one. -/
theorem throughLast_spec (ending after : List Char) :
    (∃ body, Longest ending after body ∧ throughLast ending after = some (body ++ ending)) ∨
      (∀ body, ¬ Reaches ending after body) ∧ throughLast ending after = none := by
  induction after with
  | nil => exact Or.inr ⟨not_reaches_nil, rfl⟩
  | cons first rest induction =>
      by_cases lineFeed : first = '\n'
      · subst lineFeed
        exact Or.inr ⟨not_reaches_lineFeed rest, by simp [throughLast]⟩
      · rcases induction with ⟨body, longest, found⟩ | ⟨none, notFound⟩
        · refine Or.inl ⟨first :: body, ⟨?_, ?_⟩, ?_⟩
          · exact (reaches_cons_iff lineFeed).mpr ⟨body, rfl, Or.inr longest.reaches⟩
          · intro other reaches
            rcases (reaches_cons_iff lineFeed).mp reaches with ⟨others, rfl, ⟨rfl, -⟩ | further⟩
            · simp
            · exact Nat.succ_le_succ (longest.last others further)
          · simp [throughLast, lineFeed, found]
        · by_cases ends : ending <+: rest
          · refine Or.inl ⟨[first], ⟨?_, ?_⟩, ?_⟩
            · exact (reaches_cons_iff lineFeed).mpr ⟨[], rfl, Or.inl ⟨rfl, ends⟩⟩
            · intro other reaches
              rcases (reaches_cons_iff lineFeed).mp reaches with
                ⟨others, rfl, ⟨rfl, -⟩ | further⟩
              · exact Nat.le_refl _
              · exact absurd further (none others)
            · simp [throughLast, lineFeed, notFound, ends]
          · refine Or.inr ⟨?_, by simp [throughLast, lineFeed, notFound, ends]⟩
            intro body reaches
            rcases (reaches_cons_iff lineFeed).mp reaches with ⟨others, rfl, ⟨-, here⟩ | further⟩
            · exact ends here
            · exact none others further

/-! ## The first marker -/

theorem Names.eq {text before after body other rest more : List Char}
    (first : Names ending text before after body) (second : Names ending text other rest more) :
    body = more := by
  have sameLength : before.length = other.length :=
    Nat.le_antisymm (first.first _ _ _ second.split second.longest.reaches)
      (second.first _ _ _ first.split first.longest.reaches)
  have sameText := first.split.symm.trans second.split
  rw [List.append_assoc, List.append_assoc] at sameText
  have sameAfter := List.append_cancel_left (List.append_inj sameText sameLength).2
  subst sameAfter
  exact first.longest.eq second.longest

/-- A marker stands at the front of a text, or behind its first character. -/
theorem marked_cons {first : Char} {rest before after : List Char}
    (split : first :: rest = before ++ marker ++ after) :
    before = [] ∧ first :: rest = marker ++ after ∨
      ∃ others, before = first :: others ∧ rest = others ++ marker ++ after := by
  cases before with
  | nil => exact Or.inl ⟨rfl, split⟩
  | cons head others =>
      simp only [List.cons_append, List.cons.injEq] at split
      exact Or.inr ⟨others, by rw [split.1], split.2⟩

/-- What is found behind the rest of a text is found in the text, unless its front has a path. -/
theorem Names.cons {first : Char} {rest before after body : List Char}
    (names : Names ending rest before after body)
    (notHere : ∀ after other, first :: rest = marker ++ after → ¬ Reaches ending after other) :
    Names ending (first :: rest) (first :: before) after body where
  split := by rw [names.split]; rfl
  longest := names.longest
  first := by
    intro earlier more other split reaches
    rcases marked_cons split with ⟨-, here⟩ | ⟨others, rfl, later⟩
    · exact absurd reaches (notHere more other here)
    · exact Nat.succ_le_succ (names.first others more other later reaches)

theorem path?_spec (ending text : List Char) :
    (∃ before after body, Names ending text before after body ∧
      path? ending text = some (body ++ ending)) ∨
      (∀ before after body, text = before ++ marker ++ after → ¬ Reaches ending after body) ∧
        path? ending text = none := by
  induction text with
  | nil =>
      refine Or.inr ⟨?_, by simp [path?]⟩
      intro before after body split
      have isEmpty : marker = [] :=
        (List.append_eq_nil_iff.mp (List.append_eq_nil_iff.mp split.symm).1).2
      exact absurd isEmpty (by decide)
  | cons first rest induction =>
      -- The text goes on behind its first character unless a marker there has a path behind it.
      have onward (notHere : ∀ after other, first :: rest = marker ++ after →
          ¬ Reaches ending after other)
          (same : path? ending (first :: rest) = path? ending rest) :
          (∃ before after body, Names ending (first :: rest) before after body ∧
            path? ending (first :: rest) = some (body ++ ending)) ∨
          (∀ before after body, first :: rest = before ++ marker ++ after →
            ¬ Reaches ending after body) ∧ path? ending (first :: rest) = none := by
        rw [same]
        rcases induction with ⟨before, after, body, names, found⟩ | ⟨nowhere, notFound⟩
        · exact Or.inl ⟨first :: before, after, body, names.cons notHere, found⟩
        · refine Or.inr ⟨?_, notFound⟩
          intro before after body split
          rcases marked_cons split with ⟨-, here⟩ | ⟨others, -, later⟩
          · exact notHere after body here
          · exact nowhere others after body later
      cases isMarked : Text.afterStart? marker (first :: rest) with
      | none =>
          refine onward ?_ (by simp [path?, isMarked])
          intro after other split
          rw [Text.afterStart?_eq_some_iff.mpr split] at isMarked
          cases isMarked
      | some after =>
          have split := Text.afterStart?_eq_some_iff.mp isMarked
          rcases throughLast_spec ending after with ⟨body, longest, found⟩ | ⟨none, notFound⟩
          · refine Or.inl ⟨[], after, body, ⟨split, longest, ?_⟩, by simp [path?, isMarked, found]⟩
            intro earlier more other _ _
            exact Nat.zero_le _
          · refine onward ?_ (by simp [path?, isMarked, notFound])
            intro other body same
            cases List.append_cancel_left (same.symm.trans split)
            exact none body

theorem path?_eq_some_iff {text found : List Char} :
    path? ending text = some found ↔
      ∃ before after body, Names ending text before after body ∧ found = body ++ ending := by
  rcases path?_spec ending text with ⟨before, after, body, names, isFound⟩ | ⟨nowhere, notFound⟩
  · rw [isFound]
    constructor
    · intro same
      exact ⟨before, after, body, names, (Option.some.inj same).symm⟩
    · rintro ⟨other, rest, more, otherNames, rfl⟩
      rw [names.eq otherNames]
  · rw [notFound]
    constructor
    · intro none
      cases none
    · rintro ⟨before, after, body, names, -⟩
      exact absurd names.longest.reaches (nowhere before after body names.split)

theorem path?_eq_none_iff {text : List Char} :
    path? ending text = none ↔
      ∀ before after body, text = before ++ marker ++ after → ¬ Reaches ending after body := by
  rcases path?_spec ending text with ⟨before, after, body, names, isFound⟩ | ⟨nowhere, notFound⟩
  · rw [isFound]
    constructor
    · intro none
      cases none
    · intro nowhere
      exact absurd names.longest.reaches (nowhere before after body names.split)
  · exact ⟨fun _ => nowhere, fun _ => notFound⟩

/-! ## Lines -/

/-- What stands before the first line break. -/
def line (text : List Char) : List Char :=
  text.takeWhile fun character => character != '\n'

theorem line_append {front : List Char} (onLine : '\n' ∉ front) (rest : List Char) :
    line (front ++ rest) = front ++ line rest := by
  refine List.takeWhile_append_of_pos ?_
  intro character member
  rw [bne_iff_ne]
  rintro rfl
  exact onLine member

theorem lineFeed_not_mem_line (text : List Char) : '\n' ∉ line text := by
  intro member
  have visible := List.mem_takeWhile_imp member
  simp at visible

theorem prefix_line_iff {front text : List Char} (onLine : '\n' ∉ front) :
    front <+: line text ↔ front <+: text := by
  constructor
  · intro begins
    exact begins.trans (List.takeWhile_prefix _)
  · rintro ⟨rest, rfl⟩
    rw [line_append onLine]
    exact List.prefix_append _ _

/-- An ending without a line break is looked for on one line. -/
theorem reaches_iff {after body : List Char} (noBreak : '\n' ∉ ending) :
    Reaches ending after body ↔ body ≠ [] ∧ body ++ ending <+: line after := by
  constructor
  · intro reaches
    have onLine : '\n' ∉ body ++ ending := by
      simp [reaches.onLine, noBreak]
    exact ⟨reaches.some, (prefix_line_iff onLine).mpr reaches.ends⟩
  · rintro ⟨some, ends⟩
    have onLine : '\n' ∉ body := by
      intro member
      exact lineFeed_not_mem_line after (ends.subset (List.mem_append_left _ member))
    exact ⟨some, onLine, ends.trans (List.takeWhile_prefix _)⟩

/-- A path behind a marker is the one that is named, if no marker before it has a path and no
later ending stands on its line. -/
theorem names_of_quiet {front path rest body : List Char} (onLine : '\n' ∉ path)
    (ends : path = body ++ ending) (some : body ≠ [])
    (quiet : ∀ earlier more other, front ++ marker ++ (path ++ rest) = earlier ++ marker ++ more →
      Reaches ending more other → front.length ≤ earlier.length)
    (last : ∀ other, other ++ ending <+: path ++ line rest →
      (other ++ ending).length ≤ path.length) :
    Names ending (front ++ marker ++ (path ++ rest)) front (path ++ rest) body where
  split := rfl
  longest := by
    rw [ends] at onLine
    have noBreak : '\n' ∉ ending := fun member => onLine (List.mem_append_right _ member)
    constructor
    · exact ⟨some, fun member => onLine (List.mem_append_left _ member), by simp [ends]⟩
    · intro other reaches
      have begins := ((reaches_iff noBreak).mp reaches).2
      rw [line_append (ends ▸ onLine)] at begins
      have short := last other begins
      simp only [ends, List.length_append] at short
      omega
  first := quiet

/-! ## The file of a failure -/

/-- What verbose text says about the file of a failure, for logic files with an extension. -/
structure Recovers (logicExtension : String) : Prop where
  named : ∀ (failure : Failure) (verbose : String) (path : Path),
    failure.verbose? = some verbose →
    (failure.verbosePath? logicExtension = some path ↔
      ∃ before after body,
        Names ('.' :: logicExtension.toList) verbose.toList before after body ∧
          path.text.toList = body ++ '.' :: logicExtension.toList)
  unnamed : ∀ (failure : Failure) (verbose : String), failure.verbose? = some verbose →
    (failure.verbosePath? logicExtension = none ↔
      ∀ before after body, verbose.toList = before ++ marker ++ after →
        ¬ Reaches ('.' :: logicExtension.toList) after body)
  silent : ∀ failure : Failure, failure.verbose? = none →
    failure.verbosePath? logicExtension = none
  /-- Where the extension has no line break, the path lies on the line of its marker. -/
  onLine : '\n' ∉ logicExtension.toList → ∀ after body : List Char,
    (Reaches ('.' :: logicExtension.toList) after body ↔
      body ≠ [] ∧ body ++ '.' :: logicExtension.toList <+: line after)
  /-- A path is recovered as it was written, and resolved against the root. -/
  placed : ∀ (failure : Failure) (subject : Subject) (root path : Path) (front rest : List Char)
      (body : List Char),
    failure.file = none → subject.root = some root → root.isAbsolute = true →
    failure.verbose? = some (String.ofList (front ++ marker ++ (path.text.toList ++ rest))) →
    '\n' ∉ path.text.toList → path.text.toList = body ++ '.' :: logicExtension.toList →
    body ≠ [] →
    (∀ earlier more other,
      front ++ marker ++ (path.text.toList ++ rest) = earlier ++ marker ++ more →
      Reaches ('.' :: logicExtension.toList) more other → front.length ≤ earlier.length) →
    (∀ other, other ++ '.' :: logicExtension.toList <+: path.text.toList ++ line rest →
      (other ++ '.' :: logicExtension.toList).length ≤ path.text.toList.length) →
    subject.uriFor? (if path.isAbsolute then path else root.join path) =
      some (failure.place logicExtension subject)

theorem verbosePath?_eq {failure : Failure} {verbose : String}
    (isVerbose : failure.verbose? = some verbose) (logicExtension : String) :
    failure.verbosePath? logicExtension =
      (path? ('.' :: logicExtension.toList) verbose.toList).map fun found =>
        ⟨String.ofList found⟩ := by
  simp only [Failure.verbosePath?, isVerbose, Option.bind_eq_bind, Option.bind_some]
  cases path? ('.' :: logicExtension.toList) verbose.toList <;> rfl

theorem verbosePath?_eq_some_iff {failure : Failure} {verbose : String} {path : Path}
    (isVerbose : failure.verbose? = some verbose) (logicExtension : String) :
    failure.verbosePath? logicExtension = some path ↔
      ∃ before after body,
        Names ('.' :: logicExtension.toList) verbose.toList before after body ∧
          path.text.toList = body ++ '.' :: logicExtension.toList := by
  rw [verbosePath?_eq isVerbose, Option.map_eq_some_iff, ← path?_eq_some_iff]
  constructor
  · rintro ⟨found, isFound, rfl⟩
    rw [String.toList_ofList]
    exact isFound
  · intro isFound
    exact ⟨_, isFound, by rw [String.ofList_toList]⟩

theorem recovers (logicExtension : String) : Recovers logicExtension where
  named := fun _ _ _ isVerbose => verbosePath?_eq_some_iff isVerbose logicExtension
  unnamed := by
    intro failure verbose isVerbose
    rw [verbosePath?_eq isVerbose, Option.map_eq_none_iff, path?_eq_none_iff]
  silent := by
    intro failure isSilent
    simp [Failure.verbosePath?, isSilent]
  onLine := by
    intro noBreak after body
    refine reaches_iff ?_
    exact List.not_mem_cons_of_ne_of_not_mem (by decide) noBreak
  placed := by
    intro failure subject root path front rest body noFile isRoot absolute isVerbose onLine ends
      some quiet last
    have names := names_of_quiet onLine ends some quiet last
    have found : failure.verbosePath? logicExtension = Option.some path := by
      rw [verbosePath?_eq_some_iff isVerbose, String.toList_ofList]
      exact ⟨_, _, _, names, ends⟩
    have named : failure.namedFile? logicExtension = Option.some path := by
      simp [Failure.namedFile?, noFile, found]
    have isFull : subject.full path = if path.isAbsolute then path else root.join path := by
      simp only [Subject.full, isRoot]
    rcases Subject.isSome_uriFor? subject (Subject.isAbsolute_full isRoot absolute path) with
      ⟨uri, key⟩
    rw [Subject.place_eq named, ← isFull, key]
    rfl

/-! The path of a unit with blanks and brackets, behind other text and before more of it. -/

def spacedFailure : Failure where
  message := "m"
  location := .descriptor ⟨.typeError, none, none,
    some "bad type at file lib/my unit (1).ergo 3:4\nsee main.ergo"⟩

def spacedSubject : Subject where
  uri := ⟨"file", some ⟨"", "", none⟩, "/pkg/lib/main.ergo", none, none⟩
  path := ⟨"/pkg/lib/main.ergo"⟩
  root := some ⟨"/pkg"⟩

/-- What stands behind some text is found at its length. -/
theorem prefix_drop_of_append {before wanted text : List Char}
    (behind : before ++ wanted <+: text) : wanted <+: text.drop before.length := by
  rcases behind with ⟨after, rfl⟩
  simp

theorem recovers_spaced :
    spacedSubject.uriFor? ⟨"/pkg/lib/my unit (1).ergo"⟩ =
        some (spacedFailure.place "ergo" spacedSubject) ∧
      (spacedFailure.place "ergo" spacedSubject).text = "file:///pkg/lib/my%20unit%20(1).ergo" := by
  refine ⟨?_, by decide +kernel⟩
  have isFull : (if (Path.mk "lib/my unit (1).ergo").isAbsolute then ⟨"lib/my unit (1).ergo"⟩
      else (Path.mk "/pkg").join ⟨"lib/my unit (1).ergo"⟩) = ⟨"/pkg/lib/my unit (1).ergo"⟩ := by
    decide +kernel
  rw [← isFull]
  refine (recovers "ergo").placed spacedFailure spacedSubject ⟨"/pkg"⟩ ⟨"lib/my unit (1).ergo"⟩
    "bad type ".toList " 3:4\nsee main.ergo".toList "lib/my unit (1)".toList
    rfl rfl (by decide +kernel) (by decide +kernel) (by decide +kernel) (by decide +kernel)
    (by decide +kernel) ?quiet ?last
  case quiet =>
    intro earlier more other split _
    have absent : ∀ place < "bad type ".toList.length, ¬ marker <+:
        ("bad type ".toList ++ marker ++
          ("lib/my unit (1).ergo".toList ++ " 3:4\nsee main.ergo".toList)).drop place := by
      decide +kernel
    have occurs := prefix_drop_of_append ⟨more, split.symm⟩
    exact Nat.le_of_not_lt fun short => absent earlier.length short occurs
  case last =>
    intro other begins
    have absent : ∀ place < 20, 15 < place → ¬ ".ergo".toList <+:
        ("lib/my unit (1).ergo".toList ++ line " 3:4\nsee main.ergo".toList).drop place := by
      decide +kernel
    have occurs := prefix_drop_of_append begins
    have within : (other ++ ".ergo".toList).length ≤ 24 := List.IsPrefix.length_le begins
    have five : ".ergo".toList.length = 5 := by decide +kernel
    have twenty : "lib/my unit (1).ergo".toList.length = 20 := by decide +kernel
    rw [List.length_append, five] at within
    refine Nat.le_of_not_lt fun long => absent other.length (by omega) ?_ occurs
    change "lib/my unit (1).ergo".toList.length < (other ++ ".ergo".toList).length at long
    rw [List.length_append, five, twenty] at long
    omega

/-! A layout may have an extension with a line break. Its files are named over two lines, so no
ending stands on the line of the marker, and the path is recovered all the same. -/

def brokenLayout : Package.Layout where
  logicExtension := "a\nb"

def brokenFailure : Failure where
  message := "m"
  location := .descriptor ⟨.typeError, none, none, some "at file x.a\nb"⟩

def brokenSubject : Subject where
  uri := ⟨"file", some ⟨"", "", none⟩, "/pkg/lib/d.ergo", none, none⟩
  path := ⟨"/pkg/lib/d.ergo"⟩
  root := some ⟨"/pkg"⟩

theorem broken_recovered :
    brokenLayout.check = .ok () ∧ (Checker.ofLayout brokenLayout).toOption.isSome = true ∧
      brokenFailure.file = none ∧ brokenFailure.verbose? = some "at file x.a\nb" ∧
      (∀ before after body : List Char, "at file x.a\nb".toList = before ++ marker ++ after →
        ¬ (body ≠ [] ∧ body ++ ".a\nb".toList <+: line after)) ∧
      brokenFailure.verbosePath? brokenLayout.logicExtension = some ⟨"x.a\nb"⟩ ∧
      (brokenFailure.place brokenLayout.logicExtension brokenSubject).text =
        "file:///pkg/x.a%0Ab" := by
  refine ⟨by decide +kernel, by decide +kernel, rfl, rfl, ?_, by decide +kernel,
    by decide +kernel⟩
  rintro before after body - ⟨-, ends⟩
  have onLine : '\n' ∈ body ++ ".a\nb".toList := List.mem_append_right body (by decide)
  exact lineFeed_not_mem_line after (ends.subset onLine)

end Verbose

end TemplateCheck

import TemplateCheck.Proofs.Package.Discovery
import TemplateCheck.Proofs.Package.Pattern
import TemplateCheck.Proofs.Package.Rules

/-! # Kinds of files and kinds of sources

A file is a model or logic to an edit by its extension, and to a search by the pattern of the
extension. The two agree for the extensions that have neither a dot nor a backslash. The
extension of a file has no dot, while a pattern takes whatever the layout gives, and a backslash
does not stand for itself in a pattern.
-/

namespace TemplateCheck

namespace Path

/-! ## Names and extensions -/

theorem nameExtension?_eq_some_iff {name extension : List Char} :
    nameExtension? name = some extension ↔
      ∃ stem, stem ≠ [] ∧ name = stem ++ '.' :: extension ∧ '.' ∉ extension := by
  unfold nameExtension?
  constructor
  · intro found
    split at found
    · cases found
    · cases found
    · next after first before cut =>
        cases found
        rcases Text.cutAtFirst_eq_some_iff.mp cut with ⟨split, free⟩
        refine ⟨(first :: before).reverse, by simp, ?_, by simpa using free⟩
        rw [← List.reverse_reverse name, split]
        simp
  · rintro ⟨stem, notEmpty, rfl, free⟩
    have cut : Text.cutAtFirst '.' (stem ++ '.' :: extension).reverse =
        some (extension.reverse, stem.reverse) :=
      Text.cutAtFirst_eq_some_iff.mpr ⟨by simp, by simpa using free⟩
    rw [cut]
    cases reversed : stem.reverse with
    | nil => exact absurd (List.reverse_eq_nil_iff.mp reversed) notEmpty
    | cons first before => simp

theorem extension?_eq_some_iff {path : Path} {extension : String} :
    path.extension? = some extension ↔ ∃ name stem, path.fileName? = some name ∧ stem ≠ [] ∧
      name.toList = stem ++ '.' :: extension.toList ∧ '.' ∉ extension.toList := by
  unfold extension?
  constructor
  · intro found
    rcases Option.bind_eq_some_iff.mp found with ⟨name, isName, later⟩
    rcases Option.bind_eq_some_iff.mp later with ⟨characters, cut, same⟩
    cases same
    rcases nameExtension?_eq_some_iff.mp cut with ⟨stem, notEmpty, split, free⟩
    exact ⟨name, stem, isName, notEmpty, by simpa using split, by simpa using free⟩
  · rintro ⟨name, stem, isName, notEmpty, split, free⟩
    have cut := nameExtension?_eq_some_iff.mpr ⟨stem, notEmpty, split, free⟩
    simp [isName, cut]

theorem Thins.mem {long short : List String} (thins : Thins long short) {segment : String}
    (member : segment ∈ short) : segment ∈ long := by
  induction thins with
  | nil => exact member
  | keep first rest induction =>
      rcases List.mem_cons.mp member with rfl | later
      · exact List.mem_cons_self
      · exact List.mem_cons_of_mem _ (induction later)
  | drop silent rest induction => exact List.mem_cons_of_mem _ (induction member)

theorem free_of_fileName? {path : Path} {name : String} (isName : path.fileName? = some name) :
    '/' ∉ name.toList := by
  have isLast : path.components.getLast? = some (.name name) := by
    unfold fileName? at isName
    split at isName
    · next text last =>
        cases isName
        exact last
    · cases isName
  have member : name ∈ path.components.map Component.segment :=
    List.mem_map.mpr ⟨.name name, List.mem_of_getLast? isLast, rfl⟩
  exact not_mem_segments (path.thins_segments.mem member)

theorem fileName?_of_name {name : String} (isName : FileSystem.IsName name) :
    (Path.mk name).fileName? = some name := by
  have parts : (Path.mk name).components = [.name name] := by
    rw [components, segments_name isName.notEmpty isName.free]
    simp [firstComponentOf, isName.notEmpty, isName.notDot, isName.notUp]
  exact @fileName?_of_components _ [] name parts

end Path

namespace Package

variable {layout : Layout} {extension : String} {tokens : List Glob.Token}

/-! ## One extension -/

/-- A path whose last name, if it has one, is not passed over by a search. -/
def IsShown (path : Path) : Prop :=
  ∀ name, path.fileName? = some name → FileSystem.isHidden name = false

/-- A path whose last name is taken by a pattern. -/
def IsTaken (tokens : List Glob.Token) (path : Path) : Prop :=
  ∃ name, path.fileName? = some name ∧ Glob.isMatch tokens name = true

/-- A file with a short stem and an extension. -/
def sampleName (extension : String) : String :=
  "x." ++ extension

theorem toList_sampleName (extension : String) :
    (sampleName extension).toList = 'x' :: '.' :: extension.toList := by
  simp [sampleName]

theorem isName_sampleName (free : '/' ∉ extension.toList) :
    FileSystem.IsName (sampleName extension) := by
  have differs : ∀ other : String, other.toList.head? ≠ some 'x' →
      sampleName extension ≠ other := by
    rintro other notFirst rfl
    exact notFirst (by rw [toList_sampleName]; rfl)
  exact ⟨differs "" (by decide), differs "." (by decide), differs ".." (by decide),
    by rw [toList_sampleName]; simp [free]⟩

theorem fileName?_sample (free : '/' ∉ extension.toList) :
    (Path.mk (sampleName extension)).fileName? = some (sampleName extension) :=
  Path.fileName?_of_name (isName_sampleName free)

theorem isShown_sample (free : '/' ∉ extension.toList) :
    IsShown ⟨sampleName extension⟩ := by
  intro name isName
  cases (fileName?_sample free).symm.trans isName
  rw [FileSystem.isHidden, toList_sampleName]
  rfl

/-- What has the extension is taken by its pattern, and the other way round unless the extension
has a dot. -/
theorem extension?_iff_isTaken (plain : '\\' ∉ extension.toList)
    (made : Sources.pattern extension = .ok tokens)
    (fits : '.' ∉ extension.toList ∨ '/' ∈ extension.toList) {path : Path}
    (shown : IsShown path) : path.extension? = some extension ↔ IsTaken tokens path := by
  simp only [IsTaken, Sources.isMatch_iff_of_plain plain made, Path.extension?_eq_some_iff]
  constructor
  · rintro ⟨name, stem, isName, -, split, -⟩
    exact ⟨name, isName, stem, split.symm⟩
  · rintro ⟨name, isName, stem, split⟩
    have nameFree := Path.free_of_fileName? isName
    rw [← split] at nameFree
    rcases fits with free | slash
    · refine ⟨name, stem, isName, ?_, split.symm, free⟩
      rintro rfl
      have hidden := shown name isName
      rw [FileSystem.isHidden, ← split] at hidden
      cases hidden
    · exact absurd (List.mem_append_right _ (List.mem_cons_of_mem _ slash)) nameFree

/-- A dot in the extension sets a sample apart: it is taken, but has another extension. -/
theorem sample_of_dot (plain : '\\' ∉ extension.toList)
    (made : Sources.pattern extension = .ok tokens) (dot : '.' ∈ extension.toList)
    (free : '/' ∉ extension.toList) :
    IsTaken tokens ⟨sampleName extension⟩ ∧
      (Path.mk (sampleName extension)).extension? ≠ some extension := by
  constructor
  · refine ⟨_, fileName?_sample free, (Sources.isMatch_iff_of_plain plain made _).mpr ?_⟩
    rw [toList_sampleName]
    exact List.suffix_cons _ _
  · intro found
    rcases Path.extension?_eq_some_iff.mp found with ⟨_, _, _, _, _, noDot⟩
    exact noDot dot

/-- So does a backslash: the sample has the extension, but is not taken. -/
theorem sample_of_backslash (backslash : '\\' ∈ extension.toList)
    (made : Sources.pattern extension = .ok tokens) (noDot : '.' ∉ extension.toList)
    (free : '/' ∉ extension.toList) :
    (Path.mk (sampleName extension)).extension? = some extension ∧
      ¬ IsTaken tokens ⟨sampleName extension⟩ := by
  constructor
  · exact Path.extension?_eq_some_iff.mpr ⟨_, ['x'], fileName?_sample free, by decide,
      toList_sampleName extension, noDot⟩
  · rintro ⟨name, isName, taken⟩
    cases (fileName?_sample free).symm.trans isName
    have refused := Sources.isMatch_of_backslash backslash noDot made
      (by decide : '.' ∉ ['x'])
    have sample : String.ofList (['x'] ++ '.' :: extension.toList) = sampleName extension := by
      rw [← @String.ofList_toList (sampleName extension), toList_sampleName]
      rfl
    rw [sample, taken] at refused
    cases refused

/-! ## Both extensions of a layout -/

/-- The kind of file that a set of sources is meant to hold. -/
def SourceSet.kind : SourceSet → SourceKind
  | .models => .model
  | .logic => .logic

def Layout.extensionOf (layout : Layout) : SourceSet → String
  | .models => layout.modelExtension
  | .logic => layout.logicExtension

theorem model_ne_logic (wellFormed : layout.WellFormed) :
    layout.modelExtension ≠ layout.logicExtension := by
  have differs := wellFormed.distinct
  simp only [Layout.extensions, List.nodup_cons, List.mem_cons, not_or] at differs
  exact differs.1.1

theorem classify_eq_kind_iff (wellFormed : layout.WellFormed) {set : SourceSet} {path : Path} :
    layout.classify path = set.kind ↔ path.extension? = some (layout.extensionOf set) := by
  have apart := Ne.symm (model_ne_logic wellFormed)
  unfold Layout.classify
  cases path.extension? with
  | none => cases set <;> simp [SourceSet.kind]
  | some found =>
      cases set with
      | models =>
          by_cases isModel : found = layout.modelExtension
          · simp [isModel, SourceSet.kind, Layout.extensionOf]
          · simp only [isModel, if_false, SourceSet.kind, Layout.extensionOf, Option.some.injEq,
              iff_false]
            repeat' split
            all_goals nofun
      | logic =>
          by_cases isLogic : found = layout.logicExtension
          · simp [isLogic, apart, SourceSet.kind, Layout.extensionOf]
          · simp only [isLogic, if_false, SourceSet.kind, Layout.extensionOf, Option.some.injEq,
              iff_false]
            repeat' split
            all_goals nofun

theorem pattern_of_ofLayout {sources : Sources} (made : Sources.ofLayout layout = .ok sources)
    (set : SourceSet) :
    Sources.pattern (layout.extensionOf set) = .ok (sources.patternOf set) := by
  rcases bind_eq_ok.mp made with ⟨models, isModels, rest⟩
  rcases bind_eq_ok.mp rest with ⟨logic, isLogic, same⟩
  cases same
  cases set with
  | models => exact isModels
  | logic => exact isLogic

theorem belongs_iff_isTaken {sources : Sources} {set : SourceSet} {path : Path} :
    sources.belongs set path = true ↔ IsTaken (sources.patternOf set) path := by
  unfold Sources.belongs IsTaken
  cases path.fileName? <;> simp

theorem isShown_of_leadsTo {files : FileSystem} {folder path : Path} {names : List String}
    (leads : files.LeadsTo folder path names) : IsShown path := by
  intro name isName
  rcases leads.exists_last with ⟨before, last, rfl⟩
  rcases leads with ⟨entries, -, shown, parts⟩
  rw [List.map_append, ← List.append_assoc] at parts
  cases (Path.fileName?_of_components parts).symm.trans isName
  exact shown.shown name (by simp)

/-- An extension that ends with a dot and another one, in a name that a file can have. -/
def EndsWith (longer shorter : String) : Prop :=
  '.' :: shorter.toList <:+ longer.toList ∧ '/' ∉ longer.toList

theorem endsWith_of_taken {name : String} {first second : String} (free : '/' ∉ name.toList)
    (inner : '.' :: first.toList <:+ '.' :: second.toList)
    (outer : '.' :: second.toList <:+ name.toList) (differ : first ≠ second) :
    EndsWith second first := by
  refine ⟨?_, fun slash => free (outer.mem (List.mem_cons_of_mem _ slash))⟩
  rcases List.suffix_cons_iff.mp inner with same | ends
  · exact absurd (String.toList_inj.mp (List.cons.inj same).2) differ
  · exact ends

/-- What the patterns of two extensions take together. -/
theorem endsWith_of_isTaken {first second : String} (differ : first ≠ second)
    (firstPlain : '\\' ∉ first.toList) (secondPlain : '\\' ∉ second.toList)
    {firstTokens secondTokens : List Glob.Token}
    (firstMade : Sources.pattern first = .ok firstTokens)
    (secondMade : Sources.pattern second = .ok secondTokens) {path : Path}
    (firstTaken : IsTaken firstTokens path) (secondTaken : IsTaken secondTokens path) :
    EndsWith second first ∨ EndsWith first second := by
  rcases firstTaken with ⟨name, isName, firstEnds⟩
  rcases secondTaken with ⟨other, isOther, secondEnds⟩
  cases isName.symm.trans isOther
  rw [Sources.isMatch_iff_of_plain firstPlain firstMade] at firstEnds
  rw [Sources.isMatch_iff_of_plain secondPlain secondMade] at secondEnds
  have free := Path.free_of_fileName? isName
  rcases List.suffix_or_suffix_of_suffix firstEnds secondEnds with inner | inner
  · exact Or.inl (endsWith_of_taken free inner secondEnds differ)
  · exact Or.inr (endsWith_of_taken free inner firstEnds (Ne.symm differ))

/-- A sample of the longer extension is taken by both patterns. -/
theorem isTaken_of_endsWith {longer shorter : String} (ends : EndsWith longer shorter)
    (longerPlain : '\\' ∉ longer.toList) (shorterPlain : '\\' ∉ shorter.toList)
    {longerTokens shorterTokens : List Glob.Token}
    (longerMade : Sources.pattern longer = .ok longerTokens)
    (shorterMade : Sources.pattern shorter = .ok shorterTokens) :
    IsTaken longerTokens ⟨sampleName longer⟩ ∧ IsTaken shorterTokens ⟨sampleName longer⟩ := by
  have isName := fileName?_sample ends.2
  have own : '.' :: longer.toList <:+ (sampleName longer).toList := by
    rw [toList_sampleName]
    exact List.suffix_cons _ _
  have inner := (ends.1.trans (List.suffix_cons '.' _)).trans own
  exact ⟨⟨_, isName, (Sources.isMatch_iff_of_plain longerPlain longerMade _).mpr own⟩,
    ⟨_, isName, (Sources.isMatch_iff_of_plain shorterPlain shorterMade _).mpr inner⟩⟩

/-- How the kind of a file goes together with the set of sources that it is found in. -/
structure Agreement (layout : Layout) (sources : Sources) : Prop where
  /-- Without a backslash in the extension, the two agree exactly if it has no dot, or a slash,
  which no file has in its name. -/
  agrees_iff : ∀ set, '\\' ∉ (layout.extensionOf set).toList →
    ((∀ path, IsShown path →
        (layout.classify path = set.kind ↔ sources.belongs set path = true)) ↔
      '.' ∉ (layout.extensionOf set).toList ∨ '/' ∈ (layout.extensionOf set).toList)
  /-- With a backslash, a search passes over a file that has the extension. -/
  passedOver : ∀ set, '\\' ∈ (layout.extensionOf set).toList →
    '.' ∉ (layout.extensionOf set).toList → '/' ∉ (layout.extensionOf set).toList →
    ∃ path, IsShown path ∧ layout.classify path = set.kind ∧ sources.belongs set path = false
  /-- Without backslashes, a file is in both sets exactly if one of the extensions ends with the
  other one. -/
  both_iff : (∀ set, '\\' ∉ (layout.extensionOf set).toList) →
    ((∃ path, IsShown path ∧ sources.belongs .models path = true ∧
        sources.belongs .logic path = true) ↔
      EndsWith layout.modelExtension layout.logicExtension ∨
        EndsWith layout.logicExtension layout.modelExtension)
  /-- With extensions that have neither dots nor backslashes, a search finds the files of the
  kind that it searches for, and those alone. -/
  found_iff : (∀ set, '\\' ∉ (layout.extensionOf set).toList ∧
      '.' ∉ (layout.extensionOf set).toList) →
    ∀ files : FileSystem, files.isTree = true → ∀ folders set path,
      (∃ own ∈ sources.find files folders set, own.same path = true) ↔
        layout.classify path = set.kind ∧
          ∃ folder ∈ folders, ∃ names, files.LeadsTo folder path names

theorem agreement {sources : Sources} (wellFormed : layout.WellFormed)
    (made : Sources.ofLayout layout = .ok sources) : Agreement layout sources := by
  have patterns := pattern_of_ofLayout made
  have agrees : ∀ set, '\\' ∉ (layout.extensionOf set).toList →
      ('.' ∉ (layout.extensionOf set).toList ∨ '/' ∈ (layout.extensionOf set).toList) →
      ∀ path, IsShown path →
        (layout.classify path = set.kind ↔ sources.belongs set path = true) := by
    intro set plain fits path shown
    rw [classify_eq_kind_iff wellFormed, belongs_iff_isTaken]
    exact extension?_iff_isTaken plain (patterns set) fits shown
  exact {
    agrees_iff := by
      intro set plain
      refine ⟨fun agree => ?_, agrees set plain⟩
      by_cases dot : '.' ∈ (layout.extensionOf set).toList
      · by_cases slash : '/' ∈ (layout.extensionOf set).toList
        · exact Or.inr slash
        · rcases sample_of_dot plain (patterns set) dot slash with ⟨taken, other⟩
          have same := agree _ (isShown_sample slash)
          rw [classify_eq_kind_iff wellFormed, belongs_iff_isTaken] at same
          exact absurd (same.mpr taken) other
      · exact Or.inl dot
    passedOver := by
      intro set backslash noDot free
      rcases sample_of_backslash backslash (patterns set) noDot free with ⟨isKind, notTaken⟩
      refine ⟨_, isShown_sample free, (classify_eq_kind_iff wellFormed).mpr isKind, ?_⟩
      rwa [Bool.eq_false_iff, Ne, belongs_iff_isTaken]
    both_iff := by
      intro plain
      simp only [belongs_iff_isTaken]
      constructor
      · rintro ⟨path, -, inModels, inLogic⟩
        exact (endsWith_of_isTaken (model_ne_logic wellFormed) (plain .models) (plain .logic)
          (patterns .models) (patterns .logic) inModels inLogic).symm
      · rintro (ends | ends)
        · exact ⟨_, isShown_sample ends.2, isTaken_of_endsWith ends (plain .models) (plain .logic)
            (patterns .models) (patterns .logic)⟩
        · exact ⟨_, isShown_sample ends.2, (isTaken_of_endsWith ends (plain .logic)
            (plain .models) (patterns .logic) (patterns .models)).symm⟩
    found_iff := by
      intro simple files isTree folders set path
      rw [Sources.exists_mem_find]
      simp only [FileSystem.exists_mem_filesBelow isTree]
      refine and_congr_left ?_
      rintro ⟨folder, -, names, leads⟩
      exact (agrees set (simple set).1 (Or.inl (simple set).2) path
        (isShown_of_leadsTo leads)).symm }

/-- What a layout makes of kinds and sources. -/
structure Classification (layout : Layout) : Prop where
  /-- Patterns can be made of extensions without a backslash. -/
  ready : (∀ set, '\\' ∉ (layout.extensionOf set).toList) →
    ∃ sources, Sources.ofLayout layout = .ok sources
  kinds : ∀ sources, Sources.ofLayout layout = .ok sources → Agreement layout sources

theorem classification (accepted : layout.check = .ok ()) : Classification layout where
  ready plain := by
    have models := Sources.pattern_of_plain (plain .models)
    have logic := Sources.pattern_of_plain (plain .logic)
    exact ⟨_, bind_eq_ok.mpr ⟨_, models, bind_eq_ok.mpr ⟨_, logic, rfl⟩⟩⟩
  kinds sources made := agreement (Layout.check_eq_ok_iff.mp accepted) made

/-! Extensions with marks that have a meaning in patterns. -/

namespace Bracketed

def bracketed : Layout := { modelExtension := "c[t]*", logicExtension := "\x7bergo,?\x7d" }

theorem classification_bracketed :
    bracketed.check = .ok () ∧ ∃ sources, Sources.ofLayout bracketed = .ok sources ∧
      ∀ set path, IsShown path →
        (bracketed.classify path = set.kind ↔ sources.belongs set path = true) := by
  have accepted : bracketed.check = .ok () := by decide +kernel
  have plain : ∀ set, '\\' ∉ (bracketed.extensionOf set).toList := by
    rintro (_ | _) <;> decide
  have noDot : ∀ set, '.' ∉ (bracketed.extensionOf set).toList := by
    rintro (_ | _) <;> decide
  rcases (classification accepted).ready plain with ⟨sources, made⟩
  have agrees := ((classification accepted).kinds sources made).agrees_iff
  exact ⟨accepted, sources, made, fun set => (agrees set (plain set)).mpr (Or.inl (noDot set))⟩

end Bracketed

/-! An extension with a dot that ends with the other one. -/

namespace Dotted

def dotted : Layout := { logicExtension := "x.cto" }

def patterns : Sources where
  models := .anyBytes :: ".cto".toList.map fun mark => .byte (UInt8.ofNat mark.toNat)
  logic := .anyBytes :: ".x.cto".toList.map fun mark => .byte (UInt8.ofNat mark.toNat)

def tree : FileSystem where
  workingDirectory := []
  entries := [("d", .directory [("a.x.cto", .file [])])]

/-- A file that is a model to an edit is found as a model and as logic. -/
theorem found_as_both :
    Layout.decode Decode.dataFormat (.obj [("logic_extension", .str "x.cto")]) = .ok dotted ∧
      Sources.ofLayout dotted = .ok patterns ∧ IsShown ⟨"/d/a.x.cto"⟩ ∧
      dotted.classify ⟨"/d/a.x.cto"⟩ = .model ∧
      patterns.belongs .logic ⟨"/d/a.x.cto"⟩ = true ∧
      patterns.find tree [⟨"/d"⟩] .models = [⟨"/d/a.x.cto"⟩] ∧
      patterns.find tree [⟨"/d"⟩] .logic = [⟨"/d/a.x.cto"⟩] := by
  have isName : (Path.mk "/d/a.x.cto").fileName? = some "a.x.cto" := by decide +kernel
  have shown : IsShown ⟨"/d/a.x.cto"⟩ := by
    intro name named
    cases isName.symm.trans named
    decide
  exact ⟨eq_ok_of_toOption (by decide +kernel), rfl, shown, by decide +kernel, by decide +kernel,
    by decide +kernel, by decide +kernel⟩

end Dotted

end Package

end TemplateCheck

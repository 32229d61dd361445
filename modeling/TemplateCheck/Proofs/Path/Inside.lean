import TemplateCheck.Proofs.Path.Absolute

/-! # Paths inside a folder

What is joined to a folder lies below it, unless it is absolute, and a path lies below the
directories above it. So do the files that a walk finds, because no name has a slash. The root
of a package is above the document, and a layout names only what is below the root: all that a
stage looks at is inside its package.
-/

namespace TemplateCheck

namespace Text

theorem splitAt_eq_splitOn (separator : Char) (characters : List Char) :
    splitAt separator characters = characters.splitOn separator := by
  induction characters with
  | nil => simp [splitAt]
  | cons character rest induction =>
      rw [splitAt, induction, List.splitOn_cons_eq_if_modifyHead]
      rcases List.exists_cons_of_ne_nil (List.splitOn_ne_nil separator rest) with
        ⟨first, others, shape⟩
      by_cases equal : character = separator
      · simp [equal]
      · simp [equal, shape]

theorem splitAt_append (separator : Char) (left right : List Char) :
    splitAt separator (left ++ separator :: right) =
      splitAt separator left ++ splitAt separator right := by
  simp only [splitAt_eq_splitOn, List.splitOn_append_cons_self]

theorem not_mem_of_mem_splitAt {separator : Char} {characters piece : List Char}
    (member : piece ∈ splitAt separator characters) : separator ∉ piece := by
  induction characters generalizing piece with
  | nil => simp_all [splitAt]
  | cons character rest induction =>
      rcases List.exists_cons_of_ne_nil (splitAt_ne_nil separator rest) with
        ⟨first, others, shape⟩
      have fromRest : ∀ other ∈ first :: others, separator ∉ other := by
        intro other inside
        exact induction (shape ▸ inside)
      simp only [splitAt, shape] at member
      split at member
      · rcases List.mem_cons.mp member with here | later
        · simp [here]
        · exact fromRest piece later
      · next different =>
          rcases List.mem_cons.mp member with here | later
          · simpa [here, Ne.symm different] using fromRest first List.mem_cons_self
          · exact fromRest piece (List.mem_cons_of_mem _ later)

/-- The pieces that were put together with separators are found again. -/
theorem splitAt_intercalate {separator : Char} {pieces : List (List Char)}
    (free : ∀ piece ∈ pieces, separator ∉ piece) (some : pieces ≠ []) :
    splitAt separator ([separator].intercalate pieces) = pieces := by
  rw [splitAt_eq_splitOn]
  exact List.splitOn_intercalate separator free some

end Text

namespace Path

/-! ## Components -/

/-- The components that segments stand for. -/
def meaning : List String → List Component
  | [] => []
  | first :: rest => firstComponentOf first :: rest.filterMap componentOf?

theorem components_eq (path : Path) : path.components = meaning path.segments := by
  unfold components meaning
  cases path.segments <;> rfl

theorem meaning_append {segments : List String} (some : segments ≠ []) (more : List String) :
    meaning (segments ++ more) = meaning segments ++ more.filterMap componentOf? := by
  cases segments with
  | nil => exact absurd rfl some
  | cons first rest => simp [meaning]

theorem meaning_prefix_append (segments more : List String) :
    meaning segments <+: meaning (segments ++ more) := by
  cases segments with
  | nil => exact List.nil_prefix
  | cons first rest =>
      rw [meaning_append (by simp)]
      exact List.prefix_append _ _

theorem segments_of_ne {path : Path} (some : path.text ≠ "") :
    path.segments = (Text.splitAt '/' path.text.toList).map String.ofList := by
  simp [segments, Text.pieces, String.isEmpty_iff, some]

theorem isUnder_iff {path folder : Path} :
    path.isUnder folder = true ↔ folder.components <+: path.components := by
  simp [isUnder]

theorem isUnder_refl (path : Path) : path.isUnder path = true :=
  isUnder_iff.mpr List.prefix_rfl

theorem isUnder_trans {path folder higher : Path} (below : path.isUnder folder = true)
    (above : folder.isUnder higher = true) : path.isUnder higher = true :=
  isUnder_iff.mpr ((isUnder_iff.mp above).trans (isUnder_iff.mp below))

theorem eq_of_firstComponentOf {segment : String} (isRoot : firstComponentOf segment = .root) :
    segment = "" := by
  unfold firstComponentOf at isRoot
  split at isRoot
  · next empty => exact empty
  · split at isRoot
    · cases isRoot
    · split at isRoot
      · cases isRoot
      · cases isRoot

/-- A path whose first component is the root starts with a slash. -/
theorem isAbsolute_of_components {path : Path} {rest : List Component}
    (components : path.components = .root :: rest) : path.isAbsolute = true := by
  rw [components_eq] at components
  cases text : path.text.toList with
  | nil =>
      have empty : path.text = "" := by simpa using text
      simp [segments, empty, meaning] at components
  | cons character others =>
      have some : path.text ≠ "" := by
        intro empty
        simp [empty] at text
      by_cases slash : character = '/'
      · exact isAbsolute_iff.mpr ⟨others, slash ▸ text⟩
      · rcases List.exists_cons_of_ne_nil (Text.splitAt_ne_nil '/' others) with
          ⟨piece, pieces, shape⟩
        simp only [segments_of_ne some, text, Text.splitAt, slash, if_false, shape, List.map_cons,
          meaning, List.cons.injEq] at components
        have empty := eq_of_firstComponentOf components.1
        simp at empty

theorem isAbsolute_of_isUnder {path folder : Path} (absolute : folder.isAbsolute = true)
    (inside : path.isUnder folder = true) : path.isAbsolute = true := by
  rcases segments_of_isAbsolute absolute with ⟨rest, segments⟩
  rcases isUnder_iff.mp inside with ⟨more, components⟩
  rw [components_eq folder, segments] at components
  exact isAbsolute_of_components components.symm

theorem segments_of_slash {path : Path} {left right : List Char}
    (text : path.text.toList = left ++ '/' :: right) :
    path.segments =
      (Text.splitAt '/' left).map String.ofList ++ (Text.splitAt '/' right).map String.ofList := by
  have some : path.text ≠ "" := by
    intro empty
    simp [empty] at text
  rw [segments_of_ne some, text, Text.splitAt_append, List.map_append]

theorem filterMap_segments (path : Path) :
    ((Text.splitAt '/' path.text.toList).map String.ofList).filterMap componentOf? =
      path.segments.filterMap componentOf? := by
  by_cases empty : path.text = ""
  · simp [segments, empty, Text.splitAt, componentOf?]
  · rw [segments_of_ne empty]

/-- A path that is put below another has its pieces behind the segments of the other. A slash at
the end of the other just divides the two. -/
theorem segments_join {base rest : Path} (some : base.text ≠ "")
    (relative : rest.isAbsolute = false) :
    ∃ front, front ≠ [] ∧ (base.segments = front ∨ base.segments = front ++ [""]) ∧
      (base.join rest).segments =
        front ++ (Text.splitAt '/' rest.text.toList).map String.ofList := by
  unfold join
  rw [if_neg (by simp [relative])]
  split
  · next ends =>
      rcases List.getLast?_eq_some_iff.mp (by simpa [some] using ends) with ⟨front, text⟩
      refine ⟨(Text.splitAt '/' front).map String.ofList, by simp [Text.splitAt_ne_nil], ?_, ?_⟩
      · rw [segments_of_slash text]
        exact Or.inr rfl
      · exact segments_of_slash (by simp [text])
  · refine ⟨base.segments, ?_, Or.inl rfl, ?_⟩
    · rw [segments_of_ne some]
      simp [Text.splitAt_ne_nil]
    · rw [segments_of_slash (by simp : _ = base.text.toList ++ '/' :: rest.text.toList),
        segments_of_ne some]

/-- The components of a path that is put below another come behind those of the other. -/
theorem components_join {base rest : Path} (some : base.text ≠ "")
    (relative : rest.isAbsolute = false) :
    (base.join rest).components = base.components ++ rest.segments.filterMap componentOf? := by
  rcases segments_join some relative with ⟨front, more, isBase, joined⟩
  rw [components_eq, components_eq, joined, meaning_append more, filterMap_segments]
  rcases isBase with same | slash
  · rw [same]
  · rw [slash, meaning_append more]
    simp [componentOf?]

theorem isUnder_join (base : Path) {rest : Path} (relative : rest.isAbsolute = false) :
    (base.join rest).isUnder base = true := by
  apply isUnder_iff.mpr
  by_cases empty : base.text = ""
  · have none : base.components = [] := by
      simp [components_eq, segments, empty, meaning]
    rw [none]
    exact List.nil_prefix
  · rw [components_join empty relative]
    exact List.prefix_append _ _

/-! ## The directories above -/

theorem meaning_dropNoise {reversed : List String} :
    meaning (dropNoise reversed).reverse = meaning reversed.reverse := by
  induction reversed with
  | nil => rfl
  | cons last before induction =>
      unfold dropNoise
      split
      · next noise =>
          simp only [isNoise, Bool.and_eq_true, Bool.not_eq_true', List.isEmpty_eq_false_iff,
            Bool.or_eq_true, decide_eq_true_eq] at noise
          have nothing : componentOf? last = none := by
            rcases noise.2 with empty | dot
            · simp [componentOf?, empty]
            · simp [componentOf?, dot]
          rw [induction, List.reverse_cons, meaning_append (by simpa using noise.1)]
          simp [nothing]
      · rfl

/-- The segments of a directory above are a beginning of those of the path. -/
theorem suffix_of_mem_enclosing {reversed folder : List String}
    (member : folder ∈ enclosing reversed) :
    ∃ before, before <:+ reversed ∧ folder = dropNoise before := by
  induction reversed with
  | nil => cases member
  | cons last before induction =>
      unfold enclosing at member
      split at member
      · rcases induction member with ⟨above, suffix, equal⟩
        exact ⟨above, suffix.trans (List.suffix_cons last before), equal⟩
      · split at member
        · cases member
        · rcases List.mem_cons.mp member with here | higher
          · exact ⟨before, List.suffix_cons last before, here⟩
          · rcases induction higher with ⟨above, suffix, equal⟩
            exact ⟨above, suffix.trans (List.suffix_cons last before), equal⟩

theorem dropNoise_suffix (reversed : List String) : dropNoise reversed <:+ reversed := by
  induction reversed with
  | nil => exact List.suffix_rfl
  | cons last before induction =>
      unfold dropNoise
      split
      · exact induction.trans (List.suffix_cons last before)
      · exact List.suffix_rfl

theorem segments_intercalate {segments : List String} (some : segments ≠ [])
    (more : segments ≠ [""]) (free : ∀ segment ∈ segments, '/' ∉ segment.toList) :
    (Path.mk ("/".intercalate segments)).segments = segments := by
  have split : Text.splitAt '/' ("/".intercalate segments).toList = segments.map String.toList := by
    rw [String.toList_intercalate]
    refine Text.splitAt_intercalate ?_ (by simpa using some)
    intro piece member
    rcases List.mem_map.mp member with ⟨segment, inside, rfl⟩
    exact free segment inside
  have notEmpty : (Path.mk ("/".intercalate segments)).text ≠ "" := by
    intro empty
    dsimp only at empty
    rw [empty] at split
    apply more
    rw [← List.map_id segments, ← String.ofList_comp_toList, ← List.map_map, ← split]
    rfl
  rw [segments_of_ne notEmpty, split, List.map_map, String.ofList_comp_toList, List.map_id]

theorem components_ofReversed {reversed : List String}
    (free : ∀ segment ∈ reversed, '/' ∉ segment.toList) :
    (ofReversed reversed).components = meaning reversed.reverse := by
  unfold ofReversed
  split
  · rfl
  · decide +kernel
  · next some more =>
      rw [components_eq, segments_intercalate]
      · simpa using some
      · intro single
        exact more (by rw [← List.reverse_reverse reversed, single]; rfl)
      · simpa using free

theorem not_mem_segments {path : Path} {segment : String} (member : segment ∈ path.segments) :
    '/' ∉ segment.toList := by
  unfold segments at member
  split at member
  · cases member
  · rcases List.mem_map.mp member with ⟨piece, inside, rfl⟩
    rw [String.toList_ofList]
    exact Text.not_mem_of_mem_splitAt inside

theorem isUnder_of_mem_parents {path folder : Path} (member : folder ∈ path.parents) :
    path.isUnder folder = true := by
  rcases List.mem_map.mp member with ⟨reversed, enclosed, rfl⟩
  rcases suffix_of_mem_enclosing enclosed with ⟨before, suffix, rfl⟩
  have free : ∀ segment ∈ dropNoise before, '/' ∉ segment.toList := by
    intro segment inside
    have inPath := suffix.subset ((dropNoise_suffix before).subset inside)
    exact not_mem_segments (List.mem_reverse.mp inPath)
  rcases List.reverse_prefix.mpr suffix with ⟨rest, whole⟩
  rw [List.reverse_reverse] at whole
  apply isUnder_iff.mpr
  rw [components_ofReversed free, meaning_dropNoise, components_eq path, ← whole]
  exact meaning_prefix_append _ _

end Path

/-! ## Files found below a folder -/

mutual

/-- Whether the names in a tree are names: none of them has a slash. -/
def Entry.isWellNamed : Entry → Bool
  | .file _ => true
  | .directory entries => Entry.areWellNamed entries
  | .link _ => true

def Entry.areWellNamed : List (String × Entry) → Bool
  | [] => true
  | (name, entry) :: rest =>
      !name.toList.contains '/' && entry.isWellNamed && Entry.areWellNamed rest

end

theorem Entry.areWellNamed_cons {name : String} {entry : Entry} {rest : List (String × Entry)} :
    Entry.areWellNamed ((name, entry) :: rest) = true ↔
      '/' ∉ name.toList ∧ entry.isWellNamed = true ∧ Entry.areWellNamed rest = true := by
  simp [Entry.areWellNamed, and_assoc]

theorem Entry.isWellNamed_of_lookup {entries : List (String × Entry)}
    (wellNamed : Entry.areWellNamed entries = true) {name : String} {entry : Entry}
    (found : entries.lookup name = some entry) : entry.isWellNamed = true := by
  induction entries with
  | nil => cases found
  | cons head rest induction =>
      rcases head with ⟨headName, headEntry⟩
      rcases Entry.areWellNamed_cons.mp wellNamed with ⟨_, here, later⟩
      rw [List.lookup_cons] at found
      split at found
      · cases found
        exact here
      · exact induction later found

theorem Entry.isWellNamed_of_at? {tree entry : Entry} (wellNamed : tree.isWellNamed = true)
    {names : List String} (found : tree.at? names = some entry) : entry.isWellNamed = true := by
  induction names generalizing tree with
  | nil =>
      cases found
      exact wellNamed
  | cons name rest induction =>
      rcases Option.bind_eq_some_iff.mp found with ⟨child, isChild, below⟩
      cases tree with
      | file content => cases isChild
      | link target => cases isChild
      | directory entries =>
          rw [Entry.isWellNamed] at wellNamed
          exact induction (Entry.isWellNamed_of_lookup wellNamed isChild) below

namespace FileSystem

def isWellNamed (files : FileSystem) : Bool :=
  files.root.isWellNamed

theorem isWellNamed_of_entry {files : FileSystem} (wellNamed : files.isWellNamed = true)
    {path : Path} {entry : Entry} (found : files.entry path = .ok entry) :
    entry.isWellNamed = true := by
  unfold FileSystem.entry at found
  cases resolved : files.resolve path with
  | error fault => simp [resolved, bind, Except.bind] at found
  | ok place =>
      cases present : files.at? place with
      | none => simp [resolved, present, bind, Except.bind] at found
      | some other =>
          have same : other = entry := by simpa [resolved, present, bind, Except.bind] using found
          exact same ▸ Entry.isWellNamed_of_at? wellNamed present

theorem isUnder_name (folder : Path) {name : String} (free : '/' ∉ name.toList) :
    (folder.join ⟨name⟩).isUnder folder = true := by
  apply Path.isUnder_join
  rw [Bool.eq_false_iff]
  intro absolute
  rcases Path.isAbsolute_iff.mp absolute with ⟨rest, text⟩
  simp [text] at free

mutual

theorem isUnder_of_mem_filesOf (folder : Path) (entry : Entry)
    (wellNamed : entry.isWellNamed = true) {path : Path} (member : path ∈ filesOf folder entry) :
    path.isUnder folder = true := by
  cases entry with
  | file content =>
      rw [filesOf] at member
      exact List.mem_singleton.mp member ▸ Path.isUnder_refl folder
  | directory entries =>
      rw [filesOf] at member
      rw [Entry.isWellNamed] at wellNamed
      exact isUnder_of_mem_filesIn folder entries wellNamed member
  | link target =>
      rw [filesOf] at member
      cases member

theorem isUnder_of_mem_filesIn (folder : Path) (entries : List (String × Entry))
    (wellNamed : Entry.areWellNamed entries = true) {path : Path}
    (member : path ∈ filesIn folder entries) : path.isUnder folder = true := by
  cases entries with
  | nil =>
      rw [filesIn] at member
      cases member
  | cons head rest =>
      rcases head with ⟨name, entry⟩
      rcases Entry.areWellNamed_cons.mp wellNamed with ⟨free, here, later⟩
      rw [filesIn] at member
      split at member
      · exact isUnder_of_mem_filesIn folder rest later member
      · rcases List.mem_append.mp member with below | beside
        · exact Path.isUnder_trans (isUnder_of_mem_filesOf (folder.join ⟨name⟩) entry here below)
            (isUnder_name folder free)
        · exact isUnder_of_mem_filesIn folder rest later beside

end

theorem isUnder_of_mem_filesBelow {files : FileSystem} (wellNamed : files.isWellNamed = true)
    {folder path : Path} (member : path ∈ files.filesBelow folder) :
    path.isUnder folder = true := by
  unfold filesBelow at member
  split at member
  · next found =>
      have entries := isWellNamed_of_entry wellNamed found
      rw [Entry.isWellNamed] at entries
      exact isUnder_of_mem_filesIn folder _ entries member
  · cases member

end FileSystem

/-! ## Packages -/

namespace Package

theorem bind_eq_ok {fault first second : Type} {step : Except fault first}
    {next : first → Except fault second} {result : second} :
    step >>= next = .ok result ↔ ∃ value, step = .ok value ∧ next value = .ok result := by
  cases step <;> simp [bind, Except.bind]

theorem eq_ok_of_toOption {fault value : Type} {answer : Except fault value} {result : value}
    (isSome : answer.toOption = some result) : answer = .ok result := by
  cases answer with
  | error fault => cases isSome
  | ok found => exact congrArg Except.ok (Option.some.inj isSome)

theorem Layout.relative_of_checkInside {field : String} {path : Path}
    (checked : checkInside field path = .ok ()) : path.isAbsolute = false := by
  rcases bind_eq_ok.mp checked with ⟨_, _, inside⟩
  rw [Bool.eq_false_iff]
  intro absolute
  rcases Path.segments_of_isAbsolute absolute with ⟨rest, segments⟩
  simp [Path.components, segments, Path.firstComponentOf, Path.Component.staysInside] at inside

/-- What a layout names is relative, and so below every root. -/
theorem Layout.relative_of_check {layout : Layout} (accepted : layout.check = .ok ()) :
    layout.modelsFolder.isAbsolute = false ∧ layout.logicFolder.isAbsolute = false ∧
      layout.grammarPath.isAbsolute = false ∧ layout.samplePath.isAbsolute = false := by
  simp only [check, bind_eq_ok] at accepted
  rcases accepted with ⟨_, _, _, _, _, _, _, _, _, _, folders⟩
  split at folders
  · cases folders
  · simp only [bind_eq_ok] at folders
    rcases folders with ⟨_, models, _, logic, _, grammar, sample⟩
    exact ⟨relative_of_checkInside models, relative_of_checkInside logic,
      relative_of_checkInside grammar, relative_of_checkInside sample⟩

/-- The document and its folder are below every directory that may be the root. -/
theorem isUnder_of_mem_rootCandidates {path root : Path} (member : root ∈ rootCandidates path) :
    path.isUnder root = true ∧
      ∀ folder, path.parent? = some folder → folder.isUnder root = true := by
  have nearest : ((path.parent?).getD path).isUnder root = true := by
    rcases List.mem_cons.mp (List.mem_filter.mp member).1 with here | higher
    · exact here ▸ Path.isUnder_refl _
    · exact Path.isUnder_of_mem_parents higher
  cases above : path.parent? with
  | none =>
      rw [above] at nearest
      exact ⟨nearest, nofun⟩
  | some folder =>
      rw [above] at nearest
      refine ⟨?_, fun other same => Option.some.inj same ▸ nearest⟩
      exact Path.isUnder_trans (Path.isUnder_of_mem_parents (List.mem_of_head? above)) nearest

theorem Sources.isUnder_of_mem_find {sources : Sources} {files : FileSystem}
    (wellNamed : files.isWellNamed = true) {folders : List Path} {set : SourceSet} {root : Path}
    (inside : ∀ folder ∈ folders, folder.isUnder root = true) {path : Path}
    (member : path ∈ sources.find files folders set) : path.isUnder root = true := by
  rcases Ordered.mem_insertAll member with found | none
  · rcases List.mem_flatMap.mp (List.mem_filter.mp found).1 with ⟨folder, searched, below⟩
    exact Path.isUnder_trans (FileSystem.isUnder_of_mem_filesBelow wellNamed below)
      (inside folder searched)
  · cases none

theorem isUnder_of_mem_searchFolders {edited layoutFolder folder root : Path}
    (parentInside : ∀ parent, edited.parent? = some parent → parent.isUnder root = true)
    (layoutInside : layoutFolder.isUnder root = true)
    (member : folder ∈ searchFolders edited layoutFolder) : folder.isUnder root = true := by
  unfold searchFolders at member
  split at member
  · exact List.mem_singleton.mp member ▸ layoutInside
  · next parent above =>
      split at member
      · exact List.mem_singleton.mp member ▸ parentInside parent above
      · rcases List.mem_cons.mp member with isParent | isLayout
        · exact isParent ▸ parentInside parent above
        · exact List.mem_singleton.mp isLayout ▸ layoutInside

end Package

namespace Pass

/-- A document that is a file below a root, in a package whose layout was accepted. The file
system does not matter. -/
structure Context.Housed (context : Context) : Prop where
  isFile : context.document.uri.toPath? = some context.path
  above : context.root ∈ Package.rootCandidates context.path
  accepted : context.layout.check = .ok ()

theorem housed_of_arrive {files : FileSystem} {checker : Checker} {document : Document}
    {context : Context} (accepted : checker.layout.check = .ok ())
    (arrived : arrive files checker document = .ok context) : context.Housed := by
  rcases sited_of_arrive arrived with ⟨sited, rfl, rfl⟩
  exact ⟨sited.isFile, Package.mem_rootCandidates_of_findRoot? sited.found, accepted⟩

variable {context : Context}

theorem Context.Housed.isAbsolute_root (housed : context.Housed) :
    context.root.isAbsolute = true :=
  Package.isAbsolute_of_mem_rootCandidates (Uri.isAbsolute_toPath? housed.isFile) housed.above

/-- A pass looks for files inside the package. -/
theorem Context.Housed.isUnder_of_mem_searchFolders (housed : context.Housed) {folder : Path}
    (relative : folder.isAbsolute = false) {searched : Path}
    (member : searched ∈ Package.searchFolders context.path (context.root.join folder)) :
    searched.isUnder context.root = true :=
  Package.isUnder_of_mem_searchFolders (Package.isUnder_of_mem_rootCandidates housed.above).2
    (Path.isUnder_join _ relative) member

/-- All that a stage looks at is inside the package. -/
theorem Context.Housed.isUnder_of_mem_filesOf (housed : context.Housed) {files : FileSystem}
    (wellNamed : files.isWellNamed = true) {stage : Stage} {path : Path}
    (member : path ∈ filesOf files context stage) : path.isUnder context.root = true := by
  rcases Package.Layout.relative_of_check housed.accepted with ⟨models, logic, grammar, sample⟩
  have source : ∀ (folder : Path) (set : Package.SourceSet), folder.isAbsolute = false →
      path ∈ context.checker.sources.find files
        (Package.searchFolders context.path (context.root.join folder)) set →
      path.isUnder context.root = true := by
    intro folder set relative found
    exact Package.Sources.isUnder_of_mem_find wellNamed
      (fun _ => housed.isUnder_of_mem_searchFolders relative) found
  cases stage with
  | model => exact source _ _ models member
  | logic => exact source _ _ logic member
  | template => exact List.mem_singleton.mp member ▸ Path.isUnder_join _ grammar
  | sample => exact List.mem_singleton.mp member ▸ Path.isUnder_join _ sample

end Pass

end TemplateCheck

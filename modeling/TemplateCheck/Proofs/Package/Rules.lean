import TemplateCheck.Proofs.Members
import TemplateCheck.Proofs.Path.Inside
import TemplateCheck.Proofs.Text.Blank

/-! # The rules of a layout

A layout is accepted exactly if its texts are not blank, its extensions have no leading dot and
differ, and its places stay inside the package. An object is read as a layout by putting its
texts in place of the defaults, so the order of its members makes no difference.
-/

namespace TemplateCheck

namespace Text

/-- What trimming leaves nothing of. -/
theorem trimChars_eq_nil_iff {text : List Char} :
    trimChars text = [] ↔ text.all isBlank = true := by
  induction text with
  | nil => simp [trimChars]
  | cons character rest induction =>
      cases blank : isBlank character with
      | true => rw [trimChars_of_blank blank, induction, List.all_cons, blank, Bool.true_and]
      | false => simp [trimChars_of_visible blank, blank]

end Text

namespace Package.Layout

variable {layout : Layout}

/-! ## Rules -/

def texts (layout : Layout) : List String :=
  [layout.manifestFile, layout.markerKey, layout.modelExtension, layout.logicExtension,
    layout.grammarExtension, layout.modelsFolder.text, layout.logicFolder.text,
    layout.grammarPath.text, layout.samplePath.text]

def extensions (layout : Layout) : List String :=
  [layout.modelExtension, layout.logicExtension, layout.grammarExtension]

/-- The paths that a layout gives below the root of a package. -/
def places (layout : Layout) : List Path :=
  [layout.modelsFolder, layout.logicFolder, layout.grammarPath, layout.samplePath]

/-- A path of names only, and `.` if it begins with that. -/
def IsInside (place : Path) : Prop :=
  ∀ component ∈ place.components, component = .current ∨ ∃ name, component = .name name

/-- A layout that follows the rules. -/
structure WellFormed (layout : Layout) : Prop where
  /-- White space alone is no name. -/
  visible : ∀ text ∈ layout.texts, Text.trimChars text.toList ≠ []
  undotted : ∀ extension ∈ layout.extensions, extension.toList.head? ≠ some '.'
  distinct : layout.extensions.Nodup
  inside : ∀ place ∈ layout.places, IsInside place

/-- A check and what comes behind it. -/
theorem check_bind_eq_ok {fault result : Type} {step : Except fault Unit}
    {next : Unit → Except fault result} {value : result} :
    step >>= next = .ok value ↔ step = .ok () ∧ next () = .ok value := by
  rw [bind_eq_ok]
  exact ⟨fun ⟨⟨⟩, passed, later⟩ => ⟨passed, later⟩, fun ⟨passed, later⟩ => ⟨(), passed, later⟩⟩

theorem checkNonEmpty_eq_ok_iff {field value : String} :
    checkNonEmpty field value = .ok () ↔ Text.trimChars value.toList ≠ [] := by
  rw [Ne, Text.trimChars_eq_nil_iff, checkNonEmpty, Text.isAllBlank]
  split <;> simp [*]

theorem checkExtension_eq_ok_iff {field value : String} :
    checkExtension field value = .ok () ↔
      Text.trimChars value.toList ≠ [] ∧ value.toList.head? ≠ some '.' := by
  rw [checkExtension, check_bind_eq_ok, ← @checkNonEmpty_eq_ok_iff field]
  by_cases dotted : value.toList.head? = some '.' <;> simp [dotted]

theorem staysInside_iff {component : Path.Component} :
    component.staysInside = true ↔ component = .current ∨ ∃ name, component = .name name := by
  cases component <;> simp [Path.Component.staysInside]

theorem checkInside_eq_ok_iff {field : String} {place : Path} :
    checkInside field place = .ok () ↔ Text.trimChars place.text.toList ≠ [] ∧ IsInside place := by
  rw [checkInside, check_bind_eq_ok, ← @checkNonEmpty_eq_ok_iff field]
  simp only [IsInside, ← staysInside_iff, ← List.all_eq_true]
  cases place.components.all Path.Component.staysInside <;> simp

theorem clash_eq_false_iff :
    (layout.modelExtension = layout.logicExtension ||
      layout.modelExtension = layout.grammarExtension ||
      layout.logicExtension = layout.grammarExtension) = false ↔ layout.extensions.Nodup := by
  simp [extensions, not_or, and_assoc]

theorem check_eq_ok_iff : layout.check = .ok () ↔ layout.WellFormed := by
  simp only [check, check_bind_eq_ok, checkNonEmpty_eq_ok_iff, checkExtension_eq_ok_iff]
  constructor
  · rintro ⟨manifest, marker, model, logic, grammar, places⟩
    split at places
    · cases places
    · next apart =>
        simp only [check_bind_eq_ok, checkInside_eq_ok_iff] at places
        exact {
          visible := by simp [texts, *]
          undotted := by simp [extensions, *]
          distinct := clash_eq_false_iff.mp (Bool.eq_false_iff.mpr apart)
          inside := by simp [Layout.places, *] }
  · rintro ⟨visible, undotted, distinct, inside⟩
    simp only [texts, List.forall_mem_cons] at visible
    simp only [extensions, List.forall_mem_cons] at undotted
    simp only [Layout.places, List.forall_mem_cons] at inside
    rw [clash_eq_false_iff.mpr distinct]
    simp [check_bind_eq_ok, checkInside_eq_ok_iff, *]

/-! ## Places -/

theorem IsInside.relative {place : Path} (inside : IsInside place) : place.isAbsolute = false := by
  rw [Bool.eq_false_iff]
  intro absolute
  rcases Path.segments_of_isAbsolute absolute with ⟨rest, segments⟩
  have isRoot : Path.Component.root ∈ place.components := by
    simp [Path.components, segments, Path.firstComponentOf]
  simpa using inside .root isRoot

theorem parent_mem_components {path : Path}
    (member : .parent ∈ path.segments.filterMap Path.componentOf?) :
    .parent ∈ path.components := by
  unfold Path.components
  cases segments : path.segments with
  | nil => simp [segments] at member
  | cons first rest =>
      rw [segments, List.filterMap_cons] at member
      split at member
      · exact List.mem_cons_of_mem _ member
      · next component meant =>
          rcases List.mem_cons.mp member with rfl | later
          · have up : first = ".." := by
              unfold Path.componentOf? at meant
              split at meant
              · cases meant
              · split at meant
                · assumption
                · cases meant
            exact List.mem_cons.mpr (Or.inl (by rw [up]; rfl))
          · exact List.mem_cons_of_mem _ later

/-- What a layout gives below a root is below it, and takes no step up. -/
theorem IsInside.components_join {place : Path} (inside : IsInside place) (root : Path) :
    ∃ more, (root.join place).components = root.components ++ more ∧ .parent ∉ more := by
  have noParent : .parent ∉ place.components := fun member => by
    simpa using inside .parent member
  by_cases empty : root.text = ""
  · refine ⟨place.components, ?_, noParent⟩
    simp [Path.join, inside.relative, empty, Path.components, Path.segments]
  · exact ⟨_, Path.components_join empty inside.relative,
      fun member => noParent (parent_mem_components member)⟩

/-! ## Reading -/

/-- The text that an object gives a name, or else another one. -/
def textOr (members : List (String × Json)) (name other : String) : String :=
  match members.lookup name with
  | some (.str text) => text
  | _ => other

/-- A layout with the texts of an object in place of its own. -/
def overlay (layout : Layout) (members : List (String × Json)) : Layout where
  manifestFile := textOr members "manifest_file" layout.manifestFile
  markerKey := textOr members "marker_key" layout.markerKey
  modelExtension := textOr members "model_extension" layout.modelExtension
  logicExtension := textOr members "logic_extension" layout.logicExtension
  grammarExtension := textOr members "grammar_extension" layout.grammarExtension
  modelsFolder := ⟨textOr members "models_dir" layout.modelsFolder.text⟩
  logicFolder := ⟨textOr members "logic_dir" layout.logicFolder.text⟩
  grammarPath := ⟨textOr members "grammar_file" layout.grammarPath.text⟩
  samplePath := ⟨textOr members "sample_file" layout.samplePath.text⟩

/-- The names that a layout knows. -/
def names : List String :=
  ["manifest_file", "marker_key", "model_extension", "logic_extension", "grammar_extension",
    "models_dir", "logic_dir", "grammar_file", "sample_file"]

/-- An object whose names are known and whose values are texts. -/
def Known (members : List (String × Json)) : Prop :=
  ∀ member ∈ members, member.1 ∈ names ∧ ∃ text, member.2 = .str text

theorem textOr_cons {name text : String} {rest : List (String × Json)}
    (absent : rest.lookup name = none) (asked other : String) :
    textOr rest asked (textOr [(name, .str text)] asked other) =
      textOr ((name, .str text) :: rest) asked other := by
  by_cases same : asked = name
  · simp [textOr, same, absent]
  · have differs : (asked == name) = false := by simpa using same
    simp [textOr, List.lookup_cons, differs]

theorem overlay_cons {name text : String} {rest : List (String × Json)}
    (absent : rest.lookup name = none) (layout : Layout) :
    (layout.overlay [(name, .str text)]).overlay rest =
      layout.overlay ((name, .str text) :: rest) := by
  simp only [overlay, textOr_cons absent]

theorem overlay_nil (layout : Layout) : layout.overlay [] = layout := rfl

theorem map_text_eq_ok_iff {value : Json} {set : String → Layout} {next : Layout} :
    (Decode.text value).map set = .ok next ↔ ∃ text, value = .str text ∧ set text = next := by
  cases value <;> simp [Decode.text, Except.map]

/-- One member of an object, if it can be read, puts its text in its place. -/
theorem readMember_iff {name : String} {value : Json} {layout next : Layout} :
    (∃ field, record.fields.find? (fun field => field.name == name) = some field ∧
      field.read value layout = .ok next) ↔
      name ∈ names ∧ ∃ text, value = .str text ∧ next = layout.overlay [(name, .str text)] := by
  constructor
  · rintro ⟨field, found, read⟩
    have isName : field.name = name := by simpa using List.find?_some found
    have member := List.mem_of_find?_eq_some found
    subst isName
    simp only [record, List.mem_cons, List.not_mem_nil, or_false] at member
    rcases member with rfl | rfl | rfl | rfl | rfl | rfl | rfl | rfl | rfl
    all_goals
      rcases map_text_eq_ok_iff.mp read with ⟨text, isText, rfl⟩
      exact ⟨by decide, text, isText, rfl⟩
  · rintro ⟨known, text, rfl, rfl⟩
    simp only [names, List.mem_cons, List.not_mem_nil, or_false] at known
    rcases known with rfl | rfl | rfl | rfl | rfl | rfl | rfl | rfl | rfl
    all_goals exact ⟨_, rfl, rfl⟩

theorem readMembers_cons {name : String} {value : Json} {rest : List (String × Json)}
    {layout next : Layout} :
    record.readMembers ((name, value) :: rest) layout = .ok next ↔ ∃ middle,
      (∃ field, record.fields.find? (fun field => field.name == name) = some field ∧
        field.read value layout = .ok middle) ∧ record.readMembers rest middle = .ok next := by
  rw [Decode.Record.readMembers]
  cases found : record.fields.find? fun field => field.name == name with
  | none => simp [record]
  | some field => simp [bind_eq_ok]

theorem readMembers_eq_ok_iff {members : List (String × Json)} (once : Members.Once members)
    {layout next : Layout} :
    record.readMembers members layout = .ok next ↔
      Known members ∧ next = layout.overlay members := by
  induction members generalizing layout with
  | nil => simp [Decode.Record.readMembers, Known, overlay_nil, eq_comm]
  | cons member rest induction =>
      rcases member with ⟨name, value⟩
      rcases List.nodup_cons.mp once with ⟨absent, restOnce⟩
      have noName := Members.lookup_eq_none_iff.mpr absent
      simp only [readMembers_cons, readMember_iff, Known, List.forall_mem_cons]
      constructor
      · rintro ⟨middle, ⟨known, text, rfl, rfl⟩, read⟩
        rcases (induction restOnce).mp read with ⟨others, isNext⟩
        exact ⟨⟨⟨known, text, rfl⟩, others⟩, isNext.trans (overlay_cons noName layout)⟩
      · rintro ⟨⟨⟨known, text, rfl⟩, others⟩, isNext⟩
        exact ⟨_, ⟨known, text, rfl, rfl⟩,
          (induction restOnce).mpr ⟨others, isNext.trans (overlay_cons noName layout).symm⟩⟩

/-- An object is read as a layout exactly if its names are known, its values are texts, and the
defaults with these texts in their place follow the rules. -/
theorem decode_eq_ok_iff {members : List (String × Json)} (once : Members.Once members)
    {format : Decode.Format} {layout : Layout} :
    decode format (.obj members) = .ok layout ↔
      Known members ∧ layout = ({} : Layout).overlay members ∧ layout.WellFormed := by
  have isRead : ∀ draft, record.decode format (.obj members) = .ok draft ↔
      Known members ∧ draft = ({} : Layout).overlay members := by
    intro draft
    have complete : record.missing? members = none := rfl
    have initial : record.initial = {} := rfl
    rw [Decode.Record.decode, bind_eq_ok]
    simp [readMembers_eq_ok_iff once, complete, initial, and_assoc, eq_comm]
  rw [decode, bind_eq_ok]
  constructor
  · rintro ⟨draft, read, passed⟩
    rcases (isRead draft).mp read with ⟨known, isDraft⟩
    split at passed
    · next checked =>
        cases passed
        exact ⟨known, isDraft, check_eq_ok_iff.mp checked⟩
    · cases passed
  · rintro ⟨known, isLayout, wellFormed⟩
    exact ⟨layout, (isRead layout).mpr ⟨known, isLayout⟩, by rw [check_eq_ok_iff.mpr wellFormed]⟩

/-- The order of the members makes no difference, nor does the kind of the source. -/
theorem decode_perm {members others : List (String × Json)} (once : Members.Once members)
    (permuted : members.Perm others) {format other : Decode.Format} {layout : Layout} :
    decode format (.obj members) = .ok layout ↔ decode other (.obj others) = .ok layout := by
  have sameTexts : ∀ name default, textOr members name default = textOr others name default := by
    intro name default
    rw [textOr, once.lookup_perm permuted, textOr]
  rw [decode_eq_ok_iff once, decode_eq_ok_iff (once.perm permuted)]
  simp only [Known, overlay, sameTexts, permuted.mem_iff]

end Package.Layout

end TemplateCheck

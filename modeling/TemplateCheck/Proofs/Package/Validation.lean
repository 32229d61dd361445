import Mathlib
import TemplateCheck.Config
import TemplateCheck.Proofs.Package.Rules
import TemplateCheck.Proofs.Toml.Tables

/-! # Layouts in data and in configuration files

An object makes a layout exactly if it follows the rules, and then the layout is the default one
with the texts of the object in their places. The section of a configuration file that has the
same members makes the same layout, or none.
-/

namespace TemplateCheck

namespace Decode.Record

theorem readMembers_append {draft : Type} (record : Record draft)
    (front back : List (String × Json)) (filled : draft) :
    record.readMembers (front ++ back) filled =
      record.readMembers front filled >>= record.readMembers back := by
  induction front generalizing filled with
  | nil => rfl
  | cons member rest induction =>
      rcases member with ⟨name, value⟩
      rw [List.cons_append, readMembers, readMembers]
      cases record.fields.find? fun field => field.name == name with
      | none =>
          dsimp only
          split
          · rfl
          · exact induction filled
      | some field =>
          dsimp only
          cases field.read value filled with
          | error fault => rfl
          | ok next => exact induction next

end Decode.Record

namespace Settings

variable {format : Decode.Format}

/-- The other sections are read in the same way whatever the layout is. -/
theorem readMembers_layout {sections : List (String × Json)}
    (apart : "layout" ∉ sections.map Prod.fst) (layout : Package.Layout) (settings : Settings) :
    (record format).readMembers sections { settings with layout } =
      ((record format).readMembers sections settings).map fun read => { read with layout } := by
  induction sections generalizing settings with
  | nil => rfl
  | cons member rest induction =>
      rcases member with ⟨name, value⟩
      rw [List.map_cons, List.mem_cons, not_or] at apart
      have later := induction apart.2
      rw [Decode.Record.readMembers, Decode.Record.readMembers]
      cases found : (record format).fields.find? fun field => field.name == name with
      | none => rfl
      | some field =>
          have isName : field.name = name := by simpa using List.find?_some found
          have member := List.mem_of_find?_eq_some found
          simp only [record, List.mem_cons, List.not_mem_nil, or_false] at member
          rcases member with rfl | rfl | rfl
          · exact absurd isName apart.1
          · dsimp only
            cases CacheSettings.decode format value with
            | error fault => rfl
            | ok cache => exact later { settings with cache }
          · dsimp only
            cases SessionSettings.decode format value with
            | error fault => rfl
            | ok session => exact later { settings with session }

theorem decode_obj (sections : List (String × Json)) :
    decode format (.obj sections) = (record format).readMembers sections {} := by
  have complete : (record format).missing? sections = none := rfl
  rw [decode, Decode.Record.decode]
  cases read : (record format).readMembers sections (record format).initial with
  | error fault => exact read.symm
  | ok settings =>
      have initial : (record format).initial = {} := rfl
      rw [← initial, read]
      simp [complete, bind, Except.bind]

/-- The section of the layout is read apart from the others. -/
theorem decode_layout {front back : List (String × Json)} {given : Json}
    (once : Members.Once (front ++ ("layout", given) :: back)) {settings : Settings} :
    decode format (.obj (front ++ ("layout", given) :: back)) = .ok settings ↔
      ∃ layout others, Package.Layout.decode format given = .ok layout ∧
        decode format (.obj (front ++ back)) = .ok others ∧ settings = { others with layout } := by
  have apart : "layout" ∉ back.map Prod.fst := by
    rw [Members.Once, List.map_append, List.map_cons, List.nodup_append] at once
    exact (List.nodup_cons.mp once.2.1).1
  have first : ∀ filled, (record format).readMembers (("layout", given) :: back) filled =
      (Package.Layout.decode format given >>= fun layout =>
        ((record format).readMembers back filled).map fun read => { read with layout }) := by
    intro filled
    have found : (record format).fields.find? (fun field => field.name == "layout") =
        (record format).fields.head? := rfl
    rw [Decode.Record.readMembers, found]
    cases read : Package.Layout.decode format given with
    | error fault => simp [record, read, bind, Except.bind, Except.map]
    | ok layout => simpa [record, read, bind, Except.bind, Except.map] using
        readMembers_layout apart layout filled
  simp only [decode_obj, Decode.Record.readMembers_append, Package.bind_eq_ok, first]
  constructor
  · rintro ⟨middle, isFront, layout, isLayout, isBack⟩
    cases isOthers : (record format).readMembers back middle with
    | error fault => simp [isOthers, Except.map] at isBack
    | ok others =>
        rw [isOthers] at isBack
        exact ⟨layout, others, isLayout, ⟨middle, isFront, isOthers⟩, (Except.ok.inj isBack).symm⟩
  · rintro ⟨layout, others, isLayout, ⟨middle, isFront, isOthers⟩, rfl⟩
    exact ⟨middle, isFront, layout, isLayout, by rw [isOthers]; rfl⟩

end Settings

namespace Config

theorem parse_eq_ok_iff {source : Path} {text : String} {settings : Settings} :
    parse source text = .ok settings ↔ ∃ json, Toml.parse text = some json ∧
      Settings.decode Decode.configFormat json = .ok settings := by
  unfold parse
  cases Toml.parse text with
  | none => simp
  | some json => cases read : Settings.decode Decode.configFormat json <;> simp [read]

end Config

namespace Package

open Decode (dataFormat configFormat)

variable {members : List (String × Json)}

/-- The four places of a layout in the package at a root. -/
def Layout.placesBelow (layout : Layout) (root : Path) : List Path :=
  [layout.modelsDirectory root, layout.logicDirectory root, layout.grammarFile root,
    layout.sampleFile root]

theorem Layout.WellFormed.below {layout : Layout} (wellFormed : layout.WellFormed) (root : Path) :
    ∀ path ∈ layout.placesBelow root,
      ∃ more, path.components = root.components ++ more ∧ .parent ∉ more := by
  have below : ∀ place ∈ layout.places, ∃ more,
      (root.join place).components = root.components ++ more ∧ .parent ∉ more :=
    fun place member => (wellFormed.inside place member).components_join root
  simpa [Layout.places, placesBelow, modelsDirectory, logicDirectory, grammarFile, sampleFile]
    using below

/-- What becomes of an object that is given as a layout, in data and in a configuration file. -/
structure Validation (members : List (String × Json)) : Prop where
  accepted_iff : (∃ layout, Layout.decode dataFormat (.obj members) = .ok layout) ↔
    Layout.Known members ∧ (({} : Layout).overlay members).WellFormed
  overlaid : ∀ layout, Layout.decode dataFormat (.obj members) = .ok layout →
    layout = ({} : Layout).overlay members
  below : ∀ layout, Layout.decode dataFormat (.obj members) = .ok layout → ∀ root,
    ∀ path ∈ layout.placesBelow root,
      ∃ more, path.components = root.components ++ more ∧ .parent ∉ more
  /-- A file with the same members in its layout section, in any order, is accepted if its other
  sections are and the object is, and has the layout of the object. -/
  configured : ∀ source text front given back,
    Toml.parse text = some (.obj (front ++ ("layout", .obj given) :: back)) →
    given.Perm members → ∀ settings, Config.parse source text = .ok settings ↔
      ∃ layout others, Layout.decode dataFormat (.obj members) = .ok layout ∧
        Settings.decode configFormat (.obj (front ++ back)) = .ok others ∧
        settings = { others with layout }
  /-- Such a file can be written whenever the values are texts. -/
  written : ∀ texts : List (String × String),
    members = (texts.map fun member => (member.1, .str member.2)) →
    ∀ source settings, Config.parse source (Toml.write "layout" texts) = .ok settings ↔
      ∃ layout, Layout.decode dataFormat (.obj members) = .ok layout ∧ settings = { layout }

theorem configured_of_parse (once : Members.Once members) {source : Path} {text : String}
    {front given back : List (String × Json)}
    (parsed : Toml.parse text = some (.obj (front ++ ("layout", .obj given) :: back)))
    (permuted : given.Perm members) (settings : Settings) :
    Config.parse source text = .ok settings ↔
      ∃ layout others, Layout.decode dataFormat (.obj members) = .ok layout ∧
        Settings.decode configFormat (.obj (front ++ back)) = .ok others ∧
        settings = { others with layout } := by
  have same : ∀ layout, Layout.decode configFormat (.obj given) = .ok layout ↔
      Layout.decode dataFormat (.obj members) = .ok layout :=
    fun layout => Layout.decode_perm (once.perm permuted.symm) permuted
  rw [Config.parse_eq_ok_iff]
  simp only [parsed, Option.some.injEq, exists_eq_left',
    Settings.decode_layout (Toml.once_of_parse parsed), same]

theorem validation (once : Members.Once members) : Validation members where
  accepted_iff := by
    simp only [Layout.decode_eq_ok_iff once]
    exact ⟨fun ⟨layout, known, isLayout, wellFormed⟩ => ⟨known, isLayout ▸ wellFormed⟩,
      fun ⟨known, wellFormed⟩ => ⟨_, known, rfl, wellFormed⟩⟩
  overlaid layout accepted := ((Layout.decode_eq_ok_iff once).mp accepted).2.1
  below layout accepted := ((Layout.decode_eq_ok_iff once).mp accepted).2.2.below
  configured source text front given back parsed permuted settings :=
    configured_of_parse once parsed permuted settings
  written texts isTexts source settings := by
    subst isTexts
    have named : Members.Once texts := by
      rw [Members.Once, List.map_map] at once
      exact once
    have parsed := Toml.parse_write named "layout"
    have alone : Settings.decode configFormat (.obj []) = .ok {} := rfl
    have configured := @configured_of_parse _ once source _ [] _ [] parsed (.refl _) settings
    simpa [alone, @eq_comm Settings {}] using configured

/-! An object, and a configuration file with the same members in another order. -/

namespace Renamed

def given : List (String × Json) :=
  [("logic_extension", .str "logic.x"), ("marker_key", .str " k "), ("models_dir", .str "./m//n")]

def file : String :=
  "[session]\nrevalidate_open_documents = true\n[layout]\nmodels_dir = './m//n'\n" ++
    "'marker_key' = \" k \"\nlogic_extension = \"logic.x\"\n[cache]\n"

def renamed : Layout :=
  { logicExtension := "logic.x", markerKey := " k ", modelsFolder := ⟨"./m//n"⟩ }

theorem parse_file : Toml.parse file =
    some (.obj ([("session", .obj [("revalidate_open_documents", .bool true)])] ++
      ("layout", .obj given.reverse) :: [("cache", .obj [])])) := by
  cbv

theorem validation_renamed :
    Members.Once given ∧ Layout.decode dataFormat (.obj given) = .ok renamed ∧
      Config.parse ⟨"config.toml"⟩ file = .ok { layout := renamed, session := ⟨true⟩ } :=
  have once : Members.Once given := by decide
  have accepted : Layout.decode dataFormat (.obj given) = .ok renamed :=
    eq_ok_of_toOption (by decide +kernel)
  have others : Settings.decode configFormat (.obj ([("session", .obj
      [("revalidate_open_documents", .bool true)])] ++ [("cache", .obj [])])) =
      .ok { session := ⟨true⟩ } := eq_ok_of_toOption (by decide +kernel)
  ⟨once, accepted, ((validation once).configured ⟨"config.toml"⟩ file _ _ _ parse_file
    given.reverse_perm _).mpr ⟨renamed, _, accepted, others, rfl⟩⟩

end Renamed

end Package

end TemplateCheck

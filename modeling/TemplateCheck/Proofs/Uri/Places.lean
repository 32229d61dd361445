import TemplateCheck.Proofs.Uri.Text

/-! # URIs with a place on this machine

What path a URI names depends on its path and its host. Its scheme does not matter: that of files
only comes with a path that starts with a slash, and there others have such paths too.
-/

namespace TemplateCheck.Uri

/-- The path starts with a slash, and no other machine is named. -/
def Placed (uri : Uri) : Prop :=
  uri.path.toList.head? = some '/' ∧ uri.isLocal = true

instance (uri : Uri) : Decidable uri.Placed :=
  inferInstanceAs (Decidable (_ ∧ _))

theorem placed_iff {uri : Uri} : uri.Placed ↔ ∃ path, uri.toPath? = some path := by
  constructor
  · rintro ⟨starts, here⟩
    rcases List.head?_eq_some_iff.mp starts with ⟨rest, isPath⟩
    simp [toPath?, isPath, here]
  · rintro ⟨path, named⟩
    rcases slash_of_toPath? named with ⟨⟨rest, isPath⟩, here⟩
    exact ⟨by simp [isPath], here⟩

theorem not_placed_iff {uri : Uri} : ¬ uri.Placed ↔ uri.toPath? = none := by
  rw [placed_iff, ← Option.isSome_iff_exists, Option.not_isSome_iff_eq_none]

theorem placed_scheme (uri : Uri) (scheme : String) :
    ({ uri with scheme } : Uri).Placed ↔ uri.Placed :=
  Iff.rfl

/-! ## File URIs -/

theorem slash_of_pathAfterSlash (kind : SchemeKind) (input : List Char) :
    (pathAfterSlash kind input).1.head? = some '/' :=
  rfl

theorem slash_of_fileParts {input path : List Char} {authority : Option Authority}
    (parts : fileParts input = some (authority, path)) : path.head? = some '/' := by
  unfold fileParts at parts
  dsimp only at parts
  split at parts
  · split at parts
    · split at parts
      · cases parts
        exact slash_of_pathAfterSlash _ _
      · rcases Option.bind_eq_some_iff.mp parts with ⟨host, -, rest⟩
        cases rest
        exact slash_of_pathAfterSlash _ _
    · split at parts
      · cases parts
        exact slash_of_pathAfterSlash _ _
      · cases parts
        exact slash_of_pathAfterSlash _ _
  · split at parts
    · cases parts
      rfl
    · cases parts
      exact slash_of_pathAfterSlash _ _
  · cases parts
    rfl

theorem slash_of_parse {text : String} {uri : Uri} (parsed : parse text = some uri)
    (isFile : uri.scheme = "file") : uri.path.toList.head? = some '/' := by
  unfold parse at parsed
  rcases Option.bind_eq_some_iff.mp parsed with ⟨⟨scheme, rest⟩, -, parsed⟩
  have ofFile : scheme = "file" → schemeKind scheme = .file := fun isFile => if_pos isFile
  dsimp only at parsed
  generalize schemeKind scheme = kind at parsed ofFile
  cases kind with
  | file =>
      rcases Option.bind_eq_some_iff.mp parsed with ⟨⟨authority, path⟩, parts, built⟩
      cases built
      rw [String.toList_ofList]
      exact slash_of_fileParts parts
  | server =>
      rcases Option.bind_eq_some_iff.mp parsed with ⟨⟨authority, path⟩, -, built⟩
      cases built
      cases ofFile isFile
  | other =>
      rcases Option.bind_eq_some_iff.mp parsed with ⟨⟨authority, path⟩, -, built⟩
      cases built
      cases ofFile isFile

theorem slash_of_ofPath? {path : Path} {uri : Uri} (named : ofPath? path = some uri) :
    uri.path.toList.head? = some '/' := by
  rcases toPath?_ofPath? named with ⟨own, isFile, -⟩
  exact (placed_iff.mpr ⟨own, isFile⟩).1

/-- A file URI that was read or made names a path unless it names another machine. -/
theorem Given.placed_iff_isLocal {uri : Uri} (given : uri.Given) (isFile : uri.scheme = "file") :
    uri.Placed ↔ uri.isLocal = true := by
  have starts : uri.path.toList.head? = some '/' := by
    cases given with
    | read parsed => exact slash_of_parse parsed isFile
    | made named => exact slash_of_ofPath? named
  exact and_iff_right starts

end TemplateCheck.Uri

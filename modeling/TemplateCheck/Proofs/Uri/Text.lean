import TemplateCheck.Proofs.Ordered
import TemplateCheck.Proofs.Text.Blank
import TemplateCheck.Proofs.Uri.RoundTrip
import TemplateCheck.Uri.Parser

/-! # The text of a file URI

Two URIs are the same when they have the same text. A URI that has the text of a path's URI is
the same in all its parts: only the scheme for files has a text that begins like it, and neither
a host nor a query nor a fragment can stand for a part of the path.
-/

namespace TemplateCheck.Uri

/-- A URI that was read from a text or made for a path. -/
inductive Given (uri : Uri) : Prop
  | read {text : String} (parsed : parse text = some uri)
  | made {path : Path} (named : ofPath? path = some uri)

/-- A scheme ends at the first colon, and a file URI has no credentials and no port. -/
structure Formed (uri : Uri) : Prop where
  scheme : ':' ∉ uri.scheme.toList
  file : uri.scheme = "file" → ∃ host, uri.authority = some ⟨"", host, none⟩

/-! ## URIs that are read -/

theorem eq_colon_of_lowerAscii {character : Char} (lower : Text.lowerAscii character = ':') :
    character = ':' := by
  unfold Text.lowerAscii at lower
  split at lower
  · next isUpper =>
      have least : 65 ≤ character.toNat := isUpper.1
      have greatest : character.toNat ≤ 90 := isUpper.2
      have code := congrArg Char.toNat lower
      rw [Text.Utf8.toNat_charOfNat (by omega)] at code
      have colon : ':'.toNat = 58 := rfl
      omega
  · exact lower

theorem colon_not_mem_scheme {input : List Char} {scheme : String} {rest : List Char}
    (found : scheme? input = some (scheme, rest)) : ':' ∉ scheme.toList := by
  unfold scheme? at found
  rcases Option.bind_eq_some_iff.mp found with ⟨⟨before, after⟩, cut, isScheme⟩
  cases before with
  | nil => cases isScheme
  | cons first others =>
      dsimp only at isScheme
      split at isScheme
      · cases isScheme
        rw [String.toList_ofList]
        intro member
        rcases List.mem_map.mp member with ⟨character, inside, lower⟩
        rw [eq_colon_of_lowerAscii lower] at inside
        exact (Text.cutAtFirst_eq_some_iff.mp cut).2 inside
      · cases isScheme

theorem authority_of_fileParts {input path : List Char} {authority : Option Authority}
    (parts : fileParts input = some (authority, path)) :
    ∃ host, authority = some ⟨"", host, none⟩ := by
  unfold fileParts at parts
  dsimp only at parts
  split at parts
  · split at parts
    · split at parts
      · cases parts
        exact ⟨_, rfl⟩
      · rcases Option.bind_eq_some_iff.mp parts with ⟨host, -, rest⟩
        cases rest
        exact ⟨_, rfl⟩
    · split at parts
      · cases parts
        exact ⟨_, rfl⟩
      · cases parts
        exact ⟨_, rfl⟩
  · split at parts
    · cases parts
      exact ⟨_, rfl⟩
    · cases parts
      exact ⟨_, rfl⟩
  · cases parts
    exact ⟨_, rfl⟩

theorem formed_parse {text : String} {uri : Uri} (parsed : parse text = some uri) :
    uri.Formed := by
  unfold parse at parsed
  rcases Option.bind_eq_some_iff.mp parsed with ⟨⟨scheme, rest⟩, found, parsed⟩
  have ofFile : scheme = "file" → schemeKind scheme = .file := fun isFile => if_pos isFile
  dsimp only at parsed
  generalize schemeKind scheme = kind at parsed ofFile
  cases kind with
  | file =>
      rcases Option.bind_eq_some_iff.mp parsed with ⟨⟨authority, path⟩, parts, built⟩
      cases built
      exact ⟨colon_not_mem_scheme found, fun _ => authority_of_fileParts parts⟩
  | server =>
      rcases Option.bind_eq_some_iff.mp parsed with ⟨⟨authority, path⟩, -, built⟩
      cases built
      exact ⟨colon_not_mem_scheme found, fun isFile => nomatch ofFile isFile⟩
  | other =>
      rcases Option.bind_eq_some_iff.mp parsed with ⟨⟨authority, path⟩, -, built⟩
      cases built
      exact ⟨colon_not_mem_scheme found, fun isFile => nomatch ofFile isFile⟩

theorem formed_ofPath? {path : Path} {uri : Uri} (named : ofPath? path = some uri) :
    uri.Formed := by
  unfold ofPath? at named
  split at named
  · cases named
    have noColon : ':' ∉ "file".toList := by decide
    exact ⟨noColon, fun _ => ⟨_, rfl⟩⟩
  · cases named

theorem Given.formed {uri : Uri} (given : uri.Given) : uri.Formed := by
  cases given with
  | read parsed => exact formed_parse parsed
  | made named => exact formed_ofPath? named

/-! ## Equal texts -/

/-- The path of a path's URI has no mark that would begin a query or a fragment. -/
theorem not_mem_written {character : Char} (escaped : character ∈ Percent.segmentSet)
    (noPercent : character ≠ '%') (noDigit : ∀ value < 16, character ≠ Percent.hexDigit value)
    (noDot : character ≠ '.') (noSlash : character ≠ '/') (components : List Path.Component) :
    character ∉ '/' :: ['/'].intercalate (piecesOf componentSegment components) := by
  rw [← flatMap_separator '/' (piecesOf_ne_nil componentSegment components)]
  intro member
  rcases List.mem_flatMap.mp member with ⟨piece, isPiece, inside⟩
  rcases List.mem_cons.mp inside with isSlash | inside
  · exact noSlash isSlash
  · unfold piecesOf at isPiece
    split at isPiece
    · simp [List.mem_singleton.mp isPiece] at inside
    · rcases List.mem_map.mp isPiece with ⟨component, -, rfl⟩
      exact not_mem_componentSegment escaped noPercent noDigit noDot component inside

theorem slash_of_toPath? {uri : Uri} {path : Path} (isFile : uri.toPath? = some path) :
    (∃ rest, uri.path.toList = '/' :: rest) ∧ uri.isLocal = true := by
  unfold toPath? at isFile
  split at isFile
  · next rest text =>
      split at isFile
      · next here => exact ⟨⟨rest, text⟩, here⟩
      · cases isFile
  · cases isFile

theorem scheme_eq_of_text {left right : Uri} (leftFormed : left.Formed)
    (rightFormed : right.Formed) (sameText : left.text = right.text) :
    left.scheme = right.scheme := by
  have cut : ∀ uri : Uri, uri.Formed →
      ∃ rest, Text.cutAtFirst ':' uri.text.toList = some (uri.scheme.toList, rest) := by
    intro uri formed
    have shape : ∃ rest, uri.text.toList = uri.scheme.toList ++ ':' :: rest := by
      simp [text]
    rcases shape with ⟨rest, split⟩
    exact ⟨rest, Text.cutAtFirst_eq_some_iff.mpr ⟨split, formed.scheme⟩⟩
  rcases cut left leftFormed with ⟨_, cutLeft⟩
  rcases cut right rightFormed with ⟨_, cutRight⟩
  rw [sameText, cutRight] at cutLeft
  exact String.toList_inj.mp (congrArg Prod.fst (Option.some.inj cutLeft)).symm

/-- The query and the fragment in the text of a URI. -/
def tailText (query fragment : Option String) : List Char :=
  (match query with
    | some query => '?' :: query.toList
    | none => []) ++
    match fragment with
    | some fragment => '#' :: fragment.toList
    | none => []

theorem toList_text_file (host path : String) (query fragment : Option String) :
    (Uri.mk "file" (some ⟨"", host, none⟩) path query fragment).text.toList =
      "file://".toList ++ (host.toList ++ (path.toList ++ tailText query fragment)) := by
  cases query <;> cases fragment <;> simp [text, Authority.text, pathText, tailText]

/-- A URI that leads to a path and has the text of a path's URI is that URI. -/
theorem eq_of_text {uri named : Uri} {path own : Path} (formed : uri.Formed)
    (isFile : uri.toPath? = some own) (made : ofPath? path = some named)
    (sameText : uri.text = named.text) : uri = named := by
  have sameScheme := scheme_eq_of_text formed (formed_ofPath? made) sameText
  rcases components_of_ofPath? made with ⟨components, shape⟩
  cases (ofPath?_eq shape).symm.trans made
  have noQuery : '?' ∉ '/' :: ['/'].intercalate (piecesOf componentSegment components) :=
    not_mem_written (by decide) (by decide) (by decide) (by decide) (by decide) components
  have noFragment : '#' ∉ '/' :: ['/'].intercalate (piecesOf componentSegment components) :=
    not_mem_written (by decide) (by decide) (by decide) (by decide) (by decide) components
  generalize ['/'].intercalate (piecesOf componentSegment components) = written at *
  rcases slash_of_toPath? isFile with ⟨⟨rest, startsPath⟩, here⟩
  rcases uri with ⟨scheme, authority, ownPath, query, fragment⟩
  dsimp only at sameScheme startsPath
  subst sameScheme
  rcases formed.file rfl with ⟨host, isAuthority⟩
  dsimp only at isAuthority
  subst isAuthority
  have characters := congrArg String.toList sameText
  rw [toList_text_file, toList_text_file] at characters
  have parts : host.toList ++ (ownPath.toList ++ tailText query fragment) = '/' :: written := by
    simpa [tailText] using List.append_cancel_left characters
  have noHost : host = "" := by
    rcases (by simpa [isLocal] using here : host = "" ∨ host = "localhost") with none | isLocalhost
    · exact none
    · simp [isLocalhost] at parts
  subst noHost
  rw [String.toList_empty, List.nil_append] at parts
  rw [← parts] at noQuery noFragment
  cases query with
  | some query => simp [tailText] at noQuery
  | none =>
      cases fragment with
      | some fragment => simp [tailText] at noFragment
      | none =>
          have samePath : ownPath = String.ofList ('/' :: written) := by
            rw [← parts]
            simp [tailText]
          rw [samePath]

/-- URIs of paths are the same just when the paths are. -/
theorem same_ofPath? {left right : Path} {leftUri rightUri : Uri}
    (leftMade : ofPath? left = some leftUri) (rightMade : ofPath? right = some rightUri) :
    leftUri.same rightUri = left.same right := by
  rcases toPath?_ofPath? leftMade with ⟨leftAgain, leftFile, leftSame⟩
  rcases toPath?_ofPath? rightMade with ⟨rightAgain, rightFile, rightSame⟩
  rw [Bool.eq_iff_iff]
  constructor
  · intro same
    cases eq_of_text (formed_ofPath? leftMade) leftFile rightMade (same_iff.mp same)
    cases leftFile.symm.trans rightFile
    exact Path.same_trans (Path.same_symm leftSame) rightSame
  · intro same
    rw [ofPath?_congr same] at leftMade
    cases leftMade.symm.trans rightMade
    exact same_refl leftUri

end TemplateCheck.Uri

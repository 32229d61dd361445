import Mathlib.Data.List.Basic
import TemplateCheck.Proofs.FileSystem.Lookup
import TemplateCheck.Proofs.Roots.Bookkeeping
import TemplateCheck.Proofs.Uri.Percent

/-! # Paths as URIs and back

The URI of an absolute path writes each of its components as one segment. No segment has a slash,
so the segments are found again, and each decodes to its component. The path that comes back may
have a slash more at its end, which says nothing.
-/

namespace TemplateCheck

namespace Path

theorem components_ofList_slash (rest : List Char) :
    (Path.mk (String.ofList ('/' :: rest))).components =
      .root :: ((Text.splitAt '/' rest).map String.ofList).filterMap componentOf? := by
  have text : (Path.mk (String.ofList ('/' :: rest))).text.toList = [] ++ '/' :: rest :=
    String.toList_ofList
  have segments : (Path.mk (String.ofList ('/' :: rest))).segments =
      "" :: (Text.splitAt '/' rest).map String.ofList := by
    rw [segments_of_slash text]
    rfl
  rw [components_eq, segments]
  rfl

/-- A component that is not the root is what its segment means. -/
theorem componentOf?_segment {path : Path} {first component : Component} {rest : List Component}
    (components : path.components = first :: rest) (member : component ∈ rest) :
    componentOf? component.segment = some component ∧ '/' ∉ component.segment.toList := by
  rw [components_eq] at components
  cases segments : path.segments with
  | nil => simp [segments, meaning] at components
  | cons head tail =>
      simp only [segments, meaning, List.cons.injEq] at components
      rw [← components.2] at member
      rcases List.mem_filterMap.mp member with ⟨segment, inside, meant⟩
      rw [segment_componentOf? meant]
      exact ⟨meant, not_mem_segments (segments ▸ List.mem_cons_of_mem head inside)⟩

end Path

namespace Uri

open TemplateCheck.Path (Component)

/-! ## From a path and back -/

theorem not_mem_componentSegment {character : Char}
    (escaped : character ∈ Percent.segmentSet) (noPercent : character ≠ '%')
    (noDigit : ∀ value < 16, character ≠ Percent.hexDigit value) (noDot : character ≠ '.')
    (component : Component) : character ∉ componentSegment component := by
  cases component with
  | root => simp [componentSegment]
  | current => simp [componentSegment, noDot]
  | parent => simp [componentSegment, noDot]
  | name text => exact Percent.not_mem_encode escaped noPercent noDigit text.toList

theorem slash_not_mem_componentSegment (component : Component) :
    '/' ∉ componentSegment component :=
  not_mem_componentSegment (by decide) (by decide) (by decide) (by decide) component

/-- A segment decodes to what it was made from. -/
theorem decode_componentSegment (component : Component) :
    Percent.decode (Text.Utf8.encodeChars (componentSegment component)) =
      Text.Utf8.encodeChars component.segment.toList := by
  cases component with
  | root => rfl
  | current => rfl
  | parent => rfl
  | name text => exact Percent.decode_encode (by decide) text.toList

theorem closeDrive_cases (bytes : List UInt8) :
    closeDrive bytes = bytes ∨ closeDrive bytes = bytes ++ [0x2F] := by
  unfold closeDrive
  split
  · split
    · exact Or.inr rfl
    · exact Or.inl rfl
  · exact Or.inl rfl

/-- Pieces that each follow a separator are divided by separators behind the first one. -/
theorem flatMap_separator {item : Type} (separator : item) {pieces : List (List item)}
    (some : pieces ≠ []) :
    pieces.flatMap (fun piece => separator :: piece) =
      separator :: [separator].intercalate pieces := by
  induction pieces with
  | nil => exact absurd rfl some
  | cons first rest induction =>
      cases rest with
      | nil => simp
      | cons second others =>
          rw [List.flatMap_cons, induction (by simp), List.intercalate_cons_cons]
          simp

/-- The pieces of a path behind its first slash. Those of the root are one empty piece. -/
def piecesOf (write : Component → List Char) (components : List Component) : List (List Char) :=
  if components.isEmpty then [[]] else components.map write

theorem piecesOf_ne_nil (write : Component → List Char) (components : List Component) :
    piecesOf write components ≠ [] := by
  cases components <;> simp [piecesOf]

theorem splitAt_piecesOf {write : Component → List Char} {components : List Component}
    (free : ∀ component ∈ components, '/' ∉ write component) :
    Text.splitAt '/' (['/'].intercalate (piecesOf write components)) =
      piecesOf write components := by
  refine Text.splitAt_intercalate ?_ (piecesOf_ne_nil write components)
  intro piece member
  unfold piecesOf at member
  split at member
  · simp [List.mem_singleton.mp member]
  · rcases List.mem_map.mp member with ⟨component, inside, rfl⟩
    exact free component inside

theorem ofPath?_congr {left right : Path} (same : left.same right = true) :
    ofPath? left = ofPath? right := by
  unfold ofPath?
  rw [Path.same_iff.mp same]

theorem ofPath?_eq {path : Path} {rest : List Component}
    (components : path.components = .root :: rest) :
    ofPath? path = some {
      scheme := "file"
      authority := some ⟨"", "", none⟩
      path := String.ofList ('/' :: ['/'].intercalate (piecesOf componentSegment rest))
      query := none
      fragment := none } := by
  have written : (if (rest.flatMap fun component => '/' :: componentSegment component).isEmpty
      then ['/'] else rest.flatMap fun component => '/' :: componentSegment component) =
      '/' :: ['/'].intercalate (piecesOf componentSegment rest) := by
    rw [← flatMap_separator '/' (piecesOf_ne_nil componentSegment rest)]
    cases rest with
    | nil => rfl
    | cons first others => simp [piecesOf, List.flatMap_map]
  simp only [ofPath?, components, written]

/-- What the segments of a path's URI decode to. -/
theorem decode_piecesOf (components : List Component) :
    (piecesOf componentSegment components).flatMap (fun segment =>
        0x2F :: Percent.decode (Text.Utf8.encodeChars segment)) =
      Text.Utf8.encodeChars
        ('/' :: ['/'].intercalate (piecesOf (fun part => part.segment.toList) components)) := by
  rw [← flatMap_separator '/' (piecesOf_ne_nil _ components)]
  cases components with
  | nil => rfl
  | cons first others =>
      have slash : Text.Utf8.encodeChar '/' = [0x2F] := rfl
      have spread : ∀ pieces : List (List Char),
          Text.Utf8.encodeChars (pieces.flatMap fun piece => '/' :: piece) =
            pieces.flatMap fun piece => 0x2F :: Text.Utf8.encodeChars piece := by
        intro pieces
        simp only [Text.Utf8.encodeChars, List.flatMap_assoc, List.flatMap_cons, slash,
          List.singleton_append]
      rw [spread]
      simp only [piecesOf, List.isEmpty_cons, Bool.false_eq_true, if_false,
        List.flatMap_map, decode_componentSegment]

theorem filterMap_piecesOf {path : Path} {rest : List Component}
    (components : path.components = .root :: rest) :
    ((piecesOf (fun part => part.segment.toList) rest).map String.ofList).filterMap
      Path.componentOf? = rest := by
  cases rest with
  | nil => rfl
  | cons first others =>
      simp only [piecesOf, List.isEmpty_cons, Bool.false_eq_true, if_false, List.map_map,
        List.filterMap_map]
      have each : ∀ component ∈ first :: others,
          (Path.componentOf? ∘ String.ofList ∘ fun part => part.segment.toList) component =
            some component := by
        intro component member
        rw [← (Path.componentOf?_segment components member).1]
        exact congrArg Path.componentOf? String.ofList_toList
      rw [List.filterMap_congr each]
      exact List.filterMap_some

theorem isSome_ofPath?_iff {path : Path} :
    (ofPath? path).isSome = true ↔ path.isAbsolute = true := by
  constructor
  · intro named
    unfold ofPath? at named
    split at named
    · next rest components => exact Path.isAbsolute_of_components components
    · cases named
  · exact isSome_ofPath?

theorem components_of_ofPath? {path : Path} {uri : Uri} (named : ofPath? path = some uri) :
    ∃ rest, path.components = .root :: rest := by
  have absolute : path.isAbsolute = true := isSome_ofPath?_iff.mp (by simp [named])
  exact List.head?_eq_some_iff.mp (Path.isAbsolute_iff_components.mp absolute)

/-- The URI of a path leads back to its components. -/
theorem toPath?_ofPath? {path : Path} {uri : Uri} (named : ofPath? path = some uri) :
    ∃ again, uri.toPath? = some again ∧ again.same path = true := by
  rcases components_of_ofPath? named with ⟨rest, components⟩
  cases (ofPath?_eq components).symm.trans named
  have freeWritten : ∀ component ∈ rest, '/' ∉ componentSegment component :=
    fun component _ => slash_not_mem_componentSegment component
  have freeSpelled : ∀ component ∈ rest, '/' ∉ component.segment.toList :=
    fun component member => (Path.componentOf?_segment components member).2
  refine ⟨⟨Text.Utf8.decodeLossy (closeDrive (Text.Utf8.encodeChars
    ('/' :: ['/'].intercalate (piecesOf (fun part => part.segment.toList) rest))))⟩,
    ?_, ?_⟩
  · simp only [toPath?, String.toList_ofList, isLocal, decide_true, Bool.true_or, if_true,
      splitAt_piecesOf freeWritten, decode_piecesOf]
  · apply Path.same_iff.mpr
    rw [components]
    rcases closeDrive_cases (Text.Utf8.encodeChars
      ('/' :: ['/'].intercalate (piecesOf (fun part => part.segment.toList) rest))) with
      unclosed | closed
    · rw [unclosed, Text.Utf8.decodeLossy_encodeChars,
        Path.components_ofList_slash, splitAt_piecesOf freeSpelled,
        filterMap_piecesOf components]
    · have slash : [0x2F] = Text.Utf8.encodeChars ['/'] := rfl
      rw [closed, slash, ← Text.Utf8.encodeChars_append, Text.Utf8.decodeLossy_encodeChars,
        List.cons_append, Path.components_ofList_slash, Text.splitAt_append,
        splitAt_piecesOf freeSpelled, List.map_append, List.filterMap_append,
        filterMap_piecesOf components]
      simp [Text.splitAt, Path.componentOf?]

end Uri

end TemplateCheck

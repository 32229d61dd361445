import TemplateCheck.Proofs.Path.Climb

/-! # The way to a package

On the way to its package a pass reads the manifest of every directory up to the root. If the
layout names the manifest by a relative path, these are all inside the package, because each of
the directories is. An absolute path stands for the manifest of every directory: it is the one
file that is read, and it may be anywhere.
-/

namespace TemplateCheck

namespace Package

variable {files : FileSystem} {layout : Layout} {path root : Path}

/-- The manifest has a relative path in the layout, or an absolute one at or below a root. -/
def Layout.KeepsManifest (layout : Layout) (root : Path) : Prop :=
  (Path.mk layout.manifestFile).isAbsolute = true →
    (Path.mk layout.manifestFile).isUnder root = true

instance (layout : Layout) (root : Path) : Decidable (layout.KeepsManifest root) :=
  inferInstanceAs (Decidable (_ → _))

theorem Layout.manifestIn_of_isAbsolute
    (absolute : (Path.mk layout.manifestFile).isAbsolute = true) (folder : Path) :
    layout.manifestIn folder = ⟨layout.manifestFile⟩ :=
  if_pos absolute

/-- A search reads the manifest of the root that it finds, and before it only manifests of
directories below. -/
theorem manifestsRead_eq_map (found : findRoot? files layout path = some root) :
    ∃ folders : List Path, manifestsRead files layout path = folders.map layout.manifestIn ∧
      root ∈ folders ∧ ∀ folder ∈ folders, folder ∈ rootCandidates path ∧
        folder.isUnder root = true := by
  rcases manifestsRead_of_findRoot? found with ⟨passed, higher, split, manifests⟩
  have nested : (rootCandidates path).Pairwise fun lower higher => lower.isUnder higher = true :=
    (Path.pairwise_ancestors _).filter _
  rw [split] at nested
  refine ⟨passed ++ [root], manifests, by simp, fun folder member => ?_⟩
  rcases List.mem_append.mp member with lower | atRoot
  · exact ⟨by simp [split, lower], (List.pairwise_append.mp nested).2.2 folder lower root
      List.mem_cons_self⟩
  · cases List.mem_singleton.mp atRoot
    exact ⟨mem_rootCandidates_of_findRoot? found, Path.isUnder_refl root⟩

/-- What a search reads is at or below the root that it finds, unless the layout has an absolute
path that is not. -/
theorem isUnder_manifestsRead_iff (found : findRoot? files layout path = some root) :
    (∀ manifest ∈ manifestsRead files layout path, manifest.isUnder root = true) ↔
      layout.KeepsManifest root := by
  rcases manifestsRead_eq_map found with ⟨folders, manifests, hasRoot, below⟩
  simp only [manifests, List.forall_mem_map]
  constructor
  · intro inside absolute
    exact layout.manifestIn_of_isAbsolute absolute root ▸ inside root hasRoot
  · intro keeps folder member
    cases absolute : (Path.mk layout.manifestFile).isAbsolute with
    | true => exact layout.manifestIn_of_isAbsolute absolute folder ▸ keeps absolute
    | false => exact Path.isUnder_trans (Path.isUnder_join folder absolute) (below folder member).2

end Package

namespace Pass.Context

variable {files : FileSystem} {context : Context}

theorem Sited.manifestsRead_eq (sited : context.Sited files) :
    manifestsRead files context.checker context.document =
      Package.manifestsRead files context.layout context.path := by
  simp only [manifestsRead, sited.isFile]
  rfl

theorem Sited.isAbsolute_of_mem_manifestsRead (sited : context.Sited files) {manifest : Path}
    (read : manifest ∈ manifestsRead files context.checker context.document) :
    manifest.isAbsolute = true := by
  rcases Package.manifestsRead_eq_map sited.found with ⟨folders, manifests, -, candidates⟩
  rw [sited.manifestsRead_eq, manifests] at read
  rcases List.mem_map.mp read with ⟨folder, member, rfl⟩
  exact Path.isAbsolute_join (Package.isAbsolute_of_mem_rootCandidates
    (Uri.isAbsolute_toPath? sited.isFile) (candidates folder member).1) _

end Pass.Context

end TemplateCheck

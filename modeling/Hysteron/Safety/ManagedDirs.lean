import Hysteron.Postgres.PathSafety
import Hysteron.Util.Hex

/-!
Who can remove whose directories. A keeper removes its data directory, its configured WAL directory
and, in every root of tablespaces, only what is at or below its own subdirectory. That subdirectory
has the name of the keeper's data directory, without the directories above it, so that two keepers of
a host own separate directories only if their configurations keep them apart.
-/

namespace Hysteron
namespace Postgres

open FilePath

variable {p : Manager} {disk : Disk} {path root : Path}

/-! ## Validated directories -/

section HasPathPrefix

variable {parent : Path} (habs : isAbs path = true) (hparent : isAbs parent = true)

include habs hparent

theorem hasPathPrefix_iff : hasPathPrefix path parent = true ↔ names parent <+: names path := by
  unfold hasPathPrefix
  constructor
  . intro h
    by_contra hnot
    obtain ⟨rest, hrel⟩ := rel_of_not_isPrefix hparent habs hnot
    rw [hrel] at h
    cases rest with
    | nil => simp at h
    | cons next rest => simp [List.intercalate_cons_cons] at h
  . intro h
    rcases rel_of_isPrefix hparent habs h with hrel | ⟨first, rest, hrel, hcleaned⟩
    . rw [hrel]
      rfl
    . have hfirst := (hcleaned first List.mem_cons_self).2 rfl
      have hsplit : (['/'].intercalate (first :: rest)).splitOn '/' = first :: rest :=
        List.splitOn_intercalate '/' (fun name hmem => (hcleaned name hmem).1.no_slash)
          (List.cons_ne_nil _ _)
      rw [hrel]
      have hup : ['/'].intercalate (first :: rest) ≠ ['.', '.'] := by
        intro heq
        rw [heq, splitOn_of_no_slash (by decide)] at hsplit
        exact hfirst (List.cons_eq_cons.mp hsplit).1.symm
      have hout : ¬ ['.', '.', '/'] <+: ['/'].intercalate (first :: rest) := by
        rintro ⟨tail, heq⟩
        rw [← heq] at hsplit
        have hcut : (['.', '.', '/'] ++ tail).splitOn '/' = ['.', '.'] :: tail.splitOn '/' :=
          splitOn_append ['.', '.'] tail
        exact hfirst (List.cons_eq_cons.mp (hcut.symm.trans hsplit)).1.symm
      simp [hup, Bool.eq_false_iff, List.isPrefixOf_iff_prefix, hout]

end HasPathPrefix

structure Removable (path : Path) : Prop where
  isAbs : isAbs path = true
  names_ne_nil : names path ≠ []

theorem removable_of_validateRemovablePath {kind : String}
    (h : validateRemovablePath path kind = .ok ()) : Removable path := by
  unfold validateRemovablePath at h
  split at h
  next => cases h
  next =>
    split at h
    next => cases h
    next habs =>
      rw [isAbs_clean, Bool.not_eq_false] at habs
      refine ⟨habs, fun hnil => ?_⟩
      -- the root is its own directory
      rw [clean_eq_slash habs hnil, if_neg (by decide), if_pos (by rfl)] at h
      cases h

structure Validated (p : Manager) : Prop where
  dataDir : Removable p.dataDir
  walDir : Removable p.walDir
  dataDir_walDir : p.walDirConfigured = true → ¬ names p.walDir <+: names p.dataDir
  root : ∀ root ∈ p.tablespaceDirRoots, Removable root
  dataDir_root : ∀ root ∈ p.tablespaceDirRoots, ¬ names root <+: names p.dataDir

theorem validateTablespaceDirRoots_eq_ok {roots : List Path} (hdata : isAbs p.dataDir = true)
    (h : validateTablespaceDirRoots p roots = .ok ())
    : ∀ root ∈ roots, Removable root ∧ ¬ names root <+: names p.dataDir := by
  induction roots with
  | nil => simp
  | cons root rest ih =>
    rw [validateTablespaceDirRoots, Except.bind_eq_ok_iff] at h
    obtain ⟨⟨⟩, hroot, h⟩ := h
    have hremovable := removable_of_validateRemovablePath hroot
    split at h
    next => cases h
    next hoverlap =>
      split at h
      next => cases h
      next =>
        intro other hmem
        rcases List.mem_cons.mp hmem with rfl | hmem
        . refine ⟨hremovable, ?_⟩
          rw [← hasPathPrefix_iff hdata hremovable.isAbs]
          intro hin
          exact hoverlap (by simp [hin])
        . exact ih h other hmem

theorem Validated.of_validateManagedDirs (h : validateManagedDirs p = .ok ()) : Validated p := by
  simp only [validateManagedDirs, Except.bind_eq_ok_iff] at h
  obtain ⟨⟨⟩, hdata, ⟨⟩, hwal, ⟨⟩, hoverlap, hroots⟩ := h
  replace hdata := removable_of_validateRemovablePath hdata
  replace hwal := removable_of_validateRemovablePath hwal
  replace hroots := validateTablespaceDirRoots_eq_ok hdata.isAbs hroots
  refine ⟨hdata, hwal, ?_, fun root hmem => (hroots root hmem).1,
    fun root hmem => (hroots root hmem).2⟩
  intro hconfigured
  rw [← hasPathPrefix_iff hdata.isAbs hwal.isAbs]
  intro hin
  simp only [validateWalDir, hconfigured, hin, Bool.true_eq_false, if_false, if_true] at hoverlap
  split at hoverlap <;> cases hoverlap

/-! ## The keeper's own subdirectories -/

theorem exists_dataDir_eq_clean (dataDir walDir : Path) (roots : List Path)
    : ∃ text, (newManager dataDir walDir roots).dataDir = clean text :=
  exists_join_eq_clean ⟨"postgres".toList, by simp, by decide⟩

theorem keeperDir_eq_slash_or_isName {text : Path} (hp : p.dataDir = clean text)
    (habs : isAbs p.dataDir = true)
    : p.keeperDir = ['/'] ∨ (IsName p.keeperDir ∧ p.keeperDir ≠ ['.', '.']) := by
  rw [hp, isAbs_clean] at habs
  obtain ⟨parent, hdir, hparent, -⟩ := exists_dir_clean habs
  have hcleaned := cleaned_names parent
  rw [hparent] at hcleaned
  rw [Manager.keeperDir, hp, hdir]
  rcases base_clean hparent with h | h
  . exact .inl h
  . exact .inr ⟨(hcleaned _ h).1, (hcleaned _ h).2 rfl⟩

theorem isAbs_ownedRoot (p : Manager) (hroot : isAbs root = true) : isAbs (p.ownedRoot root) = true :=
  isAbs_join_cons hroot _

theorem isPrefix_names_ownedRoot {text : Path} (hp : p.dataDir = clean text)
    (habs : isAbs p.dataDir = true) (hroot : isAbs root = true)
    : names root <+: names (p.ownedRoot root) := by
  have hne : root ≠ [] := fun hnil => by simp [hnil, isAbs] at hroot
  have habs' : isAbs (root ++ '/' :: p.keeperDir) = true := by rw [isAbs_append hne, hroot]
  have hjoin : p.ownedRoot root = clean (root ++ '/' :: p.keeperDir) := by
    rw [Manager.ownedRoot, join_cons hne, List.intercalate_cons_cons]
    simp
  rw [hjoin, names_clean habs', names_append hroot]
  rcases keeperDir_eq_slash_or_isName hp habs with h | ⟨hname, hup⟩
  . have hsplit : List.splitOn '/' ['/'] = [[], []] := rfl
    simp [h, hsplit]
  . simp [splitOn_of_no_slash hname.no_slash, step_name hname hup]

/-! ## What is removed -/

theorem isManaged_of_mem_removeTargets {seen : List Path} {links : List LinkAnswer}
    (h : path ∈ (removeTargets p disk seen links).1)
    : ∃ target, path = resolveLink p target ∧ isManagedTablespacePath p path = true := by
  induction links generalizing seen with
  | nil => simp [removeTargets] at h
  | cons link rest ih =>
    cases link with
    | notExist => exact ih h
    | failed => simp [removeTargets] at h
    | target target =>
      rw [removeTargets] at h
      dsimp only at h
      split at h
      next => exact ih h
      next hmanaged =>
        rw [Bool.not_eq_false] at hmanaged
        split at h
        next => exact ih h
        next =>
          split at h
          next => exact ⟨target, by simpa using h, by simpa [List.mem_singleton.mp h] using hmanaged⟩
          next =>
            rcases List.mem_cons.mp h with rfl | h
            . exact ⟨target, rfl, hmanaged⟩
            . exact ih h

theorem isManaged_of_mem_removeManagedTablespaceTargets
    (h : path ∈ (removeManagedTablespaceTargets p disk).1)
    : ∃ target, path = resolveLink p target ∧ isManagedTablespacePath p path = true := by
  unfold removeManagedTablespaceTargets at h
  split at h
  next => simp at h
  next =>
    split at h
    next => simp at h
    next => simp at h
    next => exact isManaged_of_mem_removeTargets h

theorem mem_removeManagedDirs (h : path ∈ (removeManagedDirs p disk).1)
    : validateManagedDirs p = .ok ()
        ∧
      (path = p.dataDir
        ∨
      (p.walDirConfigured = true ∧ path = p.walDir)
        ∨
      ∃ target, path = resolveLink p target ∧ isManagedTablespacePath p path = true) := by
  unfold removeManagedDirs at h
  split at h
  next => simp at h
  next hvalid =>
    refine ⟨hvalid, ?_⟩
    have htarget : path ∈ (removeManagedTablespaceTargets p disk).1 → _ :=
      isManaged_of_mem_removeManagedTablespaceTargets
    split at h
    next heq =>
      rw [heq] at htarget
      exact .inr (.inr (htarget h))
    next heq =>
      rw [heq] at htarget
      split at h
      next =>
        rcases List.mem_append.mp h with h | h
        . exact .inr (.inr (htarget h))
        . exact .inl (List.mem_singleton.mp h)
      next =>
        split at h
        next hwal =>
          rcases List.mem_append.mp h with h | h
          . exact .inr (.inr (htarget h))
          . rcases List.mem_cons.mp h with h | h
            . exact .inl h
            . exact .inr (.inl ⟨(Bool.and_eq_true_iff.mp hwal).1, List.mem_singleton.mp h⟩)
        next =>
          rcases List.mem_append.mp h with h | h
          . exact .inr (.inr (htarget h))
          . exact .inl (List.mem_singleton.mp h)

theorem isAbs_resolveLink (hdata : isAbs p.dataDir = true) (target : Path)
    : isAbs (resolveLink p target) = true := by
  unfold resolveLink
  dsimp only
  rw [isAbs_clean]
  split
  next h => exact h
  next => exact isAbs_join_cons (isAbs_join_cons hdata _) _

theorem selectTablespaceRootForPath_mem (h : p.tablespaceDirRoots ≠ []) (path : Path)
    : selectTablespaceRootForPath p path ∈ p.tablespaceDirRoots := by
  unfold selectTablespaceRootForPath
  split
  next hfind => exact List.mem_of_find?_eq_some hfind
  next =>
    obtain ⟨first, rest, heq⟩ := List.exists_cons_of_ne_nil h
    simp [heq]

theorem mem_mapLocations {locations : List Path} (hroots : p.tablespaceDirRoots ≠ [])
    (h : path ∈ (mapLocations p disk locations).1)
    : ∃ root ∈ p.tablespaceDirRoots, ∃ oldDir, path = tablespaceMappedPath p root oldDir := by
  induction locations with
  | nil => simp [mapLocations] at h
  | cons oldDir rest ih =>
    have hroot := selectTablespaceRootForPath_mem hroots oldDir
    rw [mapLocations] at h
    dsimp only at h
    split at h
    next => exact ⟨_, hroot, oldDir, List.mem_singleton.mp h⟩
    next =>
      split at h
      next => exact ⟨_, hroot, oldDir, List.mem_singleton.mp h⟩
      next =>
        rcases List.mem_cons.mp h with h | h
        . exact ⟨_, hroot, oldDir, h⟩
        . exact ih h

theorem mem_tablespaceMappingsForBasebackup {locations : Option (List Path)}
    (h : path ∈ (tablespaceMappingsForBasebackup p disk locations).1)
    : ∃ root ∈ p.tablespaceDirRoots, ∃ oldDir, path = tablespaceMappedPath p root oldDir := by
  unfold tablespaceMappingsForBasebackup at h
  split at h
  next => simp at h
  next hroots =>
    split at h
    next => simp at h
    next => exact mem_mapLocations hroots h

/-! ## Names of mapped directories -/

theorem no_slash_of_mem_toDigits (n : Nat) : '/' ∉ Nat.toDigits 16 n := by
  intro hmem
  have hupper := (Hex.format_spec n).1 _ (List.mem_map_of_mem hmem)
  revert hupper
  decide

theorem no_slash_pathHash (path : Path) : '/' ∉ pathHash path := by
  unfold pathHash
  rw [List.leftpad, List.mem_append, List.mem_replicate]
  rintro (⟨-, h⟩ | h)
  . revert h
    decide
  . exact no_slash_of_mem_toDigits _ h

theorem no_slash_sanitizePathComponent (name : Path) : '/' ∉ sanitizePathComponent name := by
  unfold sanitizePathComponent
  split
  next => decide
  next =>
    rw [List.mem_map]
    rintro ⟨c, -, hc⟩
    split at hc
    next => revert hc; decide
    next hnot => exact hnot (.inr (.inl hc))

theorem isName_mapped (name path : Path)
    : IsName (sanitizePathComponent name ++ '-' :: pathHash path)
        ∧
      sanitizePathComponent name ++ '-' :: pathHash path ≠ ['.', '.'] := by
  -- the hyphen sets it apart from the elements with a meaning
  have hne (text : Path) (htext : '-' ∉ text)
      : sanitizePathComponent name ++ '-' :: pathHash path ≠ text := by
    rintro rfl
    exact htext (by simp)
  refine ⟨⟨hne [] (by simp), hne _ (by decide), ?_⟩, hne _ (by decide)⟩
  simp [no_slash_sanitizePathComponent, no_slash_pathHash]

theorem within_ownedRoot_tablespaceMappedPath (cwd : Path) (p : Manager) (root oldDir : Path)
    : Within cwd (tablespaceMappedPath p root oldDir) (p.ownedRoot root) := by
  obtain ⟨hname, hup⟩ := isName_mapped (base oldDir) oldDir
  have hne : ∃ elem ∈ [root, p.keeperDir], elem ≠ [] := ⟨p.keeperDir, by simp, base_ne_nil _⟩
  have hjoin := position_join_concat cwd hne hname hup
  exact ⟨_, hjoin.symm⟩

/-! ## Regions -/

def regions (p : Manager) : List Path :=
  p.dataDir :: (if p.walDirConfigured then [p.walDir] else [])
    ++ p.tablespaceDirRoots.map p.ownedRoot

def Deletes (p : Manager) (path : Path) : Prop :=
  (∃ disk, path ∈ (removeManagedDirs p disk).1)
    ∨
  ∃ disk locations, path ∈ (tablespaceMappingsForBasebackup p disk locations).1

def RemovesOwn (cwd : Path) (p : Manager) : Prop :=
  ∀ (disk : Disk) (path : Path), path ∈ (removeManagedDirs p disk).1 →
    validateManagedDirs p = .ok ()
      ∧
    (path = p.dataDir
      ∨
    (p.walDirConfigured = true ∧ path = p.walDir)
      ∨
    ∃ root ∈ p.tablespaceDirRoots, Within cwd path (p.ownedRoot root))
      ∧
    position cwd path ≠ []
      ∧
    ¬ (Within cwd (dir p.dataDir) path ∧ position cwd path ≠ position cwd (dir p.dataDir))

def Apart (cwd : Path) (p q : Manager) : Prop :=
  (∀ (path : Path), Deletes p path → ∀ region ∈ regions q, ¬ Overlap cwd path region)
    ∧
  (∀ (path : Path), Deletes q path → ∀ region ∈ regions p, ¬ Overlap cwd path region)

def DisjointRegions (cwd : Path) (p q : Manager) : Prop :=
  ∀ region ∈ regions p, ∀ other ∈ regions q, ¬ Overlap cwd region other

instance (cwd : Path) (p q : Manager) : Decidable (DisjointRegions cwd p q) :=
  inferInstanceAs (Decidable (∀ region ∈ _, ∀ other ∈ _, ¬ _))

theorem mem_regions {region : Path}
    : region ∈ regions p
        ↔
      region = p.dataDir
        ∨
      (p.walDirConfigured = true ∧ region = p.walDir)
        ∨
      ∃ root ∈ p.tablespaceDirRoots, p.ownedRoot root = region := by
  cases h : p.walDirConfigured <;> simp [regions, h]

theorem within_ownedRoot_of_isManaged {target cwd : Path} (hvalid : Validated p)
    (h : isManagedTablespacePath p (resolveLink p target) = true)
    : ∃ root ∈ p.tablespaceDirRoots, Within cwd (resolveLink p target) (p.ownedRoot root) := by
  obtain ⟨root, hmem, hin⟩ := List.any_eq_true.mp h
  have habs := isAbs_resolveLink hvalid.dataDir.isAbs target
  have howned := isAbs_ownedRoot p (hvalid.root root hmem).isAbs
  refine ⟨root, hmem, ?_⟩
  rw [Within, position_of_isAbs habs, position_of_isAbs howned]
  exact (hasPathPrefix_iff habs howned).mp hin

theorem Deletes.within {cwd : Path} (h : Deletes p path)
    : ∃ region ∈ regions p, Within cwd path region := by
  rcases h with ⟨disk, h⟩ | ⟨disk, locations, h⟩
  . obtain ⟨hvalid, h⟩ := mem_removeManagedDirs h
    rcases h with rfl | ⟨hwal, rfl⟩ | ⟨target, rfl, hmanaged⟩
    . exact ⟨_, mem_regions.mpr (.inl rfl), List.prefix_rfl⟩
    . exact ⟨_, mem_regions.mpr (.inr (.inl ⟨hwal, rfl⟩)), List.prefix_rfl⟩
    . obtain ⟨root, hmem, hin⟩ :=
        within_ownedRoot_of_isManaged (.of_validateManagedDirs hvalid) hmanaged
      exact ⟨_, mem_regions.mpr (.inr (.inr ⟨root, hmem, rfl⟩)), hin⟩
  . obtain ⟨root, hmem, oldDir, rfl⟩ := mem_tablespaceMappingsForBasebackup h
    exact ⟨_, mem_regions.mpr (.inr (.inr ⟨root, hmem, rfl⟩)),
      within_ownedRoot_tablespaceMappedPath cwd p root oldDir⟩

theorem Apart.of_disjointRegions {cwd : Path} {q : Manager} (h : DisjointRegions cwd p q)
    : Apart cwd p q := by
  constructor
  . intro path hdeletes other hother hoverlap
    obtain ⟨region, hregion, hin⟩ := hdeletes.within
    exact h region hregion other hother (.of_overlap hin hoverlap)
  . intro path hdeletes region hregion hoverlap
    obtain ⟨other, hother, hin⟩ := hdeletes.within
    exact h region hregion other hother (Overlap.of_overlap hin hoverlap).symm

def diskWithTarget (target : Path) : Disk :=
  { pgTblspc := .entries [.target target]
    removeAll := fun _ => true
    mkdirAll := fun _ => true }

theorem removeManagedTablespaceTargets_diskWithTarget (p : Manager) (target : Path)
    : ∃ targets, removeManagedTablespaceTargets p (diskWithTarget target) = (targets, .ok ())
        ∧
      (isManagedTablespacePath p (resolveLink p target) = true → resolveLink p target ∈ targets) := by
  unfold removeManagedTablespaceTargets
  split
  next hroots => exact ⟨[], rfl, by simp [isManagedTablespacePath, hroots]⟩
  next =>
    cases hmanaged : isManagedTablespacePath p (resolveLink p target) with
    | false => exact ⟨[], by simp [diskWithTarget, removeTargets, hmanaged], by simp⟩
    | true => exact ⟨[_], by simp [diskWithTarget, removeTargets, hmanaged]; rfl, by simp⟩

theorem mem_removeManagedDirs_diskWithTarget {target : Path}
    (hvalid : validateManagedDirs p = .ok ())
    (h : path = p.dataDir
        ∨
      (p.walDirConfigured = true ∧ path = p.walDir)
        ∨
      (path = resolveLink p target ∧ isManagedTablespacePath p path = true))
    : path ∈ (removeManagedDirs p (diskWithTarget target)).1 := by
  obtain ⟨targets, htargets, hmem⟩ := removeManagedTablespaceTargets_diskWithTarget p target
  have hremoved (path : Path) : ¬ (diskWithTarget target).removeAll path = false := by
    simp [diskWithTarget]
  unfold removeManagedDirs
  rw [hvalid]
  dsimp only
  rw [htargets]
  dsimp only
  rw [if_neg (hremoved _)]
  rcases h with rfl | ⟨hwal, rfl⟩ | ⟨rfl, hmanaged⟩
  . split <;> simp
  . by_cases heq : p.walDir = p.dataDir
    . rw [heq]
      simp
    . simp [hwal, heq]
  . have hin := hmem hmanaged
    split <;> simp [hin]

theorem exists_deletes_of_mem_regions {region : Path} (cwd : Path)
    (hvalid : validateManagedDirs p = .ok ()) (h : region ∈ regions p)
    : ∃ path, Deletes p path ∧ position cwd path = position cwd region := by
  rcases mem_regions.mp h with rfl | ⟨hwal, rfl⟩ | ⟨root, hmem, rfl⟩
  . refine ⟨p.dataDir, .inl ⟨diskWithTarget [], ?_⟩, rfl⟩
    exact mem_removeManagedDirs_diskWithTarget hvalid (.inl rfl)
  . refine ⟨p.walDir, .inl ⟨diskWithTarget [], ?_⟩, rfl⟩
    exact mem_removeManagedDirs_diskWithTarget hvalid (.inr (.inl ⟨hwal, rfl⟩))
  . have howned := isAbs_ownedRoot p ((Validated.of_validateManagedDirs hvalid).root root hmem).isAbs
    have hresolved : resolveLink p (p.ownedRoot root) = clean (p.ownedRoot root) := by
      simp [resolveLink, howned]
    refine ⟨clean (p.ownedRoot root), .inl ⟨diskWithTarget (p.ownedRoot root), ?_⟩,
      position_clean cwd _⟩
    refine mem_removeManagedDirs_diskWithTarget hvalid (.inr (.inr ⟨hresolved.symm, ?_⟩))
    apply List.any_eq_true.mpr
    refine ⟨root, hmem, (hasPathPrefix_iff (by rw [isAbs_clean, howned]) howned).mpr ?_⟩
    rw [names_clean howned]

theorem DisjointRegions.of_apart {cwd : Path} {q : Manager} (h : Apart cwd p q)
    (hvalid : validateManagedDirs p = .ok () ∨ validateManagedDirs q = .ok ())
    : DisjointRegions cwd p q := by
  intro region hregion other hother hoverlap
  rcases hvalid with hvalid | hvalid
  . obtain ⟨path, hdeletes, hposition⟩ := exists_deletes_of_mem_regions cwd hvalid hregion
    refine h.1 path hdeletes other hother ?_
    rwa [Overlap, Within, Within, hposition]
  . obtain ⟨path, hdeletes, hposition⟩ := exists_deletes_of_mem_regions cwd hvalid hother
    refine h.2 path hdeletes region hregion ?_
    rw [Overlap, Within, Within, hposition]
    exact hoverlap.symm

/-! ## One keeper -/

theorem exists_isPrefix_of_mem_removeManagedDirs {text : Path} (hp : p.dataDir = clean text)
    (h : path ∈ (removeManagedDirs p disk).1)
    : isAbs path = true
        ∧
      ∃ top, names top ≠ [] ∧ names top <+: names path
        ∧ (names top <+: names p.dataDir → top = p.dataDir) := by
  obtain ⟨hvalid, h⟩ := mem_removeManagedDirs h
  replace hvalid := Validated.of_validateManagedDirs hvalid
  have hdata := hvalid.dataDir.isAbs
  rcases h with rfl | ⟨hwal, rfl⟩ | ⟨target, rfl, hmanaged⟩
  . exact ⟨hdata, p.dataDir, hvalid.dataDir.names_ne_nil, List.prefix_rfl, fun _ => rfl⟩
  . exact ⟨hvalid.walDir.isAbs, p.walDir, hvalid.walDir.names_ne_nil, List.prefix_rfl,
      fun hin => absurd hin (hvalid.dataDir_walDir hwal)⟩
  . obtain ⟨root, hmem, hin⟩ := List.any_eq_true.mp hmanaged
    have habs := isAbs_resolveLink hdata target
    have hroot := hvalid.root root hmem
    rw [hasPathPrefix_iff habs (isAbs_ownedRoot p hroot.isAbs)] at hin
    exact ⟨habs, root, hroot.names_ne_nil, (isPrefix_names_ownedRoot hp hdata hroot.isAbs).trans hin,
      fun hin => absurd hin (hvalid.dataDir_root root hmem)⟩

theorem removesOwn_of_dataDir_eq_clean {text : Path} (cwd : Path) (hp : p.dataDir = clean text)
    : RemovesOwn cwd p := by
  intro disk path h
  obtain ⟨habs, top, hne, htop, habove⟩ := exists_isPrefix_of_mem_removeManagedDirs hp h
  obtain ⟨hvalid, h⟩ := mem_removeManagedDirs h
  have hvalid' := Validated.of_validateManagedDirs hvalid
  refine ⟨hvalid, ?_, ?_, ?_⟩
  . rcases h with h | h | ⟨target, rfl, hmanaged⟩
    . exact .inl h
    . exact .inr (.inl h)
    . exact .inr (.inr (within_ownedRoot_of_isManaged hvalid' hmanaged))
  . rw [position_of_isAbs habs]
    exact fun hnil => hne (List.prefix_nil.mp (hnil ▸ htop))
  . rintro ⟨hin, -⟩
    have htext : isAbs text = true := by
      rw [← isAbs_clean, ← hp]
      exact hvalid'.dataDir.isAbs
    obtain ⟨parent, hdir, hparent, hnames⟩ := exists_dir_clean htext
    have hdata : names p.dataDir = names text := by rw [hp, names_clean htext]
    rw [Within, position_of_isAbs habs, hp, hdir, position_clean, position_of_isAbs hparent,
      hnames, ← hdata] at hin
    -- a path above the parent would contain the data directory
    have hshort : names p.dataDir <+: (names p.dataDir).dropLast := by
      have heq := habove ((htop.trans hin).trans (List.dropLast_prefix _))
      rw [heq] at htop
      exact htop.trans hin
    have hlength := hshort.length_le
    have hpos := List.length_pos_iff.mpr hvalid'.dataDir.names_ne_nil
    rw [List.length_dropLast] at hlength
    omega

/-! ## Two keepers -/

/--
A keeper's removals stay in its own validated directories. Two keepers do not remove each other's
paths if no directory of one is a directory of the other or above it, and if one of them has been
validated, only then.
-/
theorem removals_apart_iff (cwd dataDir walDir dataDir' walDir' : Path) (roots roots' : List Path)
    : RemovesOwn cwd (newManager dataDir walDir roots)
        ∧
      RemovesOwn cwd (newManager dataDir' walDir' roots')
        ∧
      (DisjointRegions cwd (newManager dataDir walDir roots) (newManager dataDir' walDir' roots')
          →
        Apart cwd (newManager dataDir walDir roots) (newManager dataDir' walDir' roots'))
        ∧
      (validateManagedDirs (newManager dataDir walDir roots) = .ok ()
          ∨
        validateManagedDirs (newManager dataDir' walDir' roots') = .ok ()
          →
        (Apart cwd (newManager dataDir walDir roots) (newManager dataDir' walDir' roots')
          ↔
        DisjointRegions cwd (newManager dataDir walDir roots)
          (newManager dataDir' walDir' roots'))) := by
  obtain ⟨text, hp⟩ := exists_dataDir_eq_clean dataDir walDir roots
  obtain ⟨text', hq⟩ := exists_dataDir_eq_clean dataDir' walDir' roots'
  refine ⟨removesOwn_of_dataDir_eq_clean cwd hp, removesOwn_of_dataDir_eq_clean cwd hq,
    Apart.of_disjointRegions, fun hvalid => ⟨?_, Apart.of_disjointRegions⟩⟩
  exact fun hapart => .of_apart hapart hvalid

def namesakes : Manager × Manager :=
  (newManager "/srv/a/keeper".toList [] ["/tblspc".toList],
    newManager "/srv/b/keeper".toList [] ["/tblspc".toList])

/--
Both are valid. For a tablespace of the instance that both follow they choose the same directory, and
the one that comes second removes what the first one has put there.
-/
theorem namesakes_collide
    : validateManagedDirs namesakes.1 = .ok ()
        ∧
      validateManagedDirs namesakes.2 = .ok ()
        ∧
      namesakes.1.dataDir ≠ namesakes.2.dataDir
        ∧
      namesakes.1.tablespaceDirRoots = namesakes.2.tablespaceDirRoots
        ∧
      tablespaceMappingsForBasebackup namesakes.1 (diskWithTarget []) (some ["/data/ts".toList])
        =
      (["/tblspc/keeper/ts-ddaaded2".toList],
        .ok [{ oldDir := "/data/ts".toList, newDir := "/tblspc/keeper/ts-ddaaded2".toList }])
        ∧
      (tablespaceMappingsForBasebackup namesakes.2 (diskWithTarget []) (some ["/data/ts".toList])).1
        =
      ["/tblspc/keeper/ts-ddaaded2".toList]
        ∧
      ¬ DisjointRegions [] namesakes.1 namesakes.2 := by
  decide +kernel

end Postgres
end Hysteron

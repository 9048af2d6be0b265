import Hysteron.Cluster.Validate
import Hysteron.Util.Except
import Hysteron.Util.FilePath

/-!
Which directories a PostgreSQL manager removes: when the instance is thrown away and when the
directories of the tablespaces are prepared for a base backup. The file system's answers are inputs,
and every function reports the paths it has asked to remove, whether or not that went well.
-/

namespace Hysteron
namespace Postgres

open FilePath

/-! ## Managers -/

structure Manager where
  dataDir : Path
  walDir : Path
  walDirConfigured : Bool
  tablespaceDirRoots : List Path
  deriving DecidableEq, Repr

def newManager (dataDir walDir : Path) (tablespaceDirRoots : List Path) : Manager :=
  let pgDataDir := join [dataDir, "postgres".toList]
  { dataDir := pgDataDir
    walDir := if walDir ≠ [] then walDir else join [pgDataDir, "pg_wal".toList]
    walDirConfigured := walDir != []
    tablespaceDirRoots }

def Manager.keeperDir (p : Manager) : Path := base (dir p.dataDir)

def Manager.ownedRoot (p : Manager) (root : Path) : Path := join [root, p.keeperDir]

/-! ## Validation -/

inductive DirError where
  | empty (kind : String)
  | notAbsolute (kind : String) (path : Path)
  | unsafePath (kind : String) (path : Path)
  | fileSystemRoot (kind : String) (path : Path)
  | walDirInDataDir (walDir dataDir : Path)
  | dataDirInWalDir (dataDir walDir : Path)
  | rootOverlapsDataDir (root dataDir : Path)
  | rootOverlapsWalDir (root walDir : Path)
  | readTablespaceDir
  | readLink
  | remove (path : Path)
  | removeTablespaceDir (path : Path)
  | readLocations
  | cleanupMappedDir (path : Path)
  | createMappedDir (path : Path)
  deriving DecidableEq, Repr

def validateRemovablePath (path : Path) (kind : String) : Except DirError Unit :=
  if ClusterSpec.trimSpace (String.ofList path) = "" then .error (.empty kind)
  else if isAbs (clean path) = false then .error (.notAbsolute kind path)
  else if clean path = ['.'] then .error (.unsafePath kind path)
  else if dir (clean path) = clean path then .error (.fileSystemRoot kind path)
  else .ok ()

def hasPathPrefix (path parent : Path) : Bool :=
  match rel parent path with
  | none => false
  | some r => r == ['.'] || (r != ['.', '.'] && !(List.isPrefixOf ['.', '.', '/'] r))

def validateWalDir (p : Manager) : Except DirError Unit :=
  if p.walDirConfigured = false then .ok ()
  -- The directory may be configured where it is without a configuration.
  else if p.walDir ≠ join [p.dataDir, "pg_wal".toList] ∧ hasPathPrefix p.walDir p.dataDir then
    .error (.walDirInDataDir p.walDir p.dataDir)
  else if hasPathPrefix p.dataDir p.walDir then .error (.dataDirInWalDir p.dataDir p.walDir)
  else .ok ()

def validateTablespaceDirRoots (p : Manager) (roots : List Path) : Except DirError Unit :=
  match roots with
  | [] => .ok ()
  | root :: rest => do
    validateRemovablePath root "tablespace dir root"
    if hasPathPrefix root p.dataDir || hasPathPrefix p.dataDir root then
      .error (.rootOverlapsDataDir root p.dataDir)
    else if hasPathPrefix root p.walDir || hasPathPrefix p.walDir root then
      .error (.rootOverlapsWalDir root p.walDir)
    else
      validateTablespaceDirRoots p rest

def validateManagedDirs (p : Manager) : Except DirError Unit := do
  validateRemovablePath p.dataDir "data dir"
  validateRemovablePath p.walDir "wal dir"
  validateWalDir p
  validateTablespaceDirRoots p p.tablespaceDirRoots

/-! ## The file system -/

inductive LinkAnswer where
  | target (path : Path)
  | notExist
  | failed
  deriving DecidableEq, Repr

inductive DirAnswer where
  | entries (links : List LinkAnswer)
  | notExist
  | failed
  deriving DecidableEq, Repr

structure Disk where
  pgTblspc : DirAnswer
  removeAll : Path → Bool
  mkdirAll : Path → Bool

/-! ## Removal of the instance -/

def isManagedTablespacePath (p : Manager) (path : Path) : Bool :=
  p.tablespaceDirRoots.any fun root => hasPathPrefix path (p.ownedRoot root)

def resolveLink (p : Manager) (target : Path) : Path :=
  let pgTblspcDir := join [p.dataDir, "pg_tblspc".toList]
  clean (if isAbs target then target else join [pgTblspcDir, target])

def removeTargets (p : Manager) (disk : Disk) (seen : List Path) (links : List LinkAnswer)
    : List Path × Except DirError Unit :=
  match links with
  | [] => ([], .ok ())
  | .notExist :: rest => removeTargets p disk seen rest
  | .failed :: _ => ([], .error .readLink)
  | .target target :: rest =>
    let resolved := resolveLink p target
    if isManagedTablespacePath p resolved = false then removeTargets p disk seen rest
    else if seen.contains resolved then removeTargets p disk seen rest
    else if disk.removeAll resolved = false then
      ([resolved], .error (.removeTablespaceDir resolved))
    else
      let (deleted, result) := removeTargets p disk (seen ++ [resolved]) rest
      (resolved :: deleted, result)

def removeManagedTablespaceTargets (p : Manager) (disk : Disk) : List Path × Except DirError Unit :=
  if p.tablespaceDirRoots = [] then ([], .ok ())
  else
    match disk.pgTblspc with
    | .notExist => ([], .ok ())
    | .failed => ([], .error .readTablespaceDir)
    | .entries links => removeTargets p disk [] links

def removeManagedDirs (p : Manager) (disk : Disk) : List Path × Except DirError Unit :=
  match validateManagedDirs p with
  | .error err => ([], .error err)
  | .ok () =>
    match removeManagedTablespaceTargets p disk with
    | (deleted, .error err) => (deleted, .error err)
    | (deleted, .ok ()) =>
      if disk.removeAll p.dataDir = false then
        (deleted ++ [p.dataDir], .error (.remove p.dataDir))
      else if p.walDirConfigured && p.walDir != p.dataDir then
        (deleted ++ [p.dataDir, p.walDir],
          if disk.removeAll p.walDir = false then .error (.remove p.walDir) else .ok ())
      else
        (deleted ++ [p.dataDir], .ok ())

/-! ## Tablespaces of a base backup -/

structure TablespaceMapping where
  oldDir : Path
  newDir : Path
  deriving DecidableEq, Repr

def fnv32a (bytes : List UInt8) : UInt32 :=
  bytes.foldl (fun h b => (h ^^^ b.toUInt32) * 16777619) 2166136261

def pathHash (path : Path) : Path :=
  (Nat.toDigits 16 (fnv32a (path.flatMap String.utf8EncodeChar)).toNat).leftpad 8 '0'

def sanitizePathComponent (name : Path) : Path :=
  if name = [] ∨ name = ['.'] ∨ name = ['/'] then "tablespace".toList
  else name.map fun c => if c = '\\' ∨ c = '/' ∨ c = ':' ∨ c = ' ' then '_' else c

def selectTablespaceRootForPath (p : Manager) (path : Path) : Path :=
  match p.tablespaceDirRoots.find? (hasPathPrefix path) with
  | some root => root
  | none => p.tablespaceDirRoots.headD []

def tablespaceMappedPath (p : Manager) (root oldDir : Path) : Path :=
  join [root, p.keeperDir, sanitizePathComponent (base oldDir) ++ '-' :: pathHash oldDir]

def mapLocations (p : Manager) (disk : Disk) (locations : List Path)
    : List Path × Except DirError (List TablespaceMapping) :=
  match locations with
  | [] => ([], .ok [])
  | oldDir :: rest =>
    let newDir := tablespaceMappedPath p (selectTablespaceRootForPath p oldDir) oldDir
    if disk.removeAll newDir = false then ([newDir], .error (.cleanupMappedDir newDir))
    else if disk.mkdirAll newDir = false then ([newDir], .error (.createMappedDir newDir))
    else
      let (deleted, mappings) := mapLocations p disk rest
      (newDir :: deleted, mappings.map ({ oldDir, newDir } :: ·))

/--
The locations are the followed instance's answer, if it has given one.
-/
def tablespaceMappingsForBasebackup (p : Manager) (disk : Disk) (locations : Option (List Path))
    : List Path × Except DirError (List TablespaceMapping) :=
  if p.tablespaceDirRoots = [] then ([], .ok [])
  else
    match locations with
    | none => ([], .error .readLocations)
    | some locations => mapLocations p disk (locations.insertionSort (· ≤ ·))

end Postgres
end Hysteron

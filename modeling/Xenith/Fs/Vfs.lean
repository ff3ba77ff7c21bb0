import Xenith.Fs.Path
import Xenith.Lib.Word

/-!
# Mounts and lookup

The name space of `kernel/src/fs/vfs.rs` over trees of directories, files and
symbolic links, as `kernel/src/fs/ramfs.rs` keeps them.  A node is named by its
filesystem and its place in the tree, the keys of the names on the way to it.
Modes, owners, file contents and display names are left out.
-/

namespace Xenith.Fs

/-- What the name space reads of a node; the kinds that are neither directory
nor symbolic link are all `regular`. -/
inductive NodeKind where
  | directory
  | regular
  | symlink (target : List UInt8)
deriving DecidableEq

inductive NamePolicy where
  | caseSensitive
  | asciiCaseInsensitive
deriving DecidableEq

def NamePolicy.insertionKey : NamePolicy → Name → Name
  | .caseSensitive, name => name
  | .asciiCaseInsensitive, name => name.map toAsciiLowercase

structure FileSystem where
  namePolicy : NamePolicy := .caseSensitive
  rootKind : NodeKind
  entries : List (List Name × NodeKind)
deriving DecidableEq

namespace FileSystem

def keys (filesystem : FileSystem) (names : List Name) : List Name :=
  names.map filesystem.namePolicy.insertionKey

/-- The place of a name in a directory. -/
def child (filesystem : FileSystem) (directory : List Name) (name : Name) : List Name :=
  directory ++ filesystem.keys [name]

def kindAt (filesystem : FileSystem) (path : List Name) : Option NodeKind :=
  if path = [] then some filesystem.rootKind
  else filesystem.entries.lookup path

def isDirectory (filesystem : FileSystem) (path : List Name) : Bool :=
  decide (filesystem.kindAt path = some .directory)

def hasEntries (filesystem : FileSystem) (path : List Name) : Bool :=
  filesystem.entries.any fun entry => decide (entry.1 ≠ [] ∧ entry.1.dropLast = path)

def create (filesystem : FileSystem) (directory : List Name) (name : Name)
    (kind : NodeKind) : Except FsError FileSystem :=
  match validateName name with
  | .error error => .error error
  | .ok () =>
    if filesystem.isDirectory directory = false then .error .notDirectory
    else if (filesystem.kindAt (filesystem.child directory name)).isSome then .error .alreadyExists
    else
      .ok
        { filesystem with
          entries := filesystem.entries ++ [(filesystem.child directory name, kind)] }

def remove (filesystem : FileSystem) (directory : List Name) (name : Name) :
    Except FsError FileSystem :=
  match validateName name with
  | .error error => .error error
  | .ok () =>
    if filesystem.isDirectory directory = false then .error .notDirectory
    else
      let place := filesystem.child directory name
      if filesystem.kindAt place = none then .error .notFound
      else if filesystem.isDirectory place && filesystem.hasEntries place then .error .notEmpty
      else
        .ok
          { filesystem with
            entries := filesystem.entries.filter (fun entry => entry.1 ≠ place) }

end FileSystem

structure VfsMount where
  path : PathBuf
  filesystem : Nat
deriving DecidableEq

structure NodeRef where
  filesystem : Nat
  path : List Name
deriving DecidableEq

/-- The filesystems, mounted or not, and the mount table. -/
structure Vfs where
  filesystems : Nat → FileSystem
  mounts : List VfsMount
  currentDir : PathBuf

namespace Vfs

def kindOf (vfs : Vfs) (node : NodeRef) : Option NodeKind :=
  (vfs.filesystems node.filesystem).kindAt node.path

/-- The last one of the longest paths, as `max_by_key` selects it. -/
def longest : List VfsMount → Option VfsMount
  | [] => none
  | mount :: rest =>
    match longest rest with
    | none => some mount
    | some best => if best.path.len < mount.path.len then some mount else some best

def selectedMount (vfs : Vfs) (path : PathBuf) : Except FsError VfsMount :=
  match longest (vfs.mounts.filter (fun entry => path.startsWith entry.path)) with
  | none => .error .notMounted
  | some mount => .ok mount

/-- Where the walk through one mount leads. -/
inductive Walked where
  | arrived (path : List Name)
  | redirected (path : PathBuf)
deriving DecidableEq

/-- The remaining components behind the target of a symbolic link. -/
def joinAll (path : PathBuf) : List Name → Except FsError PathBuf
  | [] => .ok path
  | name :: rest =>
    match path.join name with
    | .error error => .error error
    | .ok joined => joinAll joined rest

def redirect (traversed : PathBuf) (target : List UInt8) (remaining : List Name) :
    Except FsError PathBuf :=
  let start :=
    if target.head? = some slash then PathBuf.fromAbsolute target
    else traversed.join target
  match start with
  | .error error => .error error
  | .ok redirected => joinAll redirected remaining

/-- The loop of `resolve_absolute_inner`. -/
def walk (filesystem : FileSystem) (traversed : PathBuf)
    (current : List Name) : List Name → Except FsError Walked
  | [] => .ok (.arrived current)
  | name :: rest =>
    if filesystem.isDirectory current = false then .error .notDirectory
    else
      match filesystem.kindAt (filesystem.child current name) with
      | none => .error .notFound
      | some (.symlink target) =>
        match redirect traversed target rest with
        | .error error => .error error
        | .ok redirected => .ok (.redirected redirected)
      | some _ =>
        match traversed.join name with
        | .error error => .error error
        | .ok joined => walk filesystem joined (filesystem.child current name) rest

/-- The walk from the root of the selected mount. -/
def walkMount (vfs : Vfs) (mount : VfsMount) (path : PathBuf) : Except FsError Walked :=
  walk (vfs.filesystems mount.filesystem) mount.path [] (path.parts.drop mount.path.parts.length)

def maxSymlinks : Nat := 40

/-- `resolve_absolute_inner` with the number of paths that may still be
tried. -/
def resolveWithin : Nat → Vfs → PathBuf → Except FsError NodeRef
  | 0, _, _ => .error .loop
  | turns + 1, vfs, path =>
    match vfs.selectedMount path with
    | .error error => .error error
    | .ok mount =>
      match vfs.walkMount mount path with
      | .error error => .error error
      | .ok (.arrived place) => .ok ⟨mount.filesystem, place⟩
      | .ok (.redirected redirected) => resolveWithin turns vfs redirected

def resolveAbsolute (vfs : Vfs) (path : PathBuf) : Except FsError NodeRef :=
  resolveWithin (maxSymlinks + 1) vfs path

def lookupParent (vfs : Vfs) (path : List UInt8) : Except FsError (NodeRef × Name) :=
  match absolutize vfs.currentDir path with
  | .error error => .error error
  | .ok absolute =>
    match absolute.fileName, absolute.parent with
    | some name, some parentPath =>
      match validateName name with
      | .error error => .error error
      | .ok () =>
        match vfs.resolveAbsolute parentPath with
        | .error error => .error error
        | .ok parent =>
          if vfs.kindOf parent = some .directory then .ok (parent, name)
          else .error .notDirectory
    | _, _ => .error .invalidInput

def update (vfs : Vfs) (index : Nat) (filesystem : FileSystem) : Vfs :=
  { vfs with
    filesystems := fun other => if other = index then filesystem else vfs.filesystems other }

/-- The longest mount paths come first. -/
def mountBefore (left right : VfsMount) : Prop :=
  right.path.len ≤ left.path.len

instance : DecidableRel mountBefore := fun left right =>
  inferInstanceAs (Decidable (right.path.len ≤ left.path.len))

def isMounted (vfs : Vfs) (path : PathBuf) : Bool :=
  vfs.mounts.any (fun entry => entry.path = path)

def mount (vfs : Vfs) (path : List UInt8) (filesystem : Nat) : Except FsError Vfs :=
  match absolutize vfs.currentDir path with
  | .error error => .error error
  | .ok absolute =>
    match vfs.resolveAbsolute absolute with
    | .error error => .error error
    | .ok target =>
      if vfs.kindOf target ≠ some .directory ∨ vfs.kindOf ⟨filesystem, []⟩ ≠ some .directory then
        .error .notDirectory
      else if vfs.isMounted absolute then .error .busy
      else
        .ok
          { vfs with
            mounts := List.insertionSort mountBefore (vfs.mounts ++ [⟨absolute, filesystem⟩]) }

def unmount (vfs : Vfs) (path : List UInt8) : Except FsError Vfs :=
  match absolutize vfs.currentDir path with
  | .error error => .error error
  | .ok absolute =>
    if absolute.isRoot then .error .busy
    else if vfs.mounts.any (fun entry =>
      decide (entry.path ≠ absolute) && entry.path.startsWith absolute)
    then .error .busy
    else if vfs.isMounted absolute then
      .ok { vfs with mounts := vfs.mounts.filter (fun entry => entry.path ≠ absolute) }
    else .error .notMounted

def createAt (vfs : Vfs) (path : List UInt8) (kind : NodeKind) : Except FsError Vfs :=
  match vfs.lookupParent path with
  | .error error => .error error
  | .ok (parent, name) =>
    match (vfs.filesystems parent.filesystem).create parent.path name kind with
    | .error error => .error error
    | .ok changed => .ok (vfs.update parent.filesystem changed)

def mkdir (vfs : Vfs) (path : List UInt8) : Except FsError Vfs :=
  vfs.createAt path .directory

/-- The new link has its target at once: setting it on a fresh link does not
fail. -/
def symlink (vfs : Vfs) (target link : List UInt8) : Except FsError Vfs :=
  if target = [] ∨ 4096 < target.length ∨ 0 ∈ target then .error .invalidInput
  else vfs.createAt link (.symlink target)

/-- `unlink` and `rmdir`, for the kind of node that each of them removes. -/
def removeAt (vfs : Vfs) (path : List UInt8) (directory : Bool)
    (wrongKind : FsError) : Except FsError Vfs :=
  match absolutize vfs.currentDir path with
  | .error error => .error error
  | .ok absolute =>
    if vfs.isMounted absolute then .error .busy
    else
      match vfs.lookupParent path with
      | .error error => .error error
      | .ok (parent, name) =>
        let filesystem := vfs.filesystems parent.filesystem
        match filesystem.kindAt (filesystem.child parent.path name) with
        | none => .error .notFound
        | some kind =>
          if decide (kind = .directory) ≠ directory then .error wrongKind
          else
            match filesystem.remove parent.path name with
            | .error error => .error error
            | .ok changed => .ok (vfs.update parent.filesystem changed)

def unlink (vfs : Vfs) (path : List UInt8) : Except FsError Vfs :=
  vfs.removeAt path false .isDirectory

def rmdir (vfs : Vfs) (path : List UInt8) : Except FsError Vfs :=
  vfs.removeAt path true .notDirectory

end Vfs

end Xenith.Fs

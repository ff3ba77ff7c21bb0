import Xenith.Lib.Execution
import Xenith.Fs.Vfs

/-!
# Mount points

Runs of mounts and changes of the name space.  Busy checks compare normalised
paths, while lookups follow symbolic links and fold names.  They agree as long
as the checked paths meet no link, directories under mounts are in filesystems
that tell spellings apart and no filesystem is mounted twice.
-/

namespace Xenith.Fs.Vfs

open Execution

/-! ## Runs -/

inductive Call where
  | mount (path : List UInt8) (filesystem : Nat)
  | unmount (path : List UInt8)
  | mkdir (path : List UInt8)
  | symlink (target link : List UInt8)
  | unlink (path : List UInt8)
  | rmdir (path : List UInt8)
deriving DecidableEq

def call (vfs : Vfs) : Call → Except FsError Vfs
  | .mount path filesystem => vfs.mount path filesystem
  | .unmount path => vfs.unmount path
  | .mkdir path => vfs.mkdir path
  | .symlink target link => vfs.symlink target link
  | .unlink path => vfs.unlink path
  | .rmdir path => vfs.rmdir path

/-- The name space and the directory that was resolved for each mount. -/
structure MountState extends Vfs where
  covered : PathBuf → NodeRef

def MountState.covering (state : MountState) : Call → PathBuf → NodeRef
  | .mount path _ =>
    match absolutize state.currentDir path with
    | .error _ => state.covered
    | .ok absolute =>
      match state.resolveAbsolute absolute with
      | .error _ => state.covered
      | .ok target => Function.update state.covered absolute target
  | _ => state.covered

/-- A failed call changes nothing. -/
def step (state : MountState) (requested : Call) : Option MountState :=
  match state.call requested with
  | .error _ => some state
  | .ok next => some { toVfs := next, covered := state.covering requested }

/-- The walk along a path meets no symbolic link. -/
def isDirect (vfs : Vfs) (path : PathBuf) : Bool :=
  match vfs.selectedMount path with
  | .error _ => true
  | .ok mount =>
    match vfs.walkMount mount path with
    | .ok (.redirected _) => false
    | _ => true

/-- No symbolic link lies below the place. -/
def linkFree (filesystem : FileSystem) (place : List Name) : Bool :=
  filesystem.entries.all fun entry =>
    decide (entry.1 = place) || !place.isPrefixOf entry.1 ||
      match entry.2 with
      | .symlink _ => false
      | _ => true

/-- The target of a mount is named directly, in a filesystem that tells
spellings apart, and has no links below it. -/
def isPlainTarget (vfs : Vfs) (path : List UInt8) : Bool :=
  match absolutize vfs.currentDir path with
  | .error _ => true
  | .ok absolute =>
    vfs.isDirect absolute &&
      match vfs.resolveAbsolute absolute with
      | .error _ => true
      | .ok target =>
        let filesystem := vfs.filesystems target.filesystem
        decide (filesystem.namePolicy = .caseSensitive) && linkFree filesystem target.path

/-- The parent of a path is named directly. -/
def isPlainParent (vfs : Vfs) (path : List UInt8) : Bool :=
  match absolutize vfs.currentDir path with
  | .error _ => true
  | .ok absolute => vfs.isDirect absolute.pop

def Admitted (state : MountState) : Call → Prop
  | .mount path filesystem =>
    state.isPlainTarget path = true ∧ filesystem ∉ state.mounts.map VfsMount.filesystem
  | .rmdir path => state.isPlainParent path = true
  | _ => True

instance (state : MountState) (requested : Call) : Decidable (Admitted state requested) := by
  cases requested <;> unfold Admitted <;> infer_instance

/-- Every step along the place is a directory. -/
def DirectoryChain (filesystem : FileSystem) (place : List Name) : Prop :=
  ∀ front, front ≠ [] → front <+: place → filesystem.kindAt front = some .directory

/-- The directory under a mount lies at the mount path, inside of the mount of
its own filesystem. -/
structure Beneath (vfs : Vfs) (path : PathBuf) (node : NodeRef) : Prop where
  inner : node.path ≠ []
  inside : ∃ lower ∈ vfs.mounts, lower.filesystem = node.filesystem ∧
    path.parts = lower.path.parts ++ node.path
  chain : DirectoryChain (vfs.filesystems node.filesystem) node.path

/-- What a call leaves intact. -/
structure Intact (state : MountState) (requested : Call) (next : MountState) : Prop where
  beneath : ∀ entry ∈ next.mounts, entry.path ≠ PathBuf.root →
    next.Beneath entry.path (next.covered entry.path)
  /-- No mount point is removed. -/
  kept : ∀ entry ∈ state.mounts, entry.path ≠ PathBuf.root →
    next.kindOf (state.covered entry.path) = some .directory
  /-- All names of the directory lead to the mounted filesystem. -/
  covered : ∀ path filesystem absolute target, requested = .mount path filesystem →
    state.mount path filesystem = .ok next.toVfs →
    absolutize state.currentDir path = .ok absolute →
    state.resolveAbsolute absolute = .ok target →
    ∀ other, state.resolveAbsolute other = .ok target →
      next.resolveAbsolute other = .ok ⟨filesystem, []⟩

def RootOnly (vfs : Vfs) : Prop :=
  ∃ filesystem, vfs.mounts = [⟨PathBuf.root, filesystem⟩]

/-! ## Selected mounts -/

section Lookup

variable {vfs : Vfs} {mount : VfsMount} {path : PathBuf} {mounts : List VfsMount}

theorem longest_eq_none (missing : longest mounts = none) : mounts = [] := by
  revert missing
  fun_cases longest with
  | case1 => exact fun _ => rfl
  | _ => nofun

theorem longest_spec {best : VfsMount} (selected : longest mounts = some best) :
    best ∈ mounts ∧ ∀ other ∈ mounts, other.path.len ≤ best.path.len := by
  fun_induction longest generalizing best with
  | case1 => cases selected
  | case2 first rest none =>
    cases selected
    rw [longest_eq_none none]
    simp
  | case3 first rest second some shorter ih =>
    cases selected
    obtain ⟨_, greatest⟩ := ih some
    refine ⟨List.mem_cons_self .., ?_⟩
    intro other otherMember
    rcases List.mem_cons.mp otherMember with same | later
    · rw [same]
    · exact (greatest other later).trans (Nat.le_of_lt shorter)
  | case4 first rest second some longer ih =>
    cases selected
    obtain ⟨member, greatest⟩ := ih some
    refine ⟨List.mem_cons_of_mem _ member, ?_⟩
    intro other otherMember
    rcases List.mem_cons.mp otherMember with same | later
    · rw [same]
      exact Nat.not_lt.mp longer
    · exact greatest other later

/-- The selected mount lies above the path and below every other one that
does. -/
structure Selects (vfs : Vfs) (path : PathBuf) (mount : VfsMount) : Prop where
  member : mount ∈ vfs.mounts
  above : mount.path.parts <+: path.parts
  lowest :
    ∀ other ∈ vfs.mounts, other.path.parts <+: path.parts → other.path.parts <+: mount.path.parts

theorem selects_of_selectedMount (selected : vfs.selectedMount path = .ok mount) :
    Selects vfs path mount := by
  unfold selectedMount at selected
  split at selected
  · cases selected
  · next found =>
    cases selected
    obtain ⟨member, greatest⟩ := longest_spec found
    rw [List.mem_filter, PathBuf.startsWith_iff] at member
    refine ⟨member.1, member.2, ?_⟩
    intro other otherMember otherAbove
    have shorter :=
      greatest other (List.mem_filter.mpr ⟨otherMember, PathBuf.startsWith_iff.mpr otherAbove⟩)
    rcases List.prefix_or_prefix_of_prefix otherAbove member.2 with
      inside | outside
    · exact inside
    · by_cases same : mount.path.parts = other.path.parts
      · rw [same]
      · have longer := PathBuf.len_lt_of_prefix outside same
        omega

/-- With different mount paths the selection is determined. -/
theorem selectedMount_of_selects
    (distinct : ∀ left ∈ vfs.mounts, ∀ right ∈ vfs.mounts, left.path = right.path → left = right)
    (selects : Selects vfs path mount) :
    vfs.selectedMount path = .ok mount := by
  have candidate : mount ∈ vfs.mounts.filter (fun entry => path.startsWith entry.path) :=
    List.mem_filter.mpr ⟨selects.member, PathBuf.startsWith_iff.mpr selects.above⟩
  obtain ⟨best, found⟩ := Option.ne_none_iff_exists'.mp fun missing =>
    List.ne_nil_of_mem candidate (longest_eq_none missing)
  have selected : vfs.selectedMount path = .ok best := by
    rw [selectedMount, found]
  have bestSelects := selects_of_selectedMount selected
  have same : best.path = mount.path := by
    apply PathBuf.ext
    have inside := selects.lowest best bestSelects.member bestSelects.above
    have outside := bestSelects.lowest mount selects.member selects.above
    exact inside.eq_of_length (Nat.le_antisymm inside.length_le outside.length_le)
  rw [selected, distinct best bestSelects.member mount selects.member same]

variable {filesystem : FileSystem} {traversed : PathBuf} {current names : List Name}

theorem walk_arrived
    {place : List Name} (arrived : walk filesystem traversed current names = .ok (.arrived place)) :
    place = current ++ filesystem.keys names ∧
      ∀ front rest, filesystem.keys names = front ++ rest → rest ≠ [] →
        filesystem.kindAt (current ++ front) = some .directory := by
  fun_induction walk filesystem traversed current names with
  | case1 =>
    cases arrived
    refine ⟨(List.append_nil _).symm, ?_⟩
    intro front rest whole nonempty
    exact absurd (List.append_eq_nil_iff.mp whole.symm).2 nonempty
  | case7 _ _ _ _ directory _ _ _ _ _ ih =>
    rw [Bool.not_eq_false, FileSystem.isDirectory, decide_eq_true_eq] at directory
    obtain ⟨same, passed⟩ := ih arrived
    refine ⟨by rw [same, FileSystem.child, List.append_assoc]; rfl, ?_⟩
    intro front rest whole nonempty
    cases front with
    | nil =>
      rw [List.append_nil]
      exact directory
    | cons _ more =>
      obtain ⟨rfl, later⟩ := List.cons.inj whole
      have next := passed more rest later nonempty
      rw [FileSystem.child, List.append_assoc] at next
      exact next
  | _ => cases arrived

theorem walk_redirected {redirected : PathBuf}
    (leads : walk filesystem traversed current names = .ok (.redirected redirected)) :
    ∃ front rest target, front ≠ [] ∧ filesystem.keys names = front ++ rest ∧
      filesystem.kindAt (current ++ front) = some (.symlink target) := by
  fun_induction walk filesystem traversed current names with
  | case5 _ _ name _ _ target link =>
    exact ⟨[filesystem.namePolicy.insertionKey name], _, target, by simp, rfl, link⟩
  | case7 _ _ name _ _ _ _ _ _ _ ih =>
    obtain ⟨front, rest, target, _, whole, link⟩ := ih leads
    refine ⟨filesystem.namePolicy.insertionKey name :: front, rest, target, by simp, ?_, ?_⟩
    · exact congrArg _ whole
    · rw [FileSystem.child, List.append_assoc] at link
      exact link
  | _ => cases leads

end Lookup

section Resolution

variable {vfs : Vfs} {path : PathBuf} {node : NodeRef}

/-- A node was reached inside of a mount. -/
structure Reaches (vfs : Vfs) (path : PathBuf) (node : NodeRef) (mount : VfsMount) : Prop where
  selects : Selects vfs path mount
  filesystem : node.filesystem = mount.filesystem
  keys : node.path =
    (vfs.filesystems node.filesystem).keys (path.parts.drop mount.path.parts.length)
  passed : ∀ front rest, node.path = front ++ rest → rest ≠ [] →
    (vfs.filesystems node.filesystem).kindAt front = some .directory

theorem reaches_of_arrived
    {mount : VfsMount} {place : List Name} (selected : vfs.selectedMount path = .ok mount)
    (arrived : vfs.walkMount mount path = .ok (.arrived place)) :
    Reaches vfs path ⟨mount.filesystem, place⟩ mount := by
  obtain ⟨same, passed⟩ := walk_arrived arrived
  refine ⟨selects_of_selectedMount selected, rfl, same, ?_⟩
  intro front rest whole nonempty
  simp only [same] at whole
  exact passed front rest whole nonempty

theorem keys_of_sensitive {filesystem : FileSystem}
    (sensitive : filesystem.namePolicy = .caseSensitive) (names : List Name) :
    filesystem.keys names = names := by
  rw [FileSystem.keys, sensitive]
  exact List.map_id _

/-- In a filesystem that tells spellings apart the path names the place. -/
theorem Reaches.parts {mount : VfsMount} (reaches : Reaches vfs path node mount)
    (sensitive : (vfs.filesystems node.filesystem).namePolicy = .caseSensitive) :
    path.parts = mount.path.parts ++ node.path := by
  rw [reaches.keys, keys_of_sensitive sensitive]
  exact (List.prefix_iff_eq_append.mp reaches.selects.above).symm

theorem reaches_of_direct
    (direct : vfs.isDirect path = true) (resolves : vfs.resolveAbsolute path = .ok node) :
    ∃ mount, vfs.selectedMount path = .ok mount ∧ Reaches vfs path node mount := by
  rw [resolveAbsolute, resolveWithin] at resolves
  unfold isDirect at direct
  split at resolves
  · cases resolves
  · next mount selected =>
    rw [selected] at direct
    split at resolves
    · cases resolves
    · next place arrived =>
      cases resolves
      exact ⟨mount, selected, reaches_of_arrived selected arrived⟩
    · next redirected leads =>
      simp only [leads] at direct
      cases direct

theorem DirectoryChain.of_reaches {mount : VfsMount} (reaches : Reaches vfs path node mount)
    (directory : vfs.kindOf node = some .directory) :
    DirectoryChain (vfs.filesystems node.filesystem) node.path := by
  intro front _ isFront
  obtain ⟨rest, whole⟩ := isFront
  by_cases last : rest = []
  · rw [last, List.append_nil] at whole
    rw [whole]
    exact directory
  · exact reaches.passed front rest whole.symm last

end Resolution

/-! ## Changes of a filesystem -/

variable {kind : NodeKind}

section Changes

variable {filesystem changed : FileSystem} {directory place : List Name} {name : Name}

theorem mem_of_kindAt (inner : place ≠ []) (present : filesystem.kindAt place = some kind) :
    (place, kind) ∈ filesystem.entries := by
  rw [FileSystem.kindAt, if_neg inner] at present
  obtain ⟨_, _, split, _⟩ := List.lookup_eq_some_iff.mp present
  rw [split]
  exact List.mem_append_right _ (List.mem_cons_self ..)

theorem kindAt_create (creates : filesystem.create directory name kind = .ok changed) :
    changed.namePolicy = filesystem.namePolicy ∧ ∀ place stored,
      filesystem.kindAt place = some stored → changed.kindAt place = some stored := by
  revert creates
  fun_cases FileSystem.create with
  | case4 =>
    rintro ⟨⟩
    refine ⟨rfl, fun place stored present => ?_⟩
    unfold FileSystem.kindAt at present ⊢
    split
    · next root => rwa [if_pos root] at present
    · next inner =>
      rw [if_neg inner] at present
      simp only [List.lookup_append, present, Option.some_or]
  | _ => nofun

/-- What `remove` takes away. -/
structure Takes (filesystem : FileSystem) (place : List Name) (changed : FileSystem) : Prop where
  policy : changed.namePolicy = filesystem.namePolicy
  leaf : filesystem.kindAt place = some .directory → filesystem.hasEntries place = false
  others : ∀ other, other ≠ place → changed.kindAt other = filesystem.kindAt other

theorem lookup_filter_ne
    {entries : List (List Name × NodeKind)} {other : List Name} (different : other ≠ place) :
    (entries.filter (fun entry => entry.1 ≠ place)).lookup other = entries.lookup other := by
  induction entries with
  | nil => rfl
  | cons entry _ ih =>
    by_cases same : entry.1 = place
    · have skipped : (other == entry.1) = false := by simp [same, different]
      rw [List.filter_cons_of_neg (by simpa using same), List.lookup_cons, skipped]
      exact ih
    · rw [List.filter_cons_of_pos (by simpa using same), List.lookup_cons, List.lookup_cons, ih]

theorem takes_of_remove (removes : filesystem.remove directory name = .ok changed) :
    Takes filesystem (filesystem.child directory name) changed := by
  revert removes
  fun_cases FileSystem.remove with
  | case5 _ _ _ _ leaf =>
    rintro ⟨⟩
    refine ⟨rfl, ?_, ?_⟩
    · intro isDirectory
      rw [Bool.and_eq_true, FileSystem.isDirectory, isDirectory] at leaf
      by_contra entries
      rw [Bool.not_eq_false] at entries
      exact leaf ⟨by simp, entries⟩
    · intro other different
      unfold FileSystem.kindAt
      split
      · rfl
      · exact lookup_filter_ne different
  | _ => nofun

theorem hasEntries_of_kindAt (present : filesystem.kindAt (place ++ [name]) = some kind) :
    filesystem.hasEntries place = true := by
  have member := mem_of_kindAt (by simp) present
  rw [FileSystem.hasEntries, List.any_eq_true]
  exact ⟨_, member, by simp⟩

/-- A chain of directories survives the removal of any node but its last
one. -/
theorem DirectoryChain.takes {removed : List Name} (chain : DirectoryChain filesystem place)
    (takes : Takes filesystem removed changed) (different : removed ≠ place) :
    DirectoryChain changed place := by
  intro front nonempty isFront
  have before := chain front nonempty isFront
  by_cases same : front = removed
  · -- a removed step of the chain would have had the next one in it
    obtain ⟨rest, whole⟩ := isFront
    have more : rest ≠ [] := by
      intro last
      rw [last, List.append_nil] at whole
      exact different (same.symm.trans whole)
    obtain ⟨name, later, split⟩ := List.exists_cons_of_ne_nil more
    have next : filesystem.kindAt (front ++ [name]) = some .directory := by
      apply chain
      · simp
      · refine ⟨later, ?_⟩
        rw [← whole, split, List.append_assoc, List.singleton_append]
    have occupied := hasEntries_of_kindAt next
    rw [same] at before occupied
    rw [takes.leaf before] at occupied
    cases occupied
  · rw [takes.others front same]
    exact before

theorem not_link_of_linkFree {target : List UInt8} (free : linkFree filesystem directory = true)
    (below : directory <+: place) (different : place ≠ directory) (inner : place ≠ []) :
    filesystem.kindAt place ≠ some (.symlink target) := by
  intro link
  have tested := List.all_eq_true.mp free _ (mem_of_kindAt inner link)
  have isBelow : directory.isPrefixOf place = true := List.isPrefixOf_iff_prefix.mpr below
  simp [different, isBelow] at tested

end Changes

/-! ## The invariant -/

structure Invariant (state : MountState) : Prop where
  beneath : ∀ entry ∈ state.mounts, entry.path ≠ PathBuf.root →
    state.Beneath entry.path (state.covered entry.path)
  sensitive : ∀ entry ∈ state.mounts, entry.path ≠ PathBuf.root →
    (state.filesystems (state.covered entry.path).filesystem).namePolicy = .caseSensitive
  paths : ∀ left ∈ state.mounts, ∀ right ∈ state.mounts, left.path = right.path → left = right
  filesystems :
    ∀ left ∈ state.mounts, ∀ right ∈ state.mounts, left.filesystem = right.filesystem → left = right

section Steps

variable {vfs next : Vfs} {state : MountState}

theorem RootOnly.invariant (rootOnly : RootOnly state.toVfs) : Invariant state := by
  obtain ⟨filesystem, mounts⟩ := rootOnly
  have isRoot {entry : VfsMount} (member : entry ∈ state.mounts) :
      entry = ⟨PathBuf.root, filesystem⟩ := by
    rwa [mounts, List.mem_singleton] at member
  have same : ∀ left ∈ state.mounts, ∀ right ∈ state.mounts, left = right :=
    fun _ left _ right => (isRoot left).trans (isRoot right).symm
  exact
    { beneath := fun _ member notRoot => absurd (congrArg VfsMount.path (isRoot member)) notRoot
      sensitive := fun _ member notRoot => absurd (congrArg VfsMount.path (isRoot member)) notRoot
      paths := fun left inLeft right inRight _ => same left inLeft right inRight
      filesystems := fun left inLeft right inRight _ => same left inLeft right inRight }

theorem Beneath.directory {path : PathBuf} {node : NodeRef} (beneath : vfs.Beneath path node) :
    vfs.kindOf node = some .directory :=
  beneath.chain node.path beneath.inner (List.prefix_refl _)

/-- A change of filesystems that keeps the directories under mounts. -/
structure Keeps (state : MountState) (next : Vfs) : Prop where
  mounts : next.mounts = state.mounts
  policies : ∀ index, (next.filesystems index).namePolicy = (state.filesystems index).namePolicy
  chains : ∀ entry ∈ state.mounts, entry.path ≠ PathBuf.root →
    DirectoryChain (next.filesystems (state.covered entry.path).filesystem)
      (state.covered entry.path).path

theorem Keeps.invariant (keeps : Keeps state next) (invariant : Invariant state) :
    Invariant { toVfs := next, covered := state.covered } := by
  obtain ⟨mounts, policies, chains⟩ := keeps
  refine ⟨?_, ?_, ?_, ?_⟩ <;> simp only [mounts]
  · intro entry member notRoot
    obtain ⟨inner, inside, _⟩ := invariant.beneath entry member notRoot
    exact ⟨inner, by simpa only [mounts] using inside, chains entry member notRoot⟩
  · intro entry member notRoot
    rw [policies]
    exact invariant.sensitive entry member notRoot
  · exact invariant.paths
  · exact invariant.filesystems

variable {changed : FileSystem} {index : Nat}

theorem keeps_of_update (invariant : Invariant state)
    (policy : changed.namePolicy = (state.filesystems index).namePolicy)
    (spared : ∀ entry ∈ state.mounts, entry.path ≠ PathBuf.root →
      (state.covered entry.path).filesystem = index →
      DirectoryChain (state.filesystems index) (state.covered entry.path).path →
        DirectoryChain changed (state.covered entry.path).path) :
    Keeps state (state.update index changed) := by
  refine ⟨rfl, ?_, ?_⟩
  · intro other
    simp only [update]
    split
    · next same => rw [same, policy]
    · rfl
  · intro entry member notRoot
    have chain := (invariant.beneath entry member notRoot).chain
    simp only [update]
    split
    · next same =>
      rw [same] at chain
      exact spared entry member notRoot same chain
    · exact chain

variable {path : List UInt8}

theorem keeps_of_createAt (invariant : Invariant state)
    (creates : state.createAt path kind = .ok next) : Keeps state next := by
  revert creates
  fun_cases createAt with
  | case3 _ _ _ _ created =>
    rintro ⟨⟩
    obtain ⟨policy, grows⟩ := kindAt_create created
    refine keeps_of_update invariant policy fun _ _ _ _ chain front nonempty isFront => ?_
    exact grows front _ (chain front nonempty isFront)
  | _ => nofun

theorem keeps_of_takes {removed : List Name} (invariant : Invariant state)
    (takes : Takes (state.filesystems index) removed changed)
    (elsewhere : ∀ entry ∈ state.mounts, entry.path ≠ PathBuf.root →
      state.covered entry.path ≠ ⟨index, removed⟩) :
    Keeps state (state.update index changed) := by
  refine keeps_of_update invariant takes.policy fun entry member notRoot same chain => ?_
  apply chain.takes takes
  intro isRemoved
  apply elsewhere entry member notRoot
  rw [isRemoved, ← same]

theorem lookupParent_cases {absolute : PathBuf} {parent : NodeRef} {name : Name}
    (isAbsolute : absolutize vfs.currentDir path = .ok absolute)
    (found : vfs.lookupParent path = .ok (parent, name)) :
    absolute.parts = absolute.pop.parts ++ [name] ∧
      vfs.resolveAbsolute absolute.pop = .ok parent := by
  revert found
  fun_cases lookupParent with
  | case4 _ isPath _ _ isParent isLast _ _ resolves =>
    rintro ⟨⟩
    cases isAbsolute.symm.trans isPath
    refine ⟨(List.dropLast_append_getLast? name isLast).symm, ?_⟩
    unfold PathBuf.parent at isParent
    split at isParent
    · cases isParent
    · cases isParent
      exact resolves
  | _ => nofun

/-- What `unlink` and `rmdir` go through. -/
theorem removeAt_cases {directory : Bool} {wrongKind : FsError}
    (removes : vfs.removeAt path directory wrongKind = .ok next) :
    ∃ absolute parent name kind changed,
      let filesystem := vfs.filesystems parent.filesystem
      absolutize vfs.currentDir path = .ok absolute ∧
      vfs.isMounted absolute = false ∧
      absolute.parts = absolute.pop.parts ++ [name] ∧
      vfs.resolveAbsolute absolute.pop = .ok parent ∧
      filesystem.kindAt (filesystem.child parent.path name) = some kind ∧
      decide (kind = .directory) = directory ∧
      Takes filesystem (filesystem.child parent.path name) changed ∧
      next = vfs.update parent.filesystem changed := by
  revert removes
  fun_cases removeAt with
  | case7 absolute isAbsolute notMounted parent name found _ kind present rightKind changed removed =>
    rintro ⟨⟩
    obtain ⟨split, resolves⟩ := lookupParent_cases isAbsolute found
    exact ⟨absolute, parent, name, kind, changed, isAbsolute,
      Bool.eq_false_iff.mpr notMounted, split, resolves, present,
      not_not.mp rightKind, takes_of_remove removed, rfl⟩
  | _ => nofun

theorem keeps_of_unlink (invariant : Invariant state) (removes : state.unlink path = .ok next) :
    Keeps state next := by
  obtain ⟨_, _, _, _, _, _, _, _, _, present, rightKind, takes, rfl⟩ := removeAt_cases removes
  refine keeps_of_takes invariant takes fun entry member notRoot isCovered => ?_
  have directory := (invariant.beneath entry member notRoot).directory
  rw [isCovered] at directory
  cases present.symm.trans directory
  cases rightKind

theorem path_ne_of_not_isMounted {absolute : PathBuf} (notMounted : vfs.isMounted absolute = false)
    {entry : VfsMount} (member : entry ∈ vfs.mounts) :
    entry.path ≠ absolute := by
  rw [isMounted, List.any_eq_false] at notMounted
  exact of_decide_eq_false (Bool.eq_false_iff.mpr (notMounted entry member))

theorem keeps_of_rmdir (invariant : Invariant state) (admitted : state.isPlainParent path = true)
    (removes : state.rmdir path = .ok next) : Keeps state next := by
  obtain ⟨absolute, parent, name, kind, changed, isAbsolute, notMounted, split,
    resolves, _, _, takes, rfl⟩ := removeAt_cases removes
  unfold isPlainParent at admitted
  rw [isAbsolute] at admitted
  obtain ⟨mount, _, reaches⟩ := reaches_of_direct admitted resolves
  refine keeps_of_takes invariant takes fun entry member notRoot isCovered => ?_
  -- the removed directory would be the one under this very path
  obtain ⟨_, ⟨lower, lowerMember, same, whole⟩, _⟩ := invariant.beneath entry member notRoot
  have sensitive := invariant.sensitive entry member notRoot
  rw [isCovered] at same whole sensitive
  have unique : lower = mount :=
    invariant.filesystems lower lowerMember mount reaches.selects.member
      (same.trans reaches.filesystem)
  apply path_ne_of_not_isMounted notMounted member
  apply PathBuf.ext
  rw [whole, unique, split, reaches.parts sensitive, FileSystem.child, keys_of_sensitive sensitive,
    List.append_assoc]

theorem invariant_of_unmount (invariant : Invariant state)
    (unmounts : state.unmount path = .ok next) :
    Invariant { toVfs := next, covered := state.covered } ∧
      next.filesystems = state.filesystems := by
  revert unmounts
  fun_cases unmount with
  | case4 _ _ _ noneBelow =>
    rintro ⟨⟩
    refine ⟨⟨?_, ?_, ?_, ?_⟩, rfl⟩
    · intro entry member notRoot
      obtain ⟨member, notRemoved⟩ := List.mem_filter.mp member
      rw [decide_eq_true_eq] at notRemoved
      obtain ⟨inner, ⟨lower, lowerMember, same, whole⟩, chain⟩ :=
        invariant.beneath entry member notRoot
      refine ⟨inner, ⟨lower, List.mem_filter.mpr ⟨lowerMember, ?_⟩, same, whole⟩, chain⟩
      rw [decide_eq_true_eq]
      intro removed
      apply noneBelow
      rw [List.any_eq_true]
      refine ⟨entry, member, ?_⟩
      rw [Bool.and_eq_true, decide_eq_true_eq, PathBuf.startsWith_iff]
      exact ⟨notRemoved, _, by rw [← removed, whole]⟩
    · intro entry member
      exact invariant.sensitive entry (List.mem_filter.mp member).1
    · intro left leftMember right rightMember
      exact invariant.paths left (List.mem_filter.mp leftMember).1
        right (List.mem_filter.mp rightMember).1
    · intro left leftMember right rightMember
      exact invariant.filesystems left (List.mem_filter.mp leftMember).1
        right (List.mem_filter.mp rightMember).1
  | _ => nofun

/-- What a successful mount went through. -/
structure Mounts (vfs : Vfs) (absolute : PathBuf) (target : NodeRef)
    (filesystem : Nat) (next : Vfs) : Prop where
  resolves : vfs.resolveAbsolute absolute = .ok target
  directory : vfs.kindOf target = some .directory
  notMounted : vfs.isMounted absolute = false
  filesystems : next.filesystems = vfs.filesystems
  members : ∀ entry, entry ∈ next.mounts ↔ entry ∈ vfs.mounts ∨ entry = ⟨absolute, filesystem⟩

theorem mounts_of_mount {filesystem : Nat} (mounted : vfs.mount path filesystem = .ok next) :
    ∃ absolute target, absolutize vfs.currentDir path = .ok absolute ∧
      Mounts vfs absolute target filesystem next := by
  revert mounted
  fun_cases mount with
  | case5 absolute isAbsolute target resolves directories notMounted =>
    rintro ⟨⟩
    rw [not_or, not_not] at directories
    refine ⟨absolute, target, isAbsolute, resolves, directories.1,
      Bool.eq_false_iff.mpr notMounted, rfl, ?_⟩
    intro entry
    rw [List.mem_insertionSort, List.mem_append, List.mem_singleton]
  | _ => nofun

section Mounting

variable {absolute : PathBuf} {target : NodeRef} {filesystem : Nat} {mount : VfsMount}

/-- Below a target without links no walk is redirected. -/
theorem not_redirected_below (reaches : Reaches vfs absolute target mount)
    (directory : vfs.kindOf target = some .directory)
    (sensitive : (vfs.filesystems target.filesystem).namePolicy = .caseSensitive)
    (free : linkFree (vfs.filesystems target.filesystem) target.path = true)
    {other redirected : PathBuf} (below : absolute.parts <+: other.parts) :
    vfs.walkMount mount other ≠ .ok (.redirected redirected) := by
  intro leads
  rw [walkMount, ← reaches.filesystem] at leads
  obtain ⟨place, rest, link, inner, names, isLink⟩ := walk_redirected leads
  obtain ⟨more, whole⟩ := below
  rw [keys_of_sensitive sensitive, ← whole, reaches.parts sensitive, List.append_assoc,
    List.drop_left] at names
  rcases List.prefix_or_prefix_of_prefix ⟨rest, names.symm⟩
      (List.prefix_append target.path more) with inside | outside
  · have chain := DirectoryChain.of_reaches reaches directory
    cases (chain place inner inside).symm.trans isLink
  · by_cases same : place = target.path
    · rw [same] at isLink
      cases directory.symm.trans isLink
    · exact not_link_of_linkFree free outside same inner isLink

section Mounts

variable (mounts : Mounts state.toVfs absolute target filesystem next)

include mounts

theorem Mounts.distinct {Key : Type} {key : VfsMount → Key}
    (distinct : ∀ left ∈ state.mounts, ∀ right ∈ state.mounts, key left = key right → left = right)
    (fresh : ∀ entry ∈ state.mounts, key entry ≠ key ⟨absolute, filesystem⟩) :
    ∀ left ∈ next.mounts, ∀ right ∈ next.mounts, key left = key right → left = right := by
  intro left leftMember right rightMember same
  rcases (mounts.members left).mp leftMember with leftOld | rfl <;>
    rcases (mounts.members right).mp rightMember with rightOld | rfl
  · exact distinct left leftOld right rightOld same
  · exact absurd same (fresh left leftOld)
  · exact absurd same.symm (fresh right rightOld)
  · rfl

theorem Mounts.paths (invariant : Invariant state) :
    ∀ left ∈ next.mounts, ∀ right ∈ next.mounts, left.path = right.path → left = right :=
  mounts.distinct invariant.paths fun _ member => path_ne_of_not_isMounted mounts.notMounted member

theorem Mounts.invariant (invariant : Invariant state)
    (reaches : Reaches state.toVfs absolute target mount)
    (sensitive : (state.filesystems target.filesystem).namePolicy = .caseSensitive)
    (unmounted : filesystem ∉ state.mounts.map VfsMount.filesystem) :
    Invariant { toVfs := next, covered := Function.update state.covered absolute target } := by
  have kept {entry : VfsMount} (old : entry ∈ state.mounts) :
      Function.update state.covered absolute target entry.path = state.covered entry.path :=
    Function.update_of_ne (path_ne_of_not_isMounted mounts.notMounted old) _ _
  refine ⟨?_, ?_, mounts.paths invariant,
    mounts.distinct invariant.filesystems fun entry member same =>
      unmounted (List.mem_map.mpr ⟨entry, member, same⟩)⟩
  · intro entry member notRoot
    rcases (mounts.members entry).mp member with old | rfl
    · obtain ⟨inner, ⟨lower, lowerMember, inside⟩, chain⟩ := invariant.beneath entry old notRoot
      simp only [kept old]
      refine ⟨inner, ⟨lower, (mounts.members lower).mpr (Or.inl lowerMember), inside⟩, ?_⟩
      simp only [mounts.filesystems]
      exact chain
    · simp only [Function.update_self]
      refine ⟨?_, ⟨mount, (mounts.members mount).mpr (Or.inl reaches.selects.member),
        reaches.filesystem.symm, reaches.parts sensitive⟩, ?_⟩
      · intro atRoot
        apply path_ne_of_not_isMounted mounts.notMounted reaches.selects.member
        apply PathBuf.ext
        rw [reaches.parts sensitive, atRoot, List.append_nil]
      · simp only [mounts.filesystems]
        exact DirectoryChain.of_reaches reaches mounts.directory
  · intro entry member notRoot
    simp only [mounts.filesystems]
    rcases (mounts.members entry).mp member with old | rfl
    · rw [kept old]
      exact invariant.sensitive entry old notRoot
    · rw [Function.update_self]
      exact sensitive

section Covered

variable (invariant : Invariant state) (reaches : Reaches state.toVfs absolute target mount)
variable (sensitive : (state.filesystems target.filesystem).namePolicy = .caseSensitive)
variable (free : linkFree (state.filesystems target.filesystem) target.path = true)
variable {other : PathBuf}

include invariant reaches sensitive free

/-- A walk that meets a link does not go through the target. -/
theorem Mounts.selectedMount_of_redirected {selected : VfsMount} {redirected : PathBuf}
    (isSelected : state.selectedMount other = .ok selected)
    (leads : state.walkMount selected other = .ok (.redirected redirected)) :
    next.selectedMount other = .ok selected := by
  have selects := selects_of_selectedMount isSelected
  apply selectedMount_of_selects (mounts.paths invariant)
  refine ⟨(mounts.members _).mpr (Or.inl selects.member), selects.above, ?_⟩
  intro entry member above
  rcases (mounts.members entry).mp member with old | new
  · exact selects.lowest entry old above
  · rw [new] at above ⊢
    rcases List.prefix_or_prefix_of_prefix above selects.above with inside | outside
    · exact inside
    · exfalso
      have upper := selects.lowest mount reaches.selects.member (reaches.selects.above.trans above)
      have lower := reaches.selects.lowest selected selects.member outside
      have samePath : selected.path = mount.path :=
        PathBuf.ext (lower.eq_of_length (Nat.le_antisymm lower.length_le upper.length_le))
      have unique := invariant.paths selected selects.member mount reaches.selects.member samePath
      rw [unique] at leads
      exact not_redirected_below reaches mounts.directory sensitive free above leads

/-- Every name of the target leads to the root of the new mount. -/
theorem Mounts.covered {turns : Nat}
    (resolves : resolveWithin turns state.toVfs other = .ok target) :
    resolveWithin turns next other = .ok ⟨filesystem, []⟩ := by
  generalize isVfs : state.toVfs = vfs at resolves
  fun_induction resolveWithin turns vfs other with
  | case4 turns _ other selectedOther selected _ arrived =>
    subst isVfs
    have reachesOther := reaches_of_arrived selected arrived
    cases resolves
    have unique : selectedOther = mount := invariant.filesystems _ reachesOther.selects.member _
      reaches.selects.member reaches.filesystem
    have same : other = absolute := by
      apply PathBuf.ext
      rw [reachesOther.parts sensitive, reaches.parts sensitive, unique]
    have selectedNew : next.selectedMount other = .ok ⟨absolute, filesystem⟩ := by
      apply selectedMount_of_selects (mounts.paths invariant)
      rw [same]
      exact ⟨(mounts.members _).mpr (Or.inr rfl), List.prefix_refl _, fun _ _ above => above⟩
    rw [resolveWithin, selectedNew]
    simp only [walkMount, same, List.drop_length, walk]
  | case5 turns _ other selectedOther selected redirected leads ih =>
    subst isVfs
    have leadsNext : next.walkMount selectedOther other = .ok (.redirected redirected) := by
      rw [walkMount, mounts.filesystems]
      exact leads
    rw [resolveWithin,
      mounts.selectedMount_of_redirected invariant reaches sensitive free selected leads]
    simp only [leadsNext]
    exact ih rfl resolves
  | _ => cases resolves

end Covered

end Mounts

theorem reaches_of_plainTarget (plain : vfs.isPlainTarget path = true)
    (isAbsolute : absolutize vfs.currentDir path = .ok absolute)
    (resolves : vfs.resolveAbsolute absolute = .ok target) :
    (∃ mount, Reaches vfs absolute target mount) ∧
      (vfs.filesystems target.filesystem).namePolicy = .caseSensitive ∧
      linkFree (vfs.filesystems target.filesystem) target.path = true := by
  unfold isPlainTarget at plain
  rw [isAbsolute] at plain
  simp only [resolves, Bool.and_eq_true, decide_eq_true_eq] at plain
  obtain ⟨mount, _, reaches⟩ := reaches_of_direct plain.1 resolves
  exact ⟨⟨mount, reaches⟩, plain.2⟩

theorem intact_of_mount (invariant : Invariant state) (plain : state.isPlainTarget path = true)
    (unmounted : filesystem ∉ state.mounts.map VfsMount.filesystem)
    (mounted : state.mount path filesystem = .ok next) :
    let after : MountState := ⟨next, state.covering (.mount path filesystem)⟩
    Invariant after ∧ Intact state (.mount path filesystem) after := by
  obtain ⟨_, _, isAbsolute, mounts⟩ := mounts_of_mount mounted
  obtain ⟨⟨mount, reaches⟩, sensitive, free⟩ :=
    reaches_of_plainTarget plain isAbsolute mounts.resolves
  have invariantNext := mounts.invariant invariant reaches sensitive unmounted
  simp only [MountState.covering, isAbsolute, mounts.resolves]
  refine ⟨invariantNext, invariantNext.beneath, ?_, ?_⟩
  · intro entry member notRoot
    simp only [kindOf, mounts.filesystems]
    exact (invariant.beneath entry member notRoot).directory
  · intro _ _ _ _ same _ isAbsoluteToo resolvesToo other otherResolves
    cases same
    cases isAbsolute.symm.trans isAbsoluteToo
    cases mounts.resolves.symm.trans resolvesToo
    exact mounts.covered invariant reaches sensitive free otherResolves

end Mounting

/-! ## Runs -/

theorem Keeps.intact {requested : Call} (keeps : Keeps state next) (invariant : Invariant state)
    (noMount : ∀ path filesystem, requested = .mount path filesystem →
      state.mount path filesystem ≠ .ok next) :
    let after : MountState := ⟨next, state.covered⟩
    Invariant after ∧ Intact state requested after := by
  have invariantNext := keeps.invariant invariant
  refine ⟨invariantNext, invariantNext.beneath, ?_, ?_⟩
  · intro entry member notRoot
    exact (invariantNext.beneath entry (keeps.mounts.symm ▸ member) notRoot).directory
  · intro path filesystem _ _ same mounted
    exact absurd mounted (noMount path filesystem same)

theorem intact_of_step {after : MountState}
    {requested : Call} (invariant : Invariant state) (admitted : Admitted state requested)
    (taken : step state requested = some after) :
    Invariant after ∧ Intact state requested after := by
  unfold step at taken
  split at taken
  · next error failed =>
    cases taken
    have keeps : Keeps state state.toVfs :=
      ⟨rfl, fun _ => rfl, fun entry member notRoot =>
        (invariant.beneath entry member notRoot).chain⟩
    apply keeps.intact invariant
    intro path filesystem same mounted
    rw [same, call, mounted] at failed
    cases failed
  · next done succeeded =>
    cases taken
    cases requested with
    | mount path filesystem => exact intact_of_mount invariant admitted.1 admitted.2 succeeded
    | unmount path =>
      obtain ⟨invariantNext, filesystems⟩ := invariant_of_unmount invariant succeeded
      refine ⟨invariantNext, invariantNext.beneath, ?_, ?_⟩
      · intro entry member notRoot
        simp only [kindOf, filesystems]
        exact (invariant.beneath entry member notRoot).directory
      · intro _ _ _ _ same
        cases same
    | mkdir path => exact (keeps_of_createAt invariant succeeded).intact invariant (by simp)
    | symlink =>
      rw [call, symlink] at succeeded
      split at succeeded
      · cases succeeded
      · exact (keeps_of_createAt invariant succeeded).intact invariant (by simp)
    | unlink path => exact (keeps_of_unlink invariant succeeded).intact invariant (by simp)
    | rmdir path => exact (keeps_of_rmdir invariant admitted succeeded).intact invariant (by simp)

/-- After every call of a run the mount points are intact. -/
theorem mount_points_intact {start state next : MountState} {calls : List Call} {requested : Call}
    (rootOnly : RootOnly start.toVfs) (guarded : Guarded step Admitted start calls)
    (reached : exec step start calls = some state) (admitted : Admitted state requested)
    (taken : step state requested = some next) :
    Intact state requested next := by
  have invariant : Invariant state := invariant_of_guarded
    (fun _ _ _ invariant admitted taken => (intact_of_step invariant admitted taken).1)
    rootOnly.invariant guarded reached
  exact (intact_of_step invariant admitted taken).2

end Steps

/-- A root with the directories `/a` and `/a/m` and the link `/l` to `/a`; the
other filesystems are empty, and the third one folds names. -/
def linkedTree : MountState where
  filesystems index :=
    if index = 0 then
      { rootKind := .directory
        entries :=
          [([[97]], .directory), ([[97], [109]], .directory), ([[108]], .symlink [47, 97])] }
    else
      { rootKind := .directory
        entries := []
        namePolicy := if index = 3 then .asciiCaseInsensitive else .caseSensitive }
  mounts := [⟨PathBuf.root, 0⟩]
  currentDir := PathBuf.root
  covered _ := ⟨0, []⟩

/-- Mounts on `/a/m` and on `/a/m/d` inside of it, with a link `/k` to the
second one. -/
def nestedMounts : List Call :=
  [.mount [47, 97, 47, 109] 1, .mkdir [47, 97, 47, 109, 47, 100],
    .symlink [47, 97, 47, 109, 47, 100] [47, 107],
    .mount [47, 97, 47, 109, 47, 100] 2, .unlink [47, 107], .rmdir [47, 97, 47, 109]]

theorem nestedMounts_intact :
    ∃ state next, exec step linkedTree nestedMounts = some state ∧
      state.mounts.length = 3 ∧
      step state (.unmount [47, 97, 47, 109, 47, 100]) = some next ∧
      Intact state (.unmount [47, 97, 47, 109, 47, 100]) next := by
  have runs :
      ∃ state, exec step linkedTree nestedMounts = some state ∧
        state.mounts.length = 3 ∧
        (step state (.unmount [47, 97, 47, 109, 47, 100])).isSome := by
    decide +kernel
  obtain ⟨state, reached, mounted, taken⟩ := runs
  obtain ⟨next, taken⟩ := Option.isSome_iff_exists.mp taken
  exact ⟨state, next, reached, mounted, taken,
    mount_points_intact ⟨0, rfl⟩ (by decide +kernel) reached trivial taken⟩

/-- After these calls the call removes the directory under a mount. -/
theorem not_intact_of_removed {calls : List Call} {requested : Call}
    (runs : ∃ state, exec step linkedTree calls = some state ∧
      ∃ next, step state requested = some next ∧ ∃ entry ∈ state.mounts,
        entry.path ≠ PathBuf.root ∧ next.kindOf (state.covered entry.path) = none) :
    ∃ state next, exec step linkedTree calls = some state ∧
      step state requested = some next ∧ ¬ Intact state requested next := by
  obtain ⟨state, reached, next, taken, entry, member, notRoot, removed⟩ := runs
  refine ⟨state, next, reached, taken, fun intact => ?_⟩
  cases (intact.kept entry member notRoot).symm.trans removed

/-- The directory under the mount on `/a/m` is removed as `/l/m`, and the one
under a mount on `/a/m/M` as `/a/m/m` if names are folded; a mount on `/l/m` is
not found under `/a/m`. -/
theorem mount_points_not_intact :
    (∃ state next, exec step linkedTree [.mount [47, 97, 47, 109] 1] = some state ∧
      step state (.rmdir [47, 108, 47, 109]) = some next ∧
      ¬ Intact state (.rmdir [47, 108, 47, 109]) next) ∧
    (∃ state next,
      exec step linkedTree [.mount [47, 97, 47, 109] 3, .mkdir [47, 97, 47, 109, 47, 77],
        .mount [47, 97, 47, 109, 47, 77] 1] = some state ∧
      step state (.rmdir [47, 97, 47, 109, 47, 109]) = some next ∧
      ¬ Intact state (.rmdir [47, 97, 47, 109, 47, 109]) next) ∧
    ∃ next, step linkedTree (.mount [47, 108, 47, 109] 1) = some next ∧
      ¬ Intact linkedTree (.mount [47, 108, 47, 109] 1) next := by
  refine ⟨not_intact_of_removed (by decide +kernel), not_intact_of_removed (by decide +kernel), ?_⟩
  have mounts :
      (match linkedTree.mount [47, 108, 47, 109] 1 with
        | .error _ => none
        | .ok next => some (next.resolveAbsolute ⟨[[97], [109]], by decide⟩)) =
        some (.ok ⟨0, [[97], [109]]⟩) := by
    decide +kernel
  split at mounts
  · cases mounts
  · next next mounted =>
    refine ⟨_, by rw [step, call, mounted], ?_⟩
    intro intact
    have covered := intact.covered _ _ ⟨[[108], [109]], by decide⟩
      ⟨0, [[97], [109]]⟩ rfl mounted (by decide +kernel)
      (by decide +kernel) ⟨[[97], [109]], by decide⟩ (by decide +kernel)
    cases (Option.some.inj mounts).symm.trans covered

end Xenith.Fs.Vfs

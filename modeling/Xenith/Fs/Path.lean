import Xenith.Fs.Descriptors

/-!
# Paths

Normalisation of paths as in `kernel/src/fs/path.rs`.  A normalised path is
kept as the list of its components, which are all valid names; its text is the
components, each behind a slash.
-/

namespace Xenith.Fs

abbrev Name := List UInt8

def maxPath : Nat := 4096

def maxName : Nat := 255

def slash : UInt8 := 47

def dot : UInt8 := 46

def validateName (name : Name) : Except FsError Unit :=
  if name = [] ∨ name = [dot] ∨ name = [dot, dot] ∨ slash ∈ name ∨ 0 ∈ name
  then .error .invalidInput
  else if maxName < name.length then .error .nameTooLong
  else .ok ()

@[ext]
structure PathBuf where
  parts : List Name
  valid : ∀ name ∈ parts, validateName name = .ok ()
deriving DecidableEq

namespace PathBuf

def root : PathBuf where
  parts := []
  valid := fun _ member => absurd member List.not_mem_nil

def len (path : PathBuf) : Nat :=
  if path.parts = [] then 1
  else (path.parts.map (fun name => name.length + 1)).sum

def isRoot (path : PathBuf) : Bool :=
  decide (path.parts = [])

def pop (path : PathBuf) : PathBuf where
  parts := path.parts.dropLast
  valid := fun name member => path.valid name (List.dropLast_subset _ member)

def push (path : PathBuf) (name : Name) (validName : validateName name = .ok ()) : PathBuf where
  parts := path.parts ++ [name]
  valid := List.forall_mem_append.mpr ⟨path.valid, List.forall_mem_singleton.mpr validName⟩

def pushComponents (path : PathBuf) : List Name → Except FsError PathBuf
  | [] => .ok path
  | raw :: rest =>
    if raw = [] ∨ raw = [dot] then pushComponents path rest
    else if raw = [dot, dot] then pushComponents path.pop rest
    else
      match validName : validateName raw with
      | .error error => .error error
      | .ok () => pushComponents (path.push raw validName) rest

/-- The components of `base` are valid, so that pushing them again yields
`base`. -/
def normalizeWithBase (path : List UInt8) (base : PathBuf) : Except FsError PathBuf :=
  if path = [] ∨ 0 ∈ path then .error .invalidInput
  else if maxPath < path.length then .error .nameTooLong
  else
    let start := if path.head? = some slash then root else base
    match pushComponents start (path.splitOn slash) with
    | .error error => .error error
    | .ok normalized =>
      if maxPath < normalized.len then .error .nameTooLong
      else .ok normalized

def fromAbsolute (path : List UInt8) : Except FsError PathBuf :=
  if path.head? ≠ some slash then .error .invalidInput
  else normalizeWithBase path root

def join (path : PathBuf) (child : List UInt8) : Except FsError PathBuf :=
  normalizeWithBase child path

def parent (path : PathBuf) : Option PathBuf :=
  if path.isRoot then none else some path.pop

def fileName (path : PathBuf) : Option Name :=
  path.parts.getLast?

/-- `path_has_prefix` -/
def startsWith (path front : PathBuf) : Bool :=
  front.parts.isPrefixOf path.parts

end PathBuf

def absolutize (currentDir : PathBuf) (path : List UInt8) : Except FsError PathBuf :=
  if path.head? = some slash then PathBuf.fromAbsolute path
  else PathBuf.normalizeWithBase path currentDir

namespace PathBuf

variable {path front : PathBuf}

theorem startsWith_iff : path.startsWith front = true ↔ front.parts <+: path.parts :=
  List.isPrefixOf_iff_prefix

theorem name_ne_nil {name : Name} (member : name ∈ path.parts) : name ≠ [] := by
  intro empty
  have validName := path.valid name member
  rw [empty] at validName
  cases validName

theorem len_lt_of_prefix (isFront : front.parts <+: path.parts)
    (different : front.parts ≠ path.parts) : front.len < path.len := by
  obtain ⟨rest, whole⟩ := isFront
  have nonempty : rest ≠ [] := by
    intro empty
    rw [empty, List.append_nil] at whole
    exact different whole
  obtain ⟨name, _, rfl⟩ := List.exists_cons_of_ne_nil nonempty
  have member : name ∈ path.parts := by
    rw [← whole]
    exact List.mem_append_right _ (List.mem_cons_self ..)
  have positive := List.length_pos_of_ne_nil (name_ne_nil member)
  have pathNonempty : path.parts ≠ [] := List.ne_nil_of_mem member
  unfold len
  rw [if_neg pathNonempty, ← whole, List.map_append, List.sum_append, List.map_cons, List.sum_cons]
  split
  · omega
  · omega

end PathBuf

end Xenith.Fs

import Xenith.Pe.Image

/-!
# Base relocations

`scan_base_relocations` of `crates/xenith-pe/src/relocation.rs` with a visitor
that does nothing.
-/

namespace Xenith.Pe

open Fallible

def relocationTypeAbsolute : Nat := 0

def relocationTypeDir64 : Nat := 10

def maxBaseRelocations : Nat := 65536

def relocationBlockHeaderSize : Nat := 8

def relocationEntrySize : Nat := 2

def relocationPageSize : Nat := 0x1000

structure BaseRelocationPlan where
  preferredImageBase : Nat
  actualImageBase : Nat
  imageDelta : Int
  patchCount : Nat
deriving DecidableEq

def relocateValue (original preferredBase actualBase targetRva : Nat) : Except PeError Nat :=
  if preferredBase ≤ actualBase then
    expect (checkedAdd original (actualBase - preferredBase))
      (.relocatedValueOverflow targetRva original)
  else do
    require (preferredBase - actualBase ≤ original) (.relocatedValueOverflow targetRva original)
    pure (original - (preferredBase - actualBase))

/-- One DIR64 entry of a page. -/
def checkPatch (image : PeImage) (actualBase pageRva pageOffset : Nat) : Except PeError Unit := do
  let targetRva ←
    expect (checkedAdd32 pageRva pageOffset) (.relocationTargetOverflow pageRva pageOffset)
  let source ← image.sectionBytes targetRva 8
  let _ ← relocateValue (Bytes.decodeLE source) image.optional.imageBase actualBase targetRva
  pure ()

/-- The number of patches behind the entries of a block. -/
def scanEntries (image : PeImage) (actualBase pageRva : Nat) (data : List UInt8) :
    Nat → Nat → Nat → Except PeError Nat
  | 0, _, patchCount => pure patchCount
  | count + 1, entryCursor, patchCount => do
      let raw := Bytes.decodeLE ((data.drop entryCursor).take relocationEntrySize)
      let relocationType := raw >>> 12
      let pageOffset := raw &&& 0x0fff
      if relocationType = relocationTypeAbsolute then
        scanEntries image actualBase pageRva data count
          (entryCursor + relocationEntrySize) patchCount
      else do
        require (relocationType = relocationTypeDir64)
          (.unsupportedRelocationType relocationType pageRva pageOffset)
        require (patchCount + 1 ≤ maxBaseRelocations)
          (.tooManyBaseRelocations (patchCount + 1) maxBaseRelocations)
        checkPatch image actualBase pageRva pageOffset
        scanEntries image actualBase pageRva data count
          (entryCursor + relocationEntrySize) (patchCount + 1)

def checkPage (image : PeImage) (previous : Option Nat) (pageRva : Nat) : Except PeError Unit := do
  require (pageRva &&& (relocationPageSize - 1) = 0) (.relocationPageMisaligned pageRva)
  require (pageRva < image.optional.sizeOfImage) (.relocationPageOutsideImage pageRva)
  match previous with
  | none => pure ()
  | some previous => require (previous < pageRva) (.relocationPagesNotIncreasing previous pageRva)

def scanBlocks (image : PeImage) (actualBase : Nat) (data : List UInt8)
    (cursor patchCount : Nat) (previous : Option Nat) : Except PeError Nat :=
  let remaining := data.length - cursor
  if remaining = 0 then pure patchCount
  else if remaining < relocationBlockHeaderSize then
    .error (.relocationBlockHeaderTruncated cursor remaining)
  else
    let pageRva := Bytes.decodeLE ((data.drop cursor).take 4)
    let blockSize := Bytes.decodeLE ((data.drop (cursor + 4)).take 4)
    if _invalid : blockSize < relocationBlockHeaderSize ∨
        blockSize &&& 3 ≠ 0 ∨ remaining < blockSize then
      .error (.invalidRelocationBlockSize cursor blockSize remaining)
    else
      match checkPage image previous pageRva with
      | .error error => .error error
      | .ok () =>
        match scanEntries image actualBase pageRva data
            ((blockSize - relocationBlockHeaderSize) / relocationEntrySize)
            (cursor + relocationBlockHeaderSize) patchCount with
        | .error error => .error error
        | .ok patchCount =>
          scanBlocks image actualBase data (cursor + blockSize) patchCount (some pageRva)
termination_by data.length - cursor
decreasing_by
  simp only [relocationBlockHeaderSize, not_or, not_lt] at _invalid
  omega

def PeImage.baseRelocationPlan (image : PeImage) (actualImageBase : Nat) :
    Except PeError BaseRelocationPlan := do
  let preferred := image.optional.imageBase
  require (actualImageBase &&& (imageBaseAlignment - 1) = 0)
    (.invalidActualImageBase actualImageBase)
  let _ ← expect (checkedAdd actualImageBase image.optional.sizeOfImage) .actualImageAddressOverflow
  match (image.directories[imageDirectoryEntryBasereloc]?).filter
      (fun directory => !directory.isEmpty) with
  | none => do
      require (actualImageBase = preferred)
        (.relocationsRequiredButMissing preferred actualImageBase)
      pure
        { preferredImageBase := preferred
          actualImageBase := actualImageBase
          imageDelta := 0
          patchCount := 0 }
  | some directory => do
      let data ← image.sectionBytes directory.address directory.size
      let patchCount ← scanBlocks image actualImageBase data 0 0 none
      pure
        { preferredImageBase := preferred
          actualImageBase := actualImageBase
          imageDelta := (actualImageBase : Int) - preferred
          patchCount := patchCount }

end Xenith.Pe

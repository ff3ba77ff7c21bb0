import Xenith.Lib.Bytes
import Xenith.Lib.Fallible
import Xenith.Lib.Word

/-!
# PE32+ images

The parser of `crates/xenith-pe` and the loader plan of `plan.rs`.  Header
fields that nothing reads are left out; their range has been checked before.
-/

namespace Xenith.Pe

open Fallible

inductive PeError where
  | truncated (offset size : Nat)
  | arithmeticOverflow (field : String)
  | badDosMagic (found : Nat)
  | peHeaderOverlapsDosHeader (offset : Nat)
  | badPeSignature (found : Nat)
  | unsupportedMachine (found : Nat)
  | noSections
  | tooManySections (count : Nat)
  | optionalHeaderTooSmall (size : Nat)
  | badOptionalMagic (found : Nat)
  | tooManyDataDirectories (count : Nat)
  | dataDirectoriesTruncated (count optionalHeaderSize : Nat)
  | invalidFileAlignment (value : Nat)
  | invalidSectionAlignment (value : Nat)
  | invalidAlignmentRelationship (sectionAlignment fileAlignment : Nat)
  | invalidImageBase (value : Nat)
  | imageAddressOverflow
  | invalidSizeOfImage (value : Nat)
  | imageTooLarge (value maximum : Nat)
  | invalidSizeOfHeaders (value : Nat)
  | sectionTableOutsideHeaders (sectionTableEnd sizeOfHeaders : Nat)
  | entryPointOutsideImage (rva : Nat)
  | entryPointNotExecutable (rva : Nat)
  | invalidStackSizes (reserve commit : Nat)
  | invalidHeapSizes (reserve commit : Nat)
  | sectionVirtualAddressMisaligned (index value : Nat)
  | sectionRawSizeMisaligned (index value : Nat)
  | sectionRawPointerMisaligned (index value : Nat)
  | lowAlignmentSectionOffsetMismatch (index virtualAddress pointerToRawData : Nat)
  | sectionRawDataOverlapsHeaders (index offset : Nat)
  | sectionRawDataOutsideFile (index offset size : Nat)
  | sectionVirtualRangeOverlapsHeaders (index virtualAddress : Nat)
  | sectionVirtualRangeOutsideImage (index virtualAddress mappedSize : Nat)
  | virtualSectionsOverlap (first second : Nat)
  | rawSectionsOverlap (first second : Nat)
  | writeExecuteSection (index : Nat)
  | sizeOfImageMismatch (declared required : Nat)
  | incompleteDataDirectory (directory address size : Nat)
  | dataDirectoryOutsideImage (directory rva size : Nat)
  | dataDirectoryNotFileBacked (directory rva size : Nat)
  | certificateTableMisaligned (offset : Nat)
  | certificateTableOutsideFile (offset size : Nat)
  | rvaOutsideImage (rva size : Nat)
  | rvaNotFileBacked (rva size : Nat)
  | rvaNotSectionBacked (rva size : Nat)
  | rvaTouchesVirtualZeroFill (index rva size : Nat)
  | invalidActualImageBase (value : Nat)
  | actualImageAddressOverflow
  | relocationsRequiredButMissing (preferredImageBase actualImageBase : Nat)
  | relocationBlockHeaderTruncated (directoryOffset remaining : Nat)
  | invalidRelocationBlockSize (directoryOffset blockSize remaining : Nat)
  | relocationPageMisaligned (pageRva : Nat)
  | relocationPageOutsideImage (pageRva : Nat)
  | relocationPagesNotIncreasing (previousPageRva pageRva : Nat)
  | unsupportedRelocationType (relocationType pageRva pageOffset : Nat)
  | tooManyBaseRelocations (count maximum : Nat)
  | relocationTargetOverflow (pageRva pageOffset : Nat)
  | relocatedValueOverflow (targetRva originalValue : Nat)
deriving DecidableEq

def readBytes (bytes : List UInt8) (offset size : Nat) : Except PeError (List UInt8) := do
  let stop ← expect (checkedAdd offset size) (.arithmeticOverflow "file range")
  require (stop ≤ bytes.length) (.truncated offset size)
  pure ((bytes.drop offset).take size)

def readU16 (bytes : List UInt8) (offset : Nat) : Except PeError Nat :=
  Bytes.decodeLE <$> readBytes bytes offset 2

def readU32 (bytes : List UInt8) (offset : Nat) : Except PeError Nat :=
  Bytes.decodeLE <$> readBytes bytes offset 4

def readU64 (bytes : List UInt8) (offset : Nat) : Except PeError Nat :=
  Bytes.decodeLE <$> readBytes bytes offset 8

def addField (left right : Nat) (field : String) : Except PeError Nat :=
  expect (checkedAdd left right) (.arithmeticOverflow field)

def mulField (left right : Nat) (field : String) : Except PeError Nat :=
  expect (checkedMul left right) (.arithmeticOverflow field)

/-- `rounded & !mask` is the sum without its masked bits. -/
def alignUp (value alignment : Nat) (field : String) : Except PeError Nat := do
  let mask := alignment - 1
  let rounded ← expect (checkedAdd32 value mask) (.arithmeticOverflow field)
  pure (rounded - (rounded &&& mask))

/-! ## Headers -/

def maxSections : Nat := 96

def maxDataDirectories : Nat := 16

def maxImageSize : Nat := 512 * 1024 * 1024

def imageFileMachineAmd64 : Nat := 0x8664

def imageNtOptionalHdr64Magic : Nat := 0x020b

def imageDirectoryEntrySecurity : Nat := 4

def imageDirectoryEntryBasereloc : Nat := 5

def imageScnMemExecute : Nat := 0x20000000

def imageScnMemRead : Nat := 0x40000000

def imageScnMemWrite : Nat := 0x80000000

def dosHeaderSize : Nat := 64

def peSignature : Nat := 0x00004550

def peSignatureSize : Nat := 4

def coffHeaderSize : Nat := 20

def optionalHeader64FixedSize : Nat := 112

def dataDirectorySize : Nat := 8

def sectionHeaderSize : Nat := 40

def minFileAlignment : Nat := 0x200

def maxFileAlignment : Nat := 0x10000

def pageSize : Nat := 0x1000

def imageBaseAlignment : Nat := 0x10000

structure CoffHeader where
  machine : Nat
  numberOfSections : Nat
  sizeOfOptionalHeader : Nat
deriving DecidableEq

structure OptionalHeader64 where
  addressOfEntryPoint : Nat
  imageBase : Nat
  sectionAlignment : Nat
  fileAlignment : Nat
  sizeOfImage : Nat
  sizeOfHeaders : Nat
  sizeOfStackReserve : Nat
  sizeOfStackCommit : Nat
  sizeOfHeapReserve : Nat
  sizeOfHeapCommit : Nat
  numberOfRvaAndSizes : Nat
deriving DecidableEq

structure DataDirectory where
  address : Nat
  size : Nat
deriving DecidableEq

def DataDirectory.isEmpty (directory : DataDirectory) : Bool :=
  decide (directory.address = 0) && decide (directory.size = 0)

structure SectionHeader where
  name : List UInt8
  virtualSize : Nat
  virtualAddress : Nat
  sizeOfRawData : Nat
  pointerToRawData : Nat
  characteristics : Nat
  mappedSize : Nat
deriving DecidableEq

structure PeImage where
  bytes : List UInt8
  optional : OptionalHeader64
  directories : List DataDirectory
  sections : List SectionHeader
deriving DecidableEq

structure FileRange where
  offset : Nat
  size : Nat
deriving DecidableEq

def parseCoffHeader (bytes : List UInt8) (offset : Nat) : Except PeError CoffHeader := do
  let _ ← readBytes bytes offset coffHeaderSize
  let machine ← readU16 bytes offset
  let numberOfSections ← readU16 bytes (offset + 2)
  let sizeOfOptionalHeader ← readU16 bytes (offset + 16)
  pure { machine, numberOfSections, sizeOfOptionalHeader }

def checkCoffHeader (coff : CoffHeader) : Except PeError Unit := do
  require (coff.machine = imageFileMachineAmd64) (.unsupportedMachine coff.machine)
  require (coff.numberOfSections ≠ 0) .noSections
  require (coff.numberOfSections ≤ maxSections) (.tooManySections coff.numberOfSections)
  require (optionalHeader64FixedSize ≤ coff.sizeOfOptionalHeader)
    (.optionalHeaderTooSmall coff.sizeOfOptionalHeader)

def parseOptionalHeader (bytes : List UInt8) (offset : Nat) : Except PeError OptionalHeader64 := do
  let magic ← readU16 bytes offset
  require (magic = imageNtOptionalHdr64Magic) (.badOptionalMagic magic)
  let addressOfEntryPoint ← readU32 bytes (offset + 16)
  let imageBase ← readU64 bytes (offset + 24)
  let sectionAlignment ← readU32 bytes (offset + 32)
  let fileAlignment ← readU32 bytes (offset + 36)
  let sizeOfImage ← readU32 bytes (offset + 56)
  let sizeOfHeaders ← readU32 bytes (offset + 60)
  let sizeOfStackReserve ← readU64 bytes (offset + 72)
  let sizeOfStackCommit ← readU64 bytes (offset + 80)
  let sizeOfHeapReserve ← readU64 bytes (offset + 88)
  let sizeOfHeapCommit ← readU64 bytes (offset + 96)
  let numberOfRvaAndSizes ← readU32 bytes (offset + 108)
  pure
    { addressOfEntryPoint, imageBase, sectionAlignment, fileAlignment,
      sizeOfImage, sizeOfHeaders, sizeOfStackReserve, sizeOfStackCommit,
      sizeOfHeapReserve, sizeOfHeapCommit, numberOfRvaAndSizes }

def validateAlignments (optional : OptionalHeader64) : Except PeError Unit := do
  require (IsPowerOfTwo optional.sectionAlignment)
    (.invalidSectionAlignment optional.sectionAlignment)
  require (IsPowerOfTwo optional.fileAlignment) (.invalidFileAlignment optional.fileAlignment)
  require
    ((minFileAlignment ≤ optional.fileAlignment ∧ optional.fileAlignment ≤ maxFileAlignment) ∨
      (optional.sectionAlignment < pageSize ∧ optional.fileAlignment = optional.sectionAlignment))
    (.invalidFileAlignment optional.fileAlignment)
  require
    (optional.fileAlignment ≤ optional.sectionAlignment ∧
      ¬ (optional.sectionAlignment < pageSize ∧ optional.sectionAlignment ≠ optional.fileAlignment))
    (.invalidAlignmentRelationship optional.sectionAlignment optional.fileAlignment)

def validateSizes (optional : OptionalHeader64) : Except PeError Unit := do
  require (optional.imageBase &&& (imageBaseAlignment - 1) = 0)
    (.invalidImageBase optional.imageBase)
  let _ ← expect (checkedAdd optional.imageBase optional.sizeOfImage) .imageAddressOverflow
  require
    (optional.sizeOfImage ≠ 0 ∧ optional.sizeOfImage &&& (optional.sectionAlignment - 1) = 0)
    (.invalidSizeOfImage optional.sizeOfImage)
  require (optional.sizeOfImage ≤ maxImageSize) (.imageTooLarge optional.sizeOfImage maxImageSize)
  require
    (optional.sizeOfHeaders ≠ 0 ∧
      optional.sizeOfHeaders &&& (optional.fileAlignment - 1) = 0 ∧
      optional.sizeOfHeaders ≤ optional.sizeOfImage)
    (.invalidSizeOfHeaders optional.sizeOfHeaders)
  require
    (optional.addressOfEntryPoint < optional.sizeOfImage ∨ optional.addressOfEntryPoint = 0)
    (.entryPointOutsideImage optional.addressOfEntryPoint)
  require (optional.sizeOfStackCommit ≤ optional.sizeOfStackReserve)
    (.invalidStackSizes optional.sizeOfStackReserve optional.sizeOfStackCommit)
  require (optional.sizeOfHeapCommit ≤ optional.sizeOfHeapReserve)
    (.invalidHeapSizes optional.sizeOfHeapReserve optional.sizeOfHeapCommit)

def validateOptionalHeader (optional : OptionalHeader64) : Except PeError Unit := do
  validateAlignments optional
  validateSizes optional

def checkDirectoryTable (coff : CoffHeader) (optional : OptionalHeader64) :
    Except PeError Unit := do
  require (optional.numberOfRvaAndSizes ≤ maxDataDirectories)
    (.tooManyDataDirectories optional.numberOfRvaAndSizes)
  let directoryBytes ←
    mulField optional.numberOfRvaAndSizes dataDirectorySize "data-directory table size"
  let requiredOptionalSize ←
    addField optionalHeader64FixedSize directoryBytes "required optional-header size"
  require (requiredOptionalSize ≤ coff.sizeOfOptionalHeader)
    (.dataDirectoriesTruncated optional.numberOfRvaAndSizes coff.sizeOfOptionalHeader)

def parseDirectories (bytes : List UInt8) (tableOffset : Nat) :
    Nat → Nat → Except PeError (List DataDirectory)
  | _, 0 => pure []
  | index, count + 1 => do
      let offset ← addField tableOffset (index * dataDirectorySize) "data-directory offset"
      let address ← readU32 bytes offset
      let size ← readU32 bytes (offset + 4)
      let rest ← parseDirectories bytes tableOffset (index + 1) count
      pure ({ address, size } :: rest)

/-! ## Sections -/

def parseSectionHeader (bytes : List UInt8) (offset : Nat) : Except PeError SectionHeader := do
  let name ← readBytes bytes offset 8
  let virtualSize ← readU32 bytes (offset + 8)
  let virtualAddress ← readU32 bytes (offset + 12)
  let sizeOfRawData ← readU32 bytes (offset + 16)
  let pointerToRawData ← readU32 bytes (offset + 20)
  let characteristics ← readU32 bytes (offset + 36)
  pure
    { name, virtualSize, virtualAddress, sizeOfRawData, pointerToRawData,
      characteristics, mappedSize := 0 }

def validateRawData (fileSize index : Nat) (header : SectionHeader)
    (optional : OptionalHeader64) : Except PeError Unit :=
  if header.sizeOfRawData = 0 then pure ()
  else do
    require
      (¬ (optional.sectionAlignment < pageSize ∧ header.pointerToRawData ≠ header.virtualAddress))
      (.lowAlignmentSectionOffsetMismatch index header.virtualAddress header.pointerToRawData)
    require (header.pointerToRawData &&& (optional.fileAlignment - 1) = 0)
      (.sectionRawPointerMisaligned index header.pointerToRawData)
    require (optional.sizeOfHeaders ≤ header.pointerToRawData)
      (.sectionRawDataOverlapsHeaders index header.pointerToRawData)
    let rawEnd ←
      expect (checkedAdd32 header.pointerToRawData header.sizeOfRawData)
        (.sectionRawDataOutsideFile index header.pointerToRawData header.sizeOfRawData)
    require (rawEnd ≤ fileSize)
      (.sectionRawDataOutsideFile index header.pointerToRawData header.sizeOfRawData)

def SectionHeader.isWritable (header : SectionHeader) : Bool :=
  decide (header.characteristics &&& imageScnMemWrite ≠ 0)

def SectionHeader.isExecutable (header : SectionHeader) : Bool :=
  decide (header.characteristics &&& imageScnMemExecute ≠ 0)

def validateMapped (index : Nat) (header : SectionHeader)
    (optional : OptionalHeader64) (headerMappedSize : Nat) :
    Except PeError Unit :=
  if header.mappedSize = 0 then pure ()
  else do
    require (headerMappedSize ≤ header.virtualAddress)
      (.sectionVirtualRangeOverlapsHeaders index header.virtualAddress)
    let virtualEnd ←
      expect (checkedAdd32 header.virtualAddress header.mappedSize)
        (.sectionVirtualRangeOutsideImage index header.virtualAddress header.mappedSize)
    require (virtualEnd ≤ optional.sizeOfImage)
      (.sectionVirtualRangeOutsideImage index header.virtualAddress header.mappedSize)
    require (¬ (header.isWritable = true ∧ header.isExecutable = true)) (.writeExecuteSection index)

/-- The section with its mapped size. -/
def validateSection (fileSize index : Nat) (header : SectionHeader)
    (optional : OptionalHeader64) (headerMappedSize : Nat) :
    Except PeError SectionHeader := do
  require (header.virtualAddress &&& (optional.sectionAlignment - 1) = 0)
    (.sectionVirtualAddressMisaligned index header.virtualAddress)
  require (header.sizeOfRawData &&& (optional.fileAlignment - 1) = 0)
    (.sectionRawSizeMisaligned index header.sizeOfRawData)
  validateRawData fileSize index header optional
  let mappedSize ←
    alignUp (max header.virtualSize header.sizeOfRawData)
      optional.sectionAlignment "section load size"
  let mapped := { header with mappedSize := mappedSize }
  validateMapped index mapped optional headerMappedSize
  pure mapped

/-- The sections from an index on, and the image size they need. -/
def parseSections (bytes : List UInt8) (tableOffset : Nat)
    (optional : OptionalHeader64) (headerMappedSize : Nat) :
    Nat → Nat → Nat → Except PeError (List SectionHeader × Nat)
  | _, 0, required => pure ([], required)
  | index, count + 1, required => do
      let offset ← addField tableOffset (index * sectionHeaderSize) "section-header offset"
      let parsed ← parseSectionHeader bytes offset
      let header ← validateSection bytes.length index parsed optional headerMappedSize
      let stop ←
        expect (checkedAdd32 header.virtualAddress header.mappedSize)
          (.arithmeticOverflow "section virtual end")
      let (rest, required) ←
        parseSections bytes tableOffset optional headerMappedSize
          (index + 1) count (max required stop)
      pure (header :: rest, required)

def rangesOverlap (firstStart firstSize secondStart secondSize : Nat) : Bool :=
  if firstSize = 0 ∨ secondSize = 0 then false
  else
    match checkedAdd32 firstStart firstSize, checkedAdd32 secondStart secondSize with
    | some firstEnd, some secondEnd =>
      decide (firstStart < secondEnd) && decide (secondStart < firstEnd)
    | _, _ => true

def overlapsNone (first : Nat) (header : SectionHeader) :
    Nat → List SectionHeader → Except PeError Unit
  | _, [] => pure ()
  | second, other :: rest => do
      require
        (rangesOverlap header.virtualAddress header.mappedSize
          other.virtualAddress other.mappedSize = false)
        (.virtualSectionsOverlap first second)
      require
        (rangesOverlap header.pointerToRawData header.sizeOfRawData
          other.pointerToRawData other.sizeOfRawData = false)
        (.rawSectionsOverlap first second)
      overlapsNone first header (second + 1) rest

def validateSectionOverlaps : Nat → List SectionHeader → Except PeError Unit
  | _, [] => pure ()
  | first, header :: rest => do
      overlapsNone first header (first + 1) rest
      validateSectionOverlaps (first + 1) rest

def SectionHeader.hasEntry (header : SectionHeader) (entry : Nat) : Bool :=
  match checkedAdd32 header.virtualAddress header.mappedSize with
  | none => false
  | some stop =>
    decide (header.virtualAddress ≤ entry) && decide (entry < stop) && header.isExecutable

def validateEntryPoint (optional : OptionalHeader64)
    (sections : List SectionHeader) : Except PeError Unit :=
  let entry := optional.addressOfEntryPoint
  if entry = 0 then pure ()
  else
    require (sections.any (fun header => header.hasEntry entry) = true)
      (.entryPointNotExecutable entry)

/-! ## Ranges of the image -/

def rvaInSections (bytes : List UInt8) (rva size stop : Nat) :
    List SectionHeader → Except PeError FileRange
  | [] => .error (.rvaNotFileBacked rva size)
  | header :: rest => do
      let rawEndRva ←
        expect (checkedAdd32 header.virtualAddress header.sizeOfRawData)
          (.rvaNotFileBacked rva size)
      if header.virtualAddress ≤ rva ∧ stop ≤ rawEndRva then do
        let offset ←
          expect
            (checkedAdd32 header.pointerToRawData (rva - header.virtualAddress))
            (.rvaNotFileBacked rva size)
        let fileEnd ← expect (checkedAdd32 offset size) (.rvaNotFileBacked rva size)
        require (fileEnd ≤ bytes.length) (.rvaNotFileBacked rva size)
        pure { offset, size }
      else rvaInSections bytes rva size stop rest

def PeImage.rvaToFileRange (image : PeImage) (rva size : Nat) : Except PeError FileRange := do
  let stop ← expect (checkedAdd32 rva size) (.rvaOutsideImage rva size)
  require (stop ≤ image.optional.sizeOfImage) (.rvaOutsideImage rva size)
  if rva < image.optional.sizeOfHeaders ∧ stop ≤ image.optional.sizeOfHeaders then
    pure { offset := rva, size }
  else rvaInSections image.bytes rva size stop image.sections

def sectionRange (rva size stop : Nat) : Nat → List SectionHeader → Except PeError FileRange
  | _, [] => .error (.rvaNotSectionBacked rva size)
  | index, header :: rest => do
      let mappedEnd ←
        expect (checkedAdd32 header.virtualAddress header.mappedSize)
          (.rvaNotSectionBacked rva size)
      if header.virtualAddress ≤ rva ∧
          (if size = 0 then rva ≤ mappedEnd else rva < mappedEnd) then do
        let rawEnd ←
          expect (checkedAdd32 header.virtualAddress header.sizeOfRawData)
            (.rvaNotSectionBacked rva size)
        if stop ≤ rawEnd then do
          let offset ←
            expect
              (checkedAdd32 header.pointerToRawData (rva - header.virtualAddress))
              (.rvaNotSectionBacked rva size)
          pure { offset, size }
        else if stop ≤ mappedEnd then .error (.rvaTouchesVirtualZeroFill index rva size)
        else .error (.rvaNotSectionBacked rva size)
      else sectionRange rva size stop (index + 1) rest

def PeImage.sectionFileRange (image : PeImage) (rva size : Nat) : Except PeError FileRange := do
  let stop ← expect (checkedAdd32 rva size) (.rvaOutsideImage rva size)
  require (stop ≤ image.optional.sizeOfImage) (.rvaOutsideImage rva size)
  sectionRange rva size stop 0 image.sections

def PeImage.sectionBytes (image : PeImage) (rva size : Nat) : Except PeError (List UInt8) := do
  let range ← image.sectionFileRange rva size
  readBytes image.bytes range.offset range.size

def PeImage.validateDirectory (image : PeImage) (index : Nat)
    (directory : DataDirectory) : Except PeError Unit :=
  if directory.isEmpty then pure ()
  else do
    require (directory.address ≠ 0 ∧ directory.size ≠ 0)
      (.incompleteDataDirectory index directory.address directory.size)
    if index = imageDirectoryEntrySecurity then do
      require (directory.address &&& 7 = 0) (.certificateTableMisaligned directory.address)
      let stop ←
        expect (checkedAdd32 directory.address directory.size)
          (.certificateTableOutsideFile directory.address directory.size)
      require (stop ≤ image.bytes.length)
        (.certificateTableOutsideFile directory.address directory.size)
    else do
      let stop ←
        expect (checkedAdd32 directory.address directory.size)
          (.dataDirectoryOutsideImage index directory.address directory.size)
      require (stop ≤ image.optional.sizeOfImage)
        (.dataDirectoryOutsideImage index directory.address directory.size)
      match image.rvaToFileRange directory.address directory.size with
      | .ok _ => pure ()
      | .error _ => .error (.dataDirectoryNotFileBacked index directory.address directory.size)

def PeImage.validateDirectories (image : PeImage) : Nat → List DataDirectory → Except PeError Unit
  | _, [] => pure ()
  | index, directory :: rest => do
      image.validateDirectory index directory
      image.validateDirectories (index + 1) rest

/-- The offset of the optional header and the COFF header before it. -/
def parseCoff (bytes : List UInt8) : Except PeError (Nat × CoffHeader) := do
  let dosMagic ← readU16 bytes 0
  require (dosMagic = 0x5a4d) (.badDosMagic dosMagic)
  let peOffset ← readU32 bytes 0x3c
  require (dosHeaderSize ≤ peOffset) (.peHeaderOverlapsDosHeader peOffset)
  let signature ← readU32 bytes peOffset
  require (signature = peSignature) (.badPeSignature signature)
  let coffOffset ← addField peOffset peSignatureSize "COFF header offset"
  let coff ← parseCoffHeader bytes coffOffset
  checkCoffHeader coff
  let optionalOffset ← addField coffOffset coffHeaderSize "optional header offset"
  let _ ← readBytes bytes optionalOffset coff.sizeOfOptionalHeader
  pure (optionalOffset, coff)

/-- The offset of the section table, which lies in the headers. -/
def locateSectionTable (bytes : List UInt8) (optionalOffset : Nat)
    (coff : CoffHeader) (optional : OptionalHeader64) :
    Except PeError Nat := do
  let sectionTableOffset ← addField optionalOffset coff.sizeOfOptionalHeader "section-table offset"
  let sectionTableSize ← mulField coff.numberOfSections sectionHeaderSize "section-table size"
  let sectionTableEnd ← addField sectionTableOffset sectionTableSize "section-table end"
  let _ ← readBytes bytes sectionTableOffset sectionTableSize
  require (sectionTableEnd ≤ optional.sizeOfHeaders)
    (.sectionTableOutsideHeaders sectionTableEnd optional.sizeOfHeaders)
  let _ ← readBytes bytes 0 optional.sizeOfHeaders
  pure sectionTableOffset

def PeImage.parse (bytes : List UInt8) : Except PeError PeImage := do
  let (optionalOffset, coff) ← parseCoff bytes
  let optional ← parseOptionalHeader bytes optionalOffset
  validateOptionalHeader optional
  checkDirectoryTable coff optional
  let sectionTableOffset ← locateSectionTable bytes optionalOffset coff optional
  let directories ←
    parseDirectories bytes (optionalOffset + optionalHeader64FixedSize) 0
      optional.numberOfRvaAndSizes
  let headerMappedSize ←
    alignUp optional.sizeOfHeaders optional.sectionAlignment "mapped header size"
  let (sections, required) ←
    parseSections bytes sectionTableOffset optional headerMappedSize 0
      coff.numberOfSections headerMappedSize
  validateSectionOverlaps 0 sections
  validateEntryPoint optional sections
  require (optional.sizeOfImage = required) (.sizeOfImageMismatch optional.sizeOfImage required)
  let image : PeImage := { bytes, optional, directories, sections }
  image.validateDirectories 0 directories
  pure image

/-! ## The loader plan -/

structure LoadPermissions where
  read : Bool
  write : Bool
  execute : Bool
deriving DecidableEq

def LoadPermissions.fromCharacteristics (header : SectionHeader) : LoadPermissions where
  read := decide (header.characteristics &&& imageScnMemRead ≠ 0)
  write := header.isWritable
  execute := header.isExecutable

structure SectionLoad where
  name : List UInt8
  rva : Nat
  size : Nat
  permissions : LoadPermissions
deriving DecidableEq

structure LoaderPlan where
  imageBase : Nat
  sizeOfImage : Nat
  entryRva : Nat
  headersSize : Nat
  sections : List SectionLoad
deriving DecidableEq

def SectionLoad.ofHeader (header : SectionHeader) : SectionLoad where
  name := header.name
  rva := header.virtualAddress
  size := header.mappedSize
  permissions := .fromCharacteristics header

def PeImage.loaderPlan (image : PeImage) : Except PeError LoaderPlan := do
  let headersSize ←
    alignUp image.optional.sizeOfHeaders image.optional.sectionAlignment "mapped headers"
  pure
    { imageBase := image.optional.imageBase
      sizeOfImage := image.optional.sizeOfImage
      entryRva := image.optional.addressOfEntryPoint
      headersSize := headersSize
      sections := image.sections.map SectionLoad.ofHeader }

end Xenith.Pe

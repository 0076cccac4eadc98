import Pagewright.Bundle.Archive
import Pagewright.Bundle.Checksum

/-!
# The bytes of an archive

An archive file holds a header and the data of each entry, a directory that repeats the headers
with the places of the entries, and an end record. Data are a deflate stream of stored blocks, so
every reader of archives accepts them. All entries carry the earliest time stamp of the format and
the mode of a plain file, so equal bundles are equal files. The length of a name has two bytes,
which is enough for the names of entries that fit (`ArchiveEntry.fits`). Sizes and places have four
bytes and the number of entries has two; what is too large for these stands in a wide field or a
wide end record.
-/

namespace Pagewright.Zip

/-- The lowest `width` bytes of a number, low byte first. -/
def bytesOf : (width : Nat) → Nat → List UInt8
  | 0, _ => []
  | width + 1, n => UInt8.ofNat n :: bytesOf width (n / 256)

/-- The greatest length of a stored block. -/
def blockLimit : Nat := 65535

/-- A stored block. -/
def storedBlock (isLast : Bool) (block : List UInt8) : List UInt8 :=
  (if isLast then 1 else 0) :: bytesOf 2 block.length ++ bytesOf 2 (blockLimit - block.length) ++
    block

/-- The stored blocks of data that has at most `blocks + 1` times the length of a block. -/
def storedBlocks : (blocks : Nat) → List UInt8 → List UInt8
  | 0, data => storedBlock true data
  | blocks + 1, data =>
    storedBlock false (data.take blockLimit) ++ storedBlocks blocks (data.drop blockLimit)

/-- The deflate stream of data. -/
def deflate (data : List UInt8) : List UInt8 := storedBlocks (data.length / blockLimit) data

/-- The bytes of a text. -/
def textBytes (s : String) : List UInt8 := s.toUTF8.toList

/-- An entry with the bytes that are written for it. -/
structure Written where
  name : List UInt8
  isAscii : Bool
  data : List UInt8
  size : Nat
  crc : UInt32

/-- The bytes that are written for an entry. -/
def written (entry : ArchiveEntry) : Written :=
  let text := textBytes entry.text
  { name := textBytes entry.storedName
    isAscii := entry.storedName.toList.all fun c => c.toNat < 128
    data := deflate text
    size := text.length
    crc := checksum text }

/-- The greatest size or place that four bytes are used for. -/
def narrowLimit : Nat := 0x7FFFFFFF

/-- The greatest number of entries that two bytes are used for. -/
def countLimit : Nat := 0xFFFF

/-- The four bytes of a number, or those that refer to the wide field. -/
def narrow (isWide : Bool) (n : Nat) : List UInt8 := bytesOf 4 (if isWide then 0xFFFFFFFF else n)

/-- The field of the numbers that four bytes are not used for, if there are any. -/
def wideField (numbers : List Nat) : List UInt8 :=
  if numbers.isEmpty then []
  else bytesOf 2 1 ++ bytesOf 2 (8 * numbers.length) ++ numbers.flatMap (bytesOf 8)

/-- The version of the format that a reader has to know; wide fields came later. -/
def versionFor (extra : List UInt8) : Nat := if extra.isEmpty then 20 else 45

/-- Is one of the sizes of an entry too large for four bytes? Both are wide then. -/
def Written.isWide (w : Written) : Bool := narrowLimit < w.size || narrowLimit < w.data.length

/-- The sizes of an entry that stand in a wide field. -/
def Written.wideSizes (w : Written) : List Nat := if w.isWide then [w.size, w.data.length] else []

/-- What the header of an entry and its directory record have in common: version, flags, method,
time stamp, checksum, sizes and the lengths of the name and of the wide field. -/
def commonFields (w : Written) (extra : List UInt8) : List UInt8 :=
  bytesOf 2 (versionFor extra) ++ bytesOf 2 (if w.isAscii then 0 else 0x800) ++ bytesOf 2 8 ++
    bytesOf 2 0 ++ bytesOf 2 0x21 ++ bytesOf 4 w.crc.toNat ++ narrow w.isWide w.data.length ++
    narrow w.isWide w.size ++ bytesOf 2 w.name.length ++ bytesOf 2 extra.length

/-- The header, the name and the data of an entry. -/
def localPart (w : Written) : List UInt8 :=
  let extra := wideField w.wideSizes
  bytesOf 4 0x04034B50 ++ commonFields w extra ++ w.name ++ extra ++ w.data

/-- The directory record of an entry that starts at a place. -/
def directoryPart (w : Written) (place : Nat) : List UInt8 :=
  let isFar : Bool := narrowLimit < place
  let extra := wideField (w.wideSizes ++ if isFar then [place] else [])
  bytesOf 4 0x02014B50 ++ bytesOf 2 (0x0300 + versionFor extra) ++ commonFields w extra ++
    bytesOf 2 0 ++ bytesOf 2 0 ++ bytesOf 2 0 ++ bytesOf 4 (0o644 * 65536) ++
    narrow isFar place ++ w.name ++ extra

/-- The directory of entries, the first of which starts at a place. -/
def directory : (place : Nat) → List Written → List UInt8
  | _, [] => []
  | place, w :: rest =>
    directoryPart w place ++ directory (place + (localPart w).length) rest

/-- The wide end record of a directory, and the record that tells where it is. -/
def wideEndRecord (count size place : Nat) : List UInt8 :=
  bytesOf 4 0x06064B50 ++ bytesOf 8 44 ++ bytesOf 2 45 ++ bytesOf 2 45 ++ bytesOf 4 0 ++
    bytesOf 4 0 ++ bytesOf 8 count ++ bytesOf 8 count ++ bytesOf 8 size ++ bytesOf 8 place ++
    bytesOf 4 0x07064B50 ++ bytesOf 4 0 ++ bytesOf 8 (place + size) ++ bytesOf 4 1

/-- The end record of a directory, given the number of its entries, its size and its place. -/
def endRecord (count size place : Nat) : List UInt8 :=
  bytesOf 4 0x06054B50 ++ bytesOf 2 0 ++ bytesOf 2 0 ++ bytesOf 2 (min count 0xFFFF) ++
    bytesOf 2 (min count 0xFFFF) ++ bytesOf 4 (min size 0xFFFFFFFF) ++
    bytesOf 4 (min place 0xFFFFFFFF) ++ bytesOf 2 0

/-- The bytes of an archive of entries that fit. -/
def encode (entries : List ArchiveEntry) : List UInt8 :=
  let parts := entries.map written
  let body := parts.flatMap localPart
  let index := directory 0 parts
  let isWide : Bool := countLimit < parts.length || narrowLimit < body.length ||
    narrowLimit < index.length
  body ++ index ++ (if isWide then wideEndRecord parts.length index.length body.length else []) ++
    endRecord parts.length index.length body.length

end Pagewright.Zip

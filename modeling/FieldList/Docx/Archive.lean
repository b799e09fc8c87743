import FieldList.Docx.Package

/-!
# Archives

The bytes of a package: an archive that stores each part uncompressed under its name, followed by a
directory of the parts. Numbers are little-endian.
-/

namespace FieldList.Docx.Archive

/-- The checksum of some bytes: CRC-32 with reversed bits. -/
def checksum (bytes : ByteArray) : UInt32 :=
  bytes.foldl step 0xFFFFFFFF ^^^ 0xFFFFFFFF
where
  step (crc : UInt32) (b : UInt8) : UInt32 := shift 8 (crc ^^^ b.toUInt32)
  shift : Nat → UInt32 → UInt32
    | 0, crc => crc
    | n + 1, crc => shift n (if crc &&& 1 = 1 then (crc >>> 1) ^^^ 0xEDB88320 else crc >>> 1)

/-- The lowest `width` bytes of a number. -/
def number : Nat → Nat → List UInt8
  | 0, _ => []
  | width + 1, n => n.toUInt8 :: number width (n / 256)

/-- What both headers of a part say alike: version, flags, method, time, date, checksum, sizes and
the length of the name. No time is recorded, so the date is the first that can be. -/
def commonHeader (name content : ByteArray) : List UInt8 :=
  number 2 20 ++ number 2 0x800 ++ number 2 0 ++ number 2 0 ++ number 2 0x21 ++
    number 4 (checksum content).toNat ++ number 4 content.size ++ number 4 content.size ++
    number 2 name.size ++ number 2 0

/-- A part with its header. -/
def storedPart (name content : ByteArray) : ByteArray :=
  (number 4 0x04034B50 ++ commonHeader name content).toByteArray ++ name ++ content

/-- The entry of a part in the directory. -/
def directoryEntry (offset : Nat) (name content : ByteArray) : ByteArray :=
  (number 4 0x02014B50 ++ number 2 20 ++ commonHeader name content ++ number 2 0 ++ number 2 0 ++
    number 2 0 ++ number 4 0 ++ number 4 offset).toByteArray ++ name

/-- The stored parts and the directory entries of some parts, where the first starts at `offset`. -/
def sections (offset : Nat) : List (String × String) → ByteArray × ByteArray
  | [] => (.empty, .empty)
  | (name, text) :: parts =>
    let stored := storedPart name.toUTF8 text.toUTF8
    let entry := directoryEntry offset name.toUTF8 text.toUTF8
    let (moreStored, moreEntries) := sections (offset + stored.size) parts
    (stored ++ moreStored, entry ++ moreEntries)

/-- The bytes of a package. -/
def ofPackage (p : Package) : ByteArray :=
  let (stored, entries) := sections 0 p.parts
  let count := p.parts.length
  stored ++ entries ++
    (number 4 0x06054B50 ++ number 2 0 ++ number 2 0 ++ number 2 count ++ number 2 count ++
      number 4 entries.size ++ number 4 stored.size ++ number 2 0).toByteArray

end FieldList.Docx.Archive

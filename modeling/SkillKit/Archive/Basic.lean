import SkillKit.Text.Utf8
import SkillKit.Time.Calendar

/-!
# Archives

Archives in the zip format, with members stored as they are: a record for each member with its
CRC-32, a directory that repeats the records with their places, and an end record.  A number that is
too large for its field stands in a longer one.
-/

namespace SkillKit.Archive

def shiftOnce (c : UInt32) : UInt32 :=
  if c &&& 1 == 1 then (c >>> 1) ^^^ 0xEDB88320 else c >>> 1

def addByte (c : UInt32) (b : UInt8) : UInt32 :=
  (List.range 8).foldl (fun c _ => shiftOnce c) (c ^^^ b.toUInt32)

def checksum (bs : List UInt8) : UInt32 :=
  (bs.foldl addByte 0xFFFFFFFF) ^^^ 0xFFFFFFFF

structure Member where
  name : String
  content : List UInt8
deriving Repr, DecidableEq, Inhabited

/-! ## Writing -/

def number : (width value : Nat) → List UInt8
  | 0, _ => []
  | width + 1, value => UInt8.ofNat (value % 256) :: number width (value / 256)

def numbers (fields : List (Nat × Nat)) : List UInt8 :=
  fields.flatMap fun (width, value) => number width value

def filled : Nat := 0xffffffff

def filledShort : Nat := 0xffff

/-- The extra field for the numbers that are too large for four bytes, if there are any. -/
def longNumbers (values : List Nat) : List UInt8 :=
  match values.filter (filled ≤ ·) with
  | [] => []
  | long => numbers ([(2, 1), (2, 8 * long.length)] ++ long.map fun n => (8, n))

def clockField (t : Time.Stamp) : Nat :=
  t.time.hour * 2048 + t.time.minute * 32 + t.time.second / 2

def dateField (t : Time.Stamp) : Nat :=
  (t.date.year - 1980) * 512 + t.date.month * 32 + t.date.day

def nameFlag (m : Member) : Nat :=
  if m.name.toList.all (·.toNat < 128) then 0 else 0x800

def sharedFields (t : Time.Stamp) (m : Member) : List (Nat × Nat) := [
  (2, if filled ≤ m.content.length then 45 else 20), (2, nameFlag m), (2, 0), (2, clockField t),
  (2, dateField t), (4, (checksum m.content).toNat), (4, min filled m.content.length),
  (4, min filled m.content.length), (2, m.name.utf8ByteSize)]

def memberRecord (t : Time.Stamp) (m : Member) : List UInt8 :=
  let extra := longNumbers [m.content.length, m.content.length]
  numbers ([(4, 0x04034b50)] ++ sharedFields t m ++ [(2, extra.length)])
    ++ m.name.toUTF8.toList ++ extra ++ m.content

def directoryRecord (t : Time.Stamp) (place : Nat) (m : Member) : List UInt8 :=
  let extra := longNumbers [m.content.length, m.content.length, place]
  numbers ([(4, 0x02014b50), (2, 0x0314)] ++ sharedFields t m
      ++ [(2, extra.length), (2, 0), (2, 0), (2, 0), (4, 0x81a40000), (4, min filled place)])
    ++ m.name.toUTF8.toList ++ extra

def directory (t : Time.Stamp) (place : Nat) : List Member → List UInt8
  | [] => []
  | m :: ms =>
    directoryRecord t place m ++ directory t (place + (memberRecord t m).length) ms

/-- The records that end an archive: one with long fields if it is needed, with a pointer to it,
and the plain one. -/
def endRecord (count size place : Nat) : List UInt8 :=
  let plain := numbers [(4, 0x06054b50), (2, 0), (2, 0), (2, min filledShort count),
    (2, min filledShort count), (4, min filled size), (4, min filled place), (2, 0)]
  if count < filledShort && size < filled && place < filled then plain
  else numbers [(4, 0x06064b50), (8, 44), (2, 45), (2, 45), (4, 0), (4, 0), (8, count), (8, count),
      (8, size), (8, place)]
    ++ numbers [(4, 0x07064b50), (4, 0), (8, place + size), (4, 1)] ++ plain

def encode (t : Time.Stamp) (ms : List Member) : List UInt8 :=
  let records := ms.flatMap (memberRecord t)
  let dir := directory t 0 ms
  records ++ dir ++ endRecord ms.length dir.length records.length

/-! ## Reading -/

end SkillKit.Archive

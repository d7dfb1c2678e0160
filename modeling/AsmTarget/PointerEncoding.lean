/-
**Encodings of pointers in exception tables.**

An encoding is a byte. Its low half is the format of the value, its high half how the value is
applied, with one bit for a pointer to the value. The byte with all bits set stands for no
pointer at all.

* `combine`: both encodings at once, bit by bit;
* `isPcRelative`, `isIndirect`, `valueSize?`: what an encoding says;
* `text`: the byte in hexadecimal.
-/

import AsmTarget.Text.Hexadecimal

namespace AsmTarget

/-- An encoding byte. -/
structure PointerEncoding where
  byte : UInt8
  deriving DecidableEq, Repr

namespace PointerEncoding

/-- The address itself, as large as a pointer. -/
def absolute : PointerEncoding := ⟨0x00⟩

/-- An unsigned number of four bytes. -/
def unsigned4 : PointerEncoding := ⟨0x03⟩

/-- An unsigned number of eight bytes. -/
def unsigned8 : PointerEncoding := ⟨0x04⟩

/-- A signed number of four bytes. -/
def signed4 : PointerEncoding := ⟨0x0b⟩

/-- A signed number of eight bytes. -/
def signed8 : PointerEncoding := ⟨0x0c⟩

/-- The value counts from its own place. -/
def pcRelative : PointerEncoding := ⟨0x10⟩

/-- The value is the place of the pointer. -/
def indirect : PointerEncoding := ⟨0x80⟩

/-- There is no pointer. -/
def omitted : PointerEncoding := ⟨0xff⟩

/-- The encoding with the bits of two. -/
def combine (first second : PointerEncoding) : PointerEncoding :=
  ⟨first.byte ||| second.byte⟩

/-- The encoding with the bits of several. -/
def combineAll (list : List PointerEncoding) : PointerEncoding :=
  list.foldl combine absolute

/-- Whether the value counts from its own place. -/
def isPcRelative (encoding : PointerEncoding) : Bool :=
  encoding != omitted && encoding.byte &&& 0x70 == pcRelative.byte

/-- Whether the value is the place of the pointer. -/
def isIndirect (encoding : PointerEncoding) : Bool :=
  encoding != omitted && encoding.byte &&& indirect.byte != 0

/-- The size of the value in bytes, when the format fixes one. -/
def valueSize? (encoding : PointerEncoding) : Option Nat :=
  if encoding = omitted then none
  else
    match encoding.byte &&& 0x0f with
    | 0x02 | 0x0a => some 2
    | 0x03 | 0x0b => some 4
    | 0x04 | 0x0c => some 8
    | _ => none

/-- The byte in hexadecimal, with two digits. -/
def text (encoding : PointerEncoding) : String :=
  "0x" ++ String.ofList (Text.Hexadecimal.octet encoding.byte)

/-- What exception tables ask for at personality routines. -/
def personality : PointerEncoding :=
  (indirect.combine pcRelative).combine signed4

end PointerEncoding

end AsmTarget

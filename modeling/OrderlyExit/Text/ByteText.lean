import OrderlyExit.Text.Utf8

/-!
Bytes as text: each byte is shown as the character of the same number. Programs that treat their input
as bytes are written on such texts; those that see the characters of UTF-8 in it go over to these and back.
-/

namespace OrderlyExit

/-- A text whose characters stand for bytes. -/
abbrev ByteText := List Char

namespace ByteText

def ofBytes (bs : List UInt8) : ByteText := bs.map fun b => Char.ofNat b.toNat

def toBytes (cs : ByteText) : List UInt8 := cs.map fun c => UInt8.ofNat c.toNat

/-- The characters that a text spells in UTF-8. -/
def characters (t : ByteText) : List Char :=
  if t.all (·.toNat < 0x80) then t else Utf8.decodeKeeping (toBytes t)

/-- The text that spells characters. -/
def ofCharacters (cs : List Char) : ByteText :=
  if cs.all (·.toNat < 0x80) then cs else ofBytes (Utf8.encodeKeeping cs)

end ByteText

end OrderlyExit

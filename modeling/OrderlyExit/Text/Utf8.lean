/-!
UTF-8: encoding characters, reading bytes back strictly, and reading them with replacement.

Both readers go through `next`, which takes one character off the front of a byte string or says how
many bytes of it make up the longest start of a character that is never completed. The lossy reader
puts one U+FFFD in the place of each such part; the strict one gives up.
-/

namespace OrderlyExit.Utf8

/-- The bytes of a text. -/
def encode (cs : List Char) : List UInt8 := cs.flatMap String.utf8EncodeChar

/-- A byte that only continues a character. -/
def isTail (b : UInt8) : Bool := 0x80 ≤ b && b ≤ 0xBF

/-- Whether `x` may follow the first byte `b` of a character of three or four bytes: the smallest
lead bytes exclude overlong forms, `0xED` excludes surrogates and `0xF4` what lies above U+10FFFF. -/
def fits (b x : UInt8) : Bool :=
  if b == 0xE0 then 0xA0 ≤ x && x ≤ 0xBF
  else if b == 0xED then 0x80 ≤ x && x ≤ 0x9F
  else if b == 0xF0 then 0x90 ≤ x && x ≤ 0xBF
  else if b == 0xF4 then 0x80 ≤ x && x ≤ 0x8F
  else isTail x

/-- The six low bits of a continuation byte. -/
def low (b : UInt8) : Nat := b.toNat % 64

/-- The character at the front of `b :: rest`, or none for a part that is no character, and what
follows it. -/
def next (b : UInt8) (rest : List UInt8) : Option Char × List UInt8 :=
  if b < 0x80 then (some (Char.ofNat b.toNat), rest)
  else if 0xC2 ≤ b && b ≤ 0xDF then
    match rest with
    | x :: r => if isTail x then (some (Char.ofNat (b.toNat % 32 * 64 + low x)), r) else (none, rest)
    | [] => (none, [])
  else if 0xE0 ≤ b && b ≤ 0xEF then
    match rest with
    | x :: r =>
      if fits b x then
        match r with
        | y :: r' =>
          if isTail y then (some (Char.ofNat ((b.toNat % 16 * 64 + low x) * 64 + low y)), r') else (none, r)
        | [] => (none, [])
      else (none, rest)
    | [] => (none, [])
  else if 0xF0 ≤ b && b ≤ 0xF4 then
    match rest with
    | x :: r =>
      if fits b x then
        match r with
        | y :: r' =>
          if isTail y then
            match r' with
            | z :: r'' =>
              if isTail z then
                (some (Char.ofNat (((b.toNat % 8 * 64 + low x) * 64 + low y) * 64 + low z)), r'')
              else (none, r')
            | [] => (none, [])
          else (none, r)
        | [] => (none, [])
      else (none, rest)
    | [] => (none, [])
  else (none, rest)

/-- Taking a character off never lengthens what follows. -/
theorem length_next_le (b : UInt8) (rest : List UInt8) : (next b rest).2.length ≤ rest.length := by
  unfold next
  repeat' split
  all_goals simp only [List.length_cons, List.length_nil]
  all_goals omega

/-- What stands for a part that is no character. -/
def replacement : Char := Char.ofNat 0xFFFD

/-- Reads bytes as text, with one replacement character for each part that is no character. -/
def decodeLossy : List UInt8 → List Char
  | [] => []
  | b :: rest => (next b rest).1.getD replacement :: decodeLossy (next b rest).2
termination_by bs => bs.length
decreasing_by
  have := length_next_le b rest
  simp only [List.length_cons]
  omega

/-- Reads bytes as text, or nothing when some part is no character. -/
def decode? : List UInt8 → Option (List Char)
  | [] => some []
  | b :: rest =>
    match (next b rest).1 with
    | some c => (decode? (next b rest).2).map (c :: ·)
    | none => none
termination_by bs => bs.length
decreasing_by
  have := length_next_le b rest
  simp only [List.length_cons]
  omega

/-- Where the code points begin that show single bytes. -/
def byteMark : Nat := 0x10FF00

/-- Reads bytes as text; each byte of a part that is no character is shown by a code point of its own. -/
def decodeKeeping : List UInt8 → List Char
  | [] => []
  | b :: rest =>
    let (c?, after) := next b rest
    (match c? with
      | some c => [c]
      | none => ((b :: rest).take (rest.length + 1 - after.length)).map fun b => Char.ofNat (byteMark + b.toNat)) ++
    decodeKeeping (next b rest).2
termination_by bs => bs.length
decreasing_by
  have := length_next_le b rest
  simp only [List.length_cons]
  omega

/-- The bytes of a text in which code points show single bytes. -/
def encodeKeeping (cs : List Char) : List UInt8 :=
  cs.flatMap fun c => if byteMark ≤ c.toNat then [UInt8.ofNat (c.toNat - byteMark)] else String.utf8EncodeChar c

/-- The bytes of a string. -/
def ofString (s : String) : List UInt8 := encode s.toList

/-- The string that the bytes spell, with replacements. -/
def toStringLossy (bs : List UInt8) : String := String.ofList (decodeLossy bs)

/-- The string that the bytes spell, if they spell one. -/
def toString? (bs : List UInt8) : Option String := (decode? bs).map String.ofList

end OrderlyExit.Utf8

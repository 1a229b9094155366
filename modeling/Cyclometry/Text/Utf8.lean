/-!
# UTF-8

Bytes are read as a list of **pieces**: a well-formed sequence is a character, and a malformed
one is a gap.  A gap covers the longest beginning of a well-formed sequence, or a single byte
that begins none, so the reading resumes at the first byte that can be the start of something.
Lossy decoding shows each gap as U+FFFD; strict decoding accepts only texts without gaps.
-/

namespace Cyclometry

/-- A byte string. -/
abbrev Bytes := List UInt8

namespace Utf8

/-- A byte that continues a sequence. -/
def isContinuation (b : UInt8) : Bool := 0x80 ≤ b && b ≤ 0xbf

/-- What the first byte of a sequence of several bytes says: how many continuation bytes
follow the second byte, the payload bits of the first byte, and the range of the second
byte, which is narrower where a shorter form exists, where a surrogate would come out and
beyond the last code point. -/
structure Lead where
  further : Nat
  payload : Nat
  low : UInt8
  high : UInt8

/-- The first bytes of sequences of two, three and four bytes. -/
def lead? (b : UInt8) : Option Lead :=
  if b < 0xc2 then none
  else if b < 0xe0 then some ⟨0, b.toNat - 0xc0, 0x80, 0xbf⟩
  else if b = 0xe0 then some ⟨1, 0, 0xa0, 0xbf⟩
  else if b = 0xed then some ⟨1, 0xd, 0x80, 0x9f⟩
  else if b < 0xf0 then some ⟨1, b.toNat - 0xe0, 0x80, 0xbf⟩
  else if b = 0xf0 then some ⟨2, 0, 0x90, 0xbf⟩
  else if b < 0xf4 then some ⟨2, b.toNat - 0xf0, 0x80, 0xbf⟩
  else if b = 0xf4 then some ⟨2, 4, 0x80, 0x8f⟩
  else none

/-- The payload of one more continuation byte. -/
def extend (value : Nat) (b : UInt8) : Nat := value * 64 + (b.toNat - 0x80)

/-- Read `further` more continuation bytes onto a payload.  The result is the character, or
`none` where the sequence breaks off, and the number of bytes used. -/
def continued (value : Nat) (used : Nat) : Nat → Bytes → Option Char × Nat
  | 0, _ => (some (Char.ofNat value), used)
  | _ + 1, [] => (none, used)
  | further + 1, b :: rest =>
    if isContinuation b then continued (extend value b) (used + 1) further rest
    else (none, used)

/-- The piece that begins with `b`, and how many bytes of the rest belong to it. -/
def piece (b : UInt8) (rest : Bytes) : Option Char × Nat :=
  if b < 0x80 then (some (Char.ofNat b.toNat), 0)
  else
    match lead? b, rest with
    | some lead, second :: rest =>
      if lead.low ≤ second && second ≤ lead.high then
        continued (extend lead.payload second) 1 lead.further rest
      else (none, 0)
    | _, _ => (none, 0)

/-- The characters of a byte string, `none` for a malformed piece. -/
def pieces : Bytes → List (Option Char)
  | [] => []
  | b :: rest => (piece b rest).1 :: pieces (rest.drop (piece b rest).2)
  termination_by bytes => bytes.length

/-- The character that stands for a malformed piece. -/
def replacement : Char := Char.ofNat 0xfffd

/-- The text with U+FFFD for every malformed piece. -/
def decodeLossy (bytes : Bytes) : List Char :=
  (pieces bytes).map fun piece => piece.getD replacement

/-- The text, if no piece is malformed. -/
def decode? (bytes : Bytes) : Option (List Char) := (pieces bytes).mapM id

/-- The bytes of a text. -/
def encode (s : List Char) : Bytes := s.flatMap String.utf8EncodeChar

end Utf8

/-- The bytes of a text. -/
def bytesOf (s : String) : Bytes := Utf8.encode s.toList

/-- The text of some bytes, with U+FFFD for every malformed piece. -/
def textOf (bytes : Bytes) : String := String.ofList (Utf8.decodeLossy bytes)

end Cyclometry

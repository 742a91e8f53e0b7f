import LoxScan.Text.Quoted

/-! From bytes to text. Each encoding reads a whole list of bytes or refuses it at the first place
that it cannot read, with the bytes concerned and the reason.

UTF-8 is read byte by byte: between characters a lead byte says how many bytes are owed and in which
range the first of them must lie, and inside a character each owed byte adds six bits. The narrow
ranges after `E0`, `ED`, `F0` and `F4` keep out overlong forms, surrogates and values past
`10FFFF`. -/

namespace LoxScan.Text

/-- The supported encodings. The signed one skips a byte order mark at the start. -/
inductive Encoding where
  | utf8
  | signedUtf8
  | ascii
  | latin1
  deriving DecidableEq, Repr

namespace Encoding

inductive Reason where
  | invalidStart
  | invalidContinuation
  | unexpectedEnd
  | notAscii
  deriving DecidableEq, Repr

def Reason.text : Reason → String
  | invalidStart => "invalid start byte"
  | invalidContinuation => "invalid continuation byte"
  | unexpectedEnd => "unexpected end of data"
  | notAscii => "ordinal not in range(128)"

/-- The first place where reading fails: the bytes from `start` to before `stop`, the first of them
being `byte`. -/
structure Fault where
  codec : String
  byte : UInt8
  start : Nat
  stop : Nat
  reason : Reason
  deriving DecidableEq, Repr

/-- One bad byte is shown with its value, several with the positions of the first and the last. -/
def Fault.message (f : Fault) : String :=
  let place :=
    if f.stop ≤ f.start + 1 then
      "byte 0x" ++ String.ofList (hex 2 f.byte.toNat) ++ " in position " ++ toString f.start
    else
      "bytes in position " ++ toString f.start ++ "-" ++ toString (f.stop - 1)
  quoted f.codec ++ " codec can't decode " ++ place ++ ": " ++ f.reason.text

/-- What a lead byte announces: how many bytes are owed, the range of the first of them, and the
bits that the lead byte contributes. -/
structure Lead where
  owed : Nat
  low : Nat
  high : Nat
  bits : Nat
  deriving DecidableEq, Repr

/-- The announcement of byte `b`, unless no character starts with it. -/
def lead? (b : Nat) : Option Lead :=
  if b < 0x80 then some ⟨0, 0, 0, b⟩
  else if b < 0xC2 then none
  else if b < 0xE0 then some ⟨1, 0x80, 0xBF, b - 0xC0⟩
  else if b = 0xE0 then some ⟨2, 0xA0, 0xBF, 0⟩
  else if b = 0xED then some ⟨2, 0x80, 0x9F, 0xD⟩
  else if b < 0xF0 then some ⟨2, 0x80, 0xBF, b - 0xE0⟩
  else if b = 0xF0 then some ⟨3, 0x90, 0xBF, 0⟩
  else if b < 0xF4 then some ⟨3, 0x80, 0xBF, b - 0xF0⟩
  else if b = 0xF4 then some ⟨3, 0x80, 0x8F, 4⟩
  else none

/-- A character that has begun: where, with which byte, and what is still to come. -/
structure Begun where
  start : Nat
  byte : UInt8
  rest : Lead
  deriving DecidableEq, Repr

/-- Reads UTF-8 from position `pos` on, inside the character `begun` if there is one. The characters
read before are in `done`, the last one first. -/
def readUtf8 (pos : Nat) (begun : Option Begun) (done : List Char) :
    List UInt8 → Except Fault (List Char)
  | [] =>
    match begun with
    | none => .ok done.reverse
    | some s => .error ⟨"utf-8", s.byte, s.start, pos, .unexpectedEnd⟩
  | b :: bs =>
    match begun with
    | none =>
      match lead? b.toNat with
      | none => .error ⟨"utf-8", b, pos, pos + 1, .invalidStart⟩
      | some ⟨0, _, _, bits⟩ => readUtf8 (pos + 1) none (Char.ofNat bits :: done) bs
      | some announced => readUtf8 (pos + 1) (some ⟨pos, b, announced⟩) done bs
    | some s =>
      if s.rest.low ≤ b.toNat ∧ b.toNat ≤ s.rest.high then
        let bits := s.rest.bits * 64 + (b.toNat - 0x80)
        if s.rest.owed = 1 then
          readUtf8 (pos + 1) none (Char.ofNat bits :: done) bs
        else
          readUtf8 (pos + 1) (some ⟨s.start, s.byte, s.rest.owed - 1, 0x80, 0xBF, bits⟩) done bs
      else
        .error ⟨"utf-8", s.byte, s.start, pos, .invalidContinuation⟩

/-- The text that UTF-8 bytes stand for. -/
def decodeUtf8 (bytes : List UInt8) : Except Fault (List Char) := readUtf8 0 none [] bytes

/-- The byte order mark in UTF-8. -/
def byteOrderMark : List UInt8 := [0xEF, 0xBB, 0xBF]

/-- A byte order mark at the start is skipped, and positions count from after it. Bytes that end
inside the mark hold no text. -/
def decodeSigned (bytes : List UInt8) : Except Fault (List Char) :=
  if byteOrderMark.isPrefixOf bytes then decodeUtf8 (bytes.drop 3)
  else if bytes.isPrefixOf byteOrderMark then .ok []
  else decodeUtf8 bytes

/-- Each byte below `80` is a character, and no other byte is. -/
def decodeAscii (bytes : List UInt8) : Except Fault (List Char) :=
  match bytes.findIdx? (0x80 ≤ ·) with
  | none => .ok (bytes.map fun b => Char.ofNat b.toNat)
  | some i => .error ⟨"ascii", bytes.getD i 0, i, i + 1, .notAscii⟩

/-- Each byte is the character of that number. -/
def decodeLatin1 (bytes : List UInt8) : List Char := bytes.map fun b => Char.ofNat b.toNat

def decode : Encoding → List UInt8 → Except Fault (List Char)
  | utf8, bytes => decodeUtf8 bytes
  | signedUtf8, bytes => decodeSigned bytes
  | ascii, bytes => decodeAscii bytes
  | latin1, bytes => .ok (decodeLatin1 bytes)

def name : Encoding → String
  | utf8 => "utf-8"
  | signedUtf8 => "utf-8-sig"
  | ascii => "ascii"
  | latin1 => "latin-1"

/-- The encoding of a given name. Each has one spelling: other names of the same encoding, such as
`utf8`, `UTF-8` or `latin1`, and all other encodings are left out and count as unknown. -/
def ofName? (s : String) : Option Encoding := [utf8, signedUtf8, ascii, latin1].find? (·.name == s)

end Encoding

end LoxScan.Text

import SuiteLint.Text.Quoted

/-!
# Reading UTF-8

Bytes are decoded strictly: the shortest form of each character only, no
surrogates, nothing beyond the last code point. Where the bytes are malformed, the
complaint names the place and the reason, and its extent follows one rule: it
covers the bytes that could still have begun a character. So a byte that begins no
character is reported alone, a sequence that a wrong byte interrupts is reported
up to that byte, and a sequence that the end of the data interrupts is reported to
the end.

A byte order mark may stand in front. It is dropped before anything is decoded, so
positions do not count it. Where a file is read line by line, the bytes are cut into
lines first and the mark is dropped from the first of them. So a file that consists of
the mark alone has one line, which is empty.
-/

namespace SuiteLint

/-- Bytes, as a file holds them. -/
abbrev Bytes := List UInt8

namespace Utf8

/-- Why bytes do not encode a text. -/
inductive Reason
  /-- The byte begins no character. -/
  | invalidStart
  /-- The byte after these does not continue the character. -/
  | invalidContinuation
  /-- The data end inside a character. -/
  | unexpectedEnd
  deriving DecidableEq, Repr

/-- Where and why bytes do not encode a text. -/
structure Malformed where
  /-- The position of the first byte concerned. -/
  start : Nat
  /-- The first byte concerned. -/
  byte : UInt8
  /-- How many further bytes are concerned. -/
  more : Nat
  /-- What is wrong with them. -/
  reason : Reason
  deriving DecidableEq, Repr

/-- The reason in words. -/
def Reason.message : Reason → Text
  | .invalidStart => "invalid start byte"
  | .invalidContinuation => "invalid continuation byte"
  | .unexpectedEnd => "unexpected end of data"

/-- The complaint in words. -/
def Malformed.message (m : Malformed) : Text :=
  let place : Text :=
    if m.more = 0 then
      "byte 0x" ++ Text.hex 2 m.byte.toNat ++ " in position " ++ Text.ofNat m.start
    else
      "bytes in position " ++ Text.ofNat m.start ++ "-" ++ Text.ofNat (m.start + m.more)
  "'utf-8' codec can't decode " ++ place ++ ": " ++ m.reason.message

/-- Whether a byte can continue a character. -/
def isContinuation (b : UInt8) : Bool := 0x80 ≤ b && b < 0xC0

/-- The six bits that a continuing byte carries. -/
def payload (b : UInt8) : Nat := b.toNat % 64

/-- Whether a byte can come second after one that begins three bytes: forms that
are longer than necessary and surrogates are excluded. -/
def isSecondOfThree (first second : UInt8) : Bool :=
  isContinuation second && !(if second < 0xA0 then first == 0xE0 else first == 0xED)

/-- Whether a byte can come second after one that begins four bytes: forms that
are longer than necessary and code points beyond the last are excluded. -/
def isSecondOfFour (first second : UInt8) : Bool :=
  isContinuation second && !(if second < 0x90 then first == 0xF0 else first == 0xF4)

/-- Decodes the bytes that begin at the given position. -/
def decodeFrom (pos : Nat) : Bytes → Except Malformed Text
  | [] => .ok []
  | a :: rest =>
    if a < 0x80 then return Char.ofNat a.toNat :: (← decodeFrom (pos + 1) rest)
    else if a < 0xC2 then .error ⟨pos, a, 0, .invalidStart⟩
    else if a < 0xE0 then
      match rest with
      | [] => .error ⟨pos, a, 0, .unexpectedEnd⟩
      | b :: rest =>
        if isContinuation b then
          return Char.ofNat (a.toNat % 32 * 64 + payload b) :: (← decodeFrom (pos + 2) rest)
        else .error ⟨pos, a, 0, .invalidContinuation⟩
    else if a < 0xF0 then
      match rest with
      | [] => .error ⟨pos, a, 0, .unexpectedEnd⟩
      | b :: rest =>
        if isSecondOfThree a b then
          match rest with
          | [] => .error ⟨pos, a, 1, .unexpectedEnd⟩
          | c :: rest =>
            if isContinuation c then
              return Char.ofNat (a.toNat % 16 * 4096 + payload b * 64 + payload c) ::
                (← decodeFrom (pos + 3) rest)
            else .error ⟨pos, a, 1, .invalidContinuation⟩
        else .error ⟨pos, a, 0, .invalidContinuation⟩
    else if a < 0xF5 then
      match rest with
      | [] => .error ⟨pos, a, 0, .unexpectedEnd⟩
      | b :: rest =>
        if isSecondOfFour a b then
          match rest with
          | [] => .error ⟨pos, a, 1, .unexpectedEnd⟩
          | c :: rest =>
            if isContinuation c then
              match rest with
              | [] => .error ⟨pos, a, 2, .unexpectedEnd⟩
              | d :: rest =>
                if isContinuation d then
                  return Char.ofNat (a.toNat % 8 * 262144 + payload b * 4096 + payload c * 64 +
                    payload d) :: (← decodeFrom (pos + 4) rest)
                else .error ⟨pos, a, 2, .invalidContinuation⟩
            else .error ⟨pos, a, 1, .invalidContinuation⟩
        else .error ⟨pos, a, 0, .invalidContinuation⟩
    else .error ⟨pos, a, 0, .invalidStart⟩

/-- The byte order mark. -/
def mark : Bytes := [0xEF, 0xBB, 0xBF]

/-- The bytes without a byte order mark in front. -/
def dropMark : Bytes → Bytes
  | 0xEF :: 0xBB :: 0xBF :: rest => rest
  | bytes => bytes

/-- The text that the bytes encode, a byte order mark in front aside. -/
def decode (bytes : Bytes) : Except Malformed Text := decodeFrom 0 (dropMark bytes)

/-- The bytes cut after each newline byte. What follows the last newline is a line
only if there is some. -/
def byteLines : Bytes → List Bytes
  | [] => []
  | b :: rest =>
    if b = 10 then [b] :: byteLines rest
    else
      match byteLines rest with
      | [] => [[b]]
      | first :: others => (b :: first) :: others

/-- The texts of the lines, each decoded on its own and still with its newline. A byte
order mark is dropped from the first one. -/
def decodeLines (bytes : Bytes) : Except Malformed (List Text) :=
  ((byteLines bytes).modifyHead dropMark).mapM (decodeFrom 0)

end Utf8

end SuiteLint

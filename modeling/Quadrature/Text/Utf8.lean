/-
# Quadrature.Text.Utf8 -- reading a file as text

`decode` turns bytes into text and reports the first malformed sequence with its offset. A sequence
is malformed when its first byte can start none, when a later byte cannot continue it, or when the
input ends inside it. `unifyNewlines` then makes every line end a line feed.
-/
import Quadrature.Text.Quoted

namespace Quadrature.Text

set_option autoImplicit false

/-- What is wrong with a byte sequence. -/
inductive Utf8Fault where
  | invalidStart
  | invalidContinuation
  | unexpectedEnd
deriving DecidableEq, Repr

/-- The first malformed sequence: its bytes and the offset of the first of them. -/
structure Utf8Error where
  fault : Utf8Fault
  bytes : List UInt8
  offset : Nat
deriving DecidableEq, Repr

/-- The wording of a fault. -/
def Utf8Fault.text : Utf8Fault → String
  | .invalidStart => "invalid start byte"
  | .invalidContinuation => "invalid continuation byte"
  | .unexpectedEnd => "unexpected end of data"

/-- The wording of an error: a single byte is shown, of several the offsets. -/
def Utf8Error.message (e : Utf8Error) : String :=
  let place := match e.bytes with
    | [b] => "byte 0x" ++ String.ofList (hexDigits b.toNat 2) ++ " in position " ++
      Nat.repr e.offset
    | bs => "bytes in position " ++ Nat.repr e.offset ++ "-" ++
      Nat.repr (e.offset + bs.length - 1)
  "'utf-8' codec can't decode " ++ place ++ ": " ++ e.fault.text

namespace Utf8

/-- The byte continues a sequence. -/
def continues (b : UInt8) : Bool := 0x80 ≤ b && b ≤ 0xBF

/-- The byte can be the second of the sequence that `first` starts: overlong forms, surrogates and
numbers beyond U+10FFFF are excluded here. -/
def mayFollow (first second : UInt8) : Bool :=
  continues second &&
    !(first == 0xE0 && second < 0xA0) && !(first == 0xED && 0xA0 ≤ second) &&
    !(first == 0xF0 && second < 0x90) && !(first == 0xF4 && 0x90 ≤ second)

/-- How many bytes the sequence has that the byte starts; 0 if it can start none. -/
def sequenceLength (first : UInt8) : Nat :=
  if first < 0x80 then 1
  else if first < 0xC2 then 0
  else if first < 0xE0 then 2
  else if first < 0xF0 then 3
  else if first < 0xF5 then 4
  else 0

/-- The six low bits of a continuing byte. -/
def payload (b : UInt8) : Nat := b.toNat % 64

/-- Decode from `offset` on. -/
def decodeFrom (offset : Nat) : List UInt8 → Except Utf8Error (List Char)
  | [] => .ok []
  | a :: rest =>
    let stop (fault : Utf8Fault) (bytes : List UInt8) : Except Utf8Error (List Char) :=
      .error ⟨fault, bytes, offset⟩
    let size := sequenceLength a
    if size = 0 then stop .invalidStart [a]
    else if size = 1 then (decodeFrom (offset + 1) rest).map (Char.ofNat a.toNat :: ·)
    else match rest with
    | [] => stop .unexpectedEnd [a]
    | b :: rest =>
      if !mayFollow a b then stop .invalidContinuation [a]
      else if size = 2 then
        (decodeFrom (offset + 2) rest).map (Char.ofNat (a.toNat % 32 * 64 + payload b) :: ·)
      else match rest with
      | [] => stop .unexpectedEnd [a, b]
      | c :: rest =>
        if !continues c then stop .invalidContinuation [a, b]
        else if size = 3 then
          (decodeFrom (offset + 3) rest).map
            (Char.ofNat (a.toNat % 16 * 4096 + payload b * 64 + payload c) :: ·)
        else match rest with
        | [] => stop .unexpectedEnd [a, b, c]
        | d :: rest =>
          if !continues d then stop .invalidContinuation [a, b, c]
          else
            (decodeFrom (offset + 4) rest).map
              (Char.ofNat (a.toNat % 8 * 262144 + payload b * 4096 + payload c * 64 + payload d)
                :: ·)

/-- The text that the bytes encode. -/
def decode (bytes : List UInt8) : Except Utf8Error (List Char) := decodeFrom 0 bytes

end Utf8

/-- Carriage returns, alone or before a line feed, become line feeds. -/
def unifyNewlines : List Char → List Char
  | [] => []
  | '\r' :: '\n' :: rest => '\n' :: unifyNewlines rest
  | '\r' :: rest => '\n' :: unifyNewlines rest
  | c :: rest => c :: unifyNewlines rest

end Quadrature.Text

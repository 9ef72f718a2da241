/-!
# Reading bytes as text

A strict reader of the eight-bit encoding: it refuses overlong forms, surrogates
and everything above `U+10FFFF`, and says where and why it stopped. A sequence is
refused at its first byte; the reason tells whether that byte cannot start a
sequence, whether a later byte does not continue it, or whether the bytes ran out.
`decode` reads all bytes at once, `decodePieces` reads them as they arrive.
-/

namespace PoissonFactor.Text

/-- Why a sequence of bytes is no character. -/
inductive Utf8Fault where
  | invalidStart
  | invalidContinuation
  | unexpectedEnd
deriving DecidableEq, Repr

/-- The wording of a fault. -/
def Utf8Fault.text : Utf8Fault → String
  | .invalidStart => "invalid start byte"
  | .invalidContinuation => "invalid continuation byte"
  | .unexpectedEnd => "unexpected end of data"

/-- Bytes `first` to `last`, counted from the start of the data, are no character. `first`
is the value of the byte at `start`. -/
structure Utf8Error where
  byte : Nat
  start : Nat
  /-- How many bytes the refused sequence has. -/
  length : Nat
  fault : Utf8Fault
deriving DecidableEq, Repr

/-- The least second byte of a sequence and the first one too large. The bounds exclude
overlong forms, surrogates and code points above `U+10FFFF`. -/
def secondByte (first : Nat) : Nat × Nat :=
  if first = 0xe0 then (0xa0, 0xc0)
  else if first = 0xed then (0x80, 0xa0)
  else if first = 0xf0 then (0x90, 0xc0)
  else if first = 0xf4 then (0x80, 0x90)
  else (0x80, 0xc0)

/-- How many bytes a sequence with this first byte has; zero when none starts so. -/
def sequenceLength (first : Nat) : Nat :=
  if first < 0x80 then 1
  else if first < 0xc2 then 0
  else if first < 0xe0 then 2
  else if first < 0xf0 then 3
  else if first < 0xf5 then 4
  else 0

/-- Is the byte between 0x80 and 0xbf? -/
def isContinuation (b : Nat) : Bool :=
  0x80 ≤ b && b < 0xc0

/-- The first character of a sequence of bytes and how many bytes it takes, or the fault and
how many bytes it covers. -/
def decodeOne : List Nat → Except (Utf8Fault × Nat) (Char × Nat)
  | [] => .error (.unexpectedEnd, 0)
  | a :: rest =>
    match sequenceLength a with
    | 0 => .error (.invalidStart, 1)
    | 1 => .ok (Char.ofNat a, 1)
    | n =>
      match rest with
      | [] => .error (.unexpectedEnd, 1)
      | b :: rest =>
        let (low, high) := secondByte a
        if b < low || high ≤ b then .error (.invalidContinuation, 1)
        else if n = 2 then .ok (Char.ofNat (a % 32 * 64 + b % 64), 2)
        else
          match rest with
          | [] => .error (.unexpectedEnd, 2)
          | c :: rest =>
            if !isContinuation c then .error (.invalidContinuation, 2)
            else if n = 3 then .ok (Char.ofNat ((a % 16 * 64 + b % 64) * 64 + c % 64), 3)
            else
              match rest with
              | [] => .error (.unexpectedEnd, 3)
              | d :: _ =>
                if !isContinuation d then .error (.invalidContinuation, 3)
                else .ok (Char.ofNat (((a % 8 * 64 + b % 64) * 64 + c % 64) * 64 + d % 64), 4)

/-- The characters of a sequence of bytes up to the first fault. `read` holds the characters
already read, the last one first, `skip` bytes belong to the last of them, and `position`
counts the bytes passed. -/
def decodeFrom (read : List Char) (position skip : Nat) : List Nat → List Char × Option Utf8Error
  | [] => (read.reverse, none)
  | a :: rest =>
    match skip with
    | n + 1 => decodeFrom read (position + 1) n rest
    | 0 =>
      match decodeOne (a :: rest) with
      | .error (fault, length) => (read.reverse, some ⟨a, position, length, fault⟩)
      | .ok (c, used) => decodeFrom (c :: read) (position + 1) (used - 1) rest

/-- The characters of a sequence of bytes up to the first fault, and that fault. -/
def decode (bytes : List Nat) : List Char × Option Utf8Error :=
  decodeFrom [] 0 0 bytes

/-- Reads bytes that arrive in pieces of `size`. A sequence cut by the end of a piece waits for
the next one; a fault loses the piece it stands in, and its position counts from the start
of that piece. `waiting` holds the bytes of a cut sequence, `read` the text so far. -/
def decodePieces (size : Nat) (read : List (List Char)) (waiting : List Nat) (bytes : List Nat) :
    List Char × Option Utf8Error :=
  if bytes.isEmpty then
    match decode waiting with
    | (cs, none) => ((cs :: read).reverse.flatten, none)
    | (_, some e) => (read.reverse.flatten, some e)
  else if _h : 0 < size ∧ 0 < bytes.length then
    let piece := waiting ++ bytes.take size
    match decode piece with
    | (cs, none) => decodePieces size (cs :: read) [] (bytes.drop size)
    | (cs, some e) =>
      if e.fault = .unexpectedEnd then
        decodePieces size (cs :: read) (piece.drop e.start) (bytes.drop size)
      else (read.reverse.flatten, some e)
  else (read.reverse.flatten, none)
termination_by bytes.length
decreasing_by all_goals (simp; omega)

end PoissonFactor.Text

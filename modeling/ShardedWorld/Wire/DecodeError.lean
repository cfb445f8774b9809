/-!
Why bytes are not the wire form of anything, and the faults of text that is not UTF-8.
-/

set_option autoImplicit false

namespace ShardedWorld.Wire

/-- Bytes that continue no character: `index` is where the character starts. -/
inductive TextFault where
  | malformed (length index : Nat)
  | incomplete (index : Nat)
  deriving DecidableEq

namespace TextFault

def message : TextFault → String
  | .malformed length index =>
    "invalid utf-8 sequence of " ++ toString length ++ " bytes from index " ++ toString index
  | .incomplete index => "incomplete utf-8 byte sequence from index " ++ toString index

/-- The values that the second byte of a character may have, given the first one. -/
def secondByte (first : UInt8) : UInt8 × UInt8 :=
  if first = 0xe0 then (0xa0, 0xbf)
  else if first = 0xed then (0x80, 0x9f)
  else if first = 0xf0 then (0x90, 0xbf)
  else if first = 0xf4 then (0x80, 0x8f)
  else (0x80, 0xbf)

/-- The number of bytes that a character takes, zero if none starts with this byte. -/
def width (first : UInt8) : Nat :=
  if first < 0x80 then 1
  else if first < 0xc2 then 0
  else if first < 0xe0 then 2
  else if first < 0xf0 then 3
  else if first < 0xf5 then 4
  else 0

/-- Checks the bytes after the first one, of which `seen` are accepted already. -/
def checkTail (range : UInt8 × UInt8) (index seen : Nat) : Nat → List UInt8 → Option TextFault
  | 0, _ => none
  | _ + 1, [] => some (.incomplete index)
  | left + 1, b :: rest =>
    if b < range.1 || range.2 < b then some (.malformed seen index)
    else checkTail (0x80, 0xbf) index (seen + 1) left rest

def first? (bytes : List UInt8) : Option TextFault :=
  go bytes.length 0 bytes
where
  go : Nat → Nat → List UInt8 → Option TextFault
    | 0, _, _ => none
    | _, _, [] => none
    | left + 1, index, b :: rest =>
      match width b with
      | 0 => some (.malformed 1 index)
      | more + 1 =>
        match checkTail (secondByte b) index 1 more rest with
        | some fault => some fault
        | none => go left (index + more + 1) (rest.drop more)

end TextFault

inductive DecodeError where
  | cutShort
  | textTooLong
  | notText (fault : TextFault)
  | unknownVariant (found count : Nat)
  | unknownHost (found : Nat)
  | notBoolean (found : Nat)
  | notOption (found : Nat)
  deriving DecidableEq

namespace DecodeError

def message : DecodeError → String
  | .cutShort => "io error: unexpected end of file"
  | .textTooLong => "io error: "
  | .notText fault => "string is not valid utf8: " ++ fault.message
  | .unknownVariant found count =>
    "invalid value: integer `" ++ toString found ++ "`, expected variant index 0 <= i < " ++
      toString count
  | .unknownHost found =>
    "invalid value: integer `" ++ toString found ++ "`, expected `V4` or `V6`"
  | .notBoolean found =>
    "invalid u8 while decoding bool, expected 0 or 1, found " ++ toString found
  | .notOption found => "tag for enum is not valid, found " ++ toString found

end DecodeError

end ShardedWorld.Wire

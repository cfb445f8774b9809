import ShardedWorld.Binary.Format
import ShardedWorld.Table
import ShardedWorld.Wire.DecodeError

/-!
Wire forms and how to combine them.

A `Codec` writes a value as bytes and reads one from the head of some bytes, leaving the rest.
Numbers have a fixed width with the lowest byte first; text and lists follow their length in eight
bytes; an optional value follows one byte that tells whether it is there; the alternatives of a
choice are numbered in four bytes.
-/

set_option autoImplicit false

namespace ShardedWorld.Wire

abbrev Bytes := List UInt8

abbrev Result (α : Type) := Except DecodeError (α × Bytes)

/-- The lowest `width` bytes of a number, the lowest one first. -/
def littleBytes : Nat → Nat → Bytes
  | 0, _ => []
  | width + 1, n => .ofNat n :: littleBytes width (n / 256)

/-- The number that `width` bytes at the head hold. -/
def readLittle : Nat → Bytes → Result Nat
  | 0, bytes => .ok (0, bytes)
  | _ + 1, [] => .error .cutShort
  | width + 1, b :: bytes =>
    (readLittle width bytes).map fun (n, rest) => (b.toNat + 256 * n, rest)

structure Codec (α : Type) where
  write : α → Bytes
  read : Bytes → Result α

namespace Codec

variable {α β : Type}

def readAs (c : Codec α) (make : α → β) (bytes : Bytes) : Result β :=
  (c.read bytes).map fun (a, rest) => (make a, rest)

/-- A value written as another one that determines it. -/
def via (c : Codec α) (make : α → β) (parts : β → α) : Codec β where
  write b := c.write (parts b)
  read := c.readAs make

def little (width : Nat) (make : Nat → α) (value : α → Nat) : Codec α where
  write a := littleBytes width (value a)
  read bytes := (readLittle width bytes).map fun (n, rest) => (make n, rest)

def u16 : Codec UInt16 := little 2 .ofNat UInt16.toNat

def u32 : Codec UInt32 := little 4 .ofNat UInt32.toNat

def u64 : Codec UInt64 := little 8 .ofNat UInt64.toNat

def i32 : Codec Int32 := u32.via UInt32.toInt32 Int32.toUInt32

def single : Codec Single := little 4 .ofNat fun x => x.bits.toNat

/-- The four or sixteen bytes of a host, the highest first. -/
def bigBits (width : Nat) : Codec (BitVec (8 * width)) where
  write bits := (littleBytes width bits.toNat).reverse
  read bytes :=
    if bytes.length < width then .error .cutShort
    else
      (readLittle width (bytes.take width).reverse).map fun (n, _) =>
        (.ofNat (8 * width) n, bytes.drop width)

def boolean : Codec Bool where
  write b := [if b then 1 else 0]
  read
    | [] => .error .cutShort
    | 0 :: rest => .ok (false, rest)
    | 1 :: rest => .ok (true, rest)
    | b :: _ => .error (.notBoolean b.toNat)

def pair (a : Codec α) (b : Codec β) : Codec (α × β) where
  write p := a.write p.1 ++ b.write p.2
  read bytes :=
    match a.read bytes with
    | .error e => .error e
    | .ok (x, rest) => b.readAs (fun y => (x, y)) rest

def option (a : Codec α) : Codec (Option α) where
  write
    | none => [0]
    | some x => 1 :: a.write x
  read
    | [] => .error .cutShort
    | 0 :: rest => .ok (none, rest)
    | 1 :: rest => a.readAs some rest
    | b :: _ => .error (.notOption b.toNat)

def length : Codec Nat := little 8 id id

def readMany (a : Codec α) : Nat → Bytes → Result (List α)
  | 0, bytes => .ok ([], bytes)
  | n + 1, bytes =>
    match a.read bytes with
    | .error e => .error e
    | .ok (x, rest) => (readMany a n rest).map fun (xs, rest) => (x :: xs, rest)

def list (a : Codec α) : Codec (List α) where
  write xs := length.write xs.length ++ (xs.map a.write).flatten
  read bytes :=
    match length.read bytes with
    | .error e => .error e
    | .ok (n, rest) => readMany a n rest

/-- The entries of a table in the order of their keys. Reading takes them in any order and lets a
later entry replace an earlier one. -/
def table {κ : Type} [Ord κ] [Std.TransOrd κ] (key : Codec κ) (value : Codec α) :
    Codec (Table κ α) :=
  (list (key.pair value)).via (fun entries => .ofList entries) fun t => t.toList

def text : Codec String where
  write s :=
    let bytes := s.toUTF8.data.toList
    length.write bytes.length ++ bytes
  read bytes :=
    match length.read bytes with
    | .error e => .error e
    | .ok (n, rest) =>
      if rest.length < n then .error .textTooLong
      else
        match String.fromUTF8? ⟨(rest.take n).toArray⟩ with
        | some s => .ok (s, rest.drop n)
        | none => .error (.notText ((TextFault.first? (rest.take n)).getD (.incomplete 0)))

def tag (n : Nat) : Bytes := littleBytes 4 n

def readChoice (choose : Nat → Bytes → Result α) (bytes : Bytes) : Result α :=
  match readLittle 4 bytes with
  | .error e => .error e
  | .ok (n, rest) => choose n rest

end Codec

end ShardedWorld.Wire

import ShardedWorld.Table

/-!
Addresses of sockets: a host of either internet protocol and a port, with their usual text.
-/

set_option autoImplicit false

namespace ShardedWorld

/-- In the newer protocol a machine labels addresses for its own use: with the flow that packets to
them belong to, and with the number of the network where an address means different hosts on
different networks. A label that is not needed is zero. -/
inductive Host where
  | v4 (bits : BitVec 32)
  | v6 (bits : BitVec 128) (flow scope : UInt32)
  deriving DecidableEq

structure Address where
  host : Host
  port : UInt16
  deriving DecidableEq

namespace Address

def ofOctets (a b c d : UInt8) (port : UInt16) : Address :=
  ⟨.v4 (.ofNat 32 (((a.toNat * 256 + b.toNat) * 256 + c.toNat) * 256 + d.toNat)), port⟩

def loopback (port : UInt16) : Address := .ofOctets 127 0 0 1 port

instance : Inhabited Address := ⟨loopback 0⟩

def isLoopback (a : Address) : Bool :=
  match a.host with
  | .v4 bits => bits.toNat / 16777216 = 127
  | .v6 bits _ _ => bits = 1

/-- The address to send from to a peer; the system chooses the port. -/
def localFor (peer : Address) : Address :=
  match peer.host with
  | .v4 _ => if peer.isLoopback then .loopback 0 else ⟨.v4 0, 0⟩
  | .v6 .. => ⟨.v6 (if peer.isLoopback then 1 else 0) 0 0, 0⟩

/-- A number of its own for every address: the older protocol first, then by host, port, flow and
scope. -/
def rank (a : Address) : Nat :=
  let place (host : Nat) := host * 65536 + a.port.toNat
  match a.host with
  | .v4 bits => place bits.toNat * 4294967296 * 4294967296
  | .v6 bits flow scope =>
    (place (4294967296 + bits.toNat) * 4294967296 + flow.toNat) * 4294967296 + scope.toNat

theorem rank_injective {a b : Address} (h : a.rank = b.rank) : a = b := by
  obtain ⟨ha, pa⟩ := a
  obtain ⟨hb, pb⟩ := b
  have la := pa.toNat_lt
  have lb := pb.toNat_lt
  cases ha with
  | v4 x =>
    cases hb with
    | v4 y =>
      simp only [rank] at h
      have hp : pa.toNat = pb.toNat := by omega
      have hx : x.toNat = y.toNat := by omega
      rw [UInt16.toNat_inj.mp hp, BitVec.eq_of_toNat_eq hx]
    | v6 y g s =>
      have := x.isLt
      simp only [rank] at h
      omega
  | v6 x f r =>
    cases hb with
    | v4 y =>
      have := y.isLt
      simp only [rank] at h
      omega
    | v6 y g s =>
      have := f.toNat_lt
      have := g.toNat_lt
      have := r.toNat_lt
      have := s.toNat_lt
      simp only [rank] at h
      have hs : r.toNat = s.toNat := by omega
      have hf : f.toNat = g.toNat := by omega
      have hp : pa.toNat = pb.toNat := by omega
      have hx : x.toNat = y.toNat := by omega
      rw [UInt16.toNat_inj.mp hp, BitVec.eq_of_toNat_eq hx, UInt32.toNat_inj.mp hf,
        UInt32.toNat_inj.mp hs]

instance : Ord Address := ⟨compareOn rank⟩

instance : Std.TransOrd Address := inferInstanceAs (Std.TransCmp (compareOn rank))

instance : Std.LawfulEqOrd Address where
  eq_of_compare {a b} h :=
    have h : compare a.rank b.rank = .eq := h
    rank_injective (Std.LawfulEqOrd.eq_of_compare h)

def groups (bits : BitVec 128) : List Nat :=
  (List.range 8).map fun i => bits.toNat / Nat.pow 65536 (7 - i) % 65536

def ofGroups (groups : List Nat) : BitVec 128 :=
  .ofNat 128 (groups.foldl (fun n g => n * 65536 + g) 0)

def zeroRun (groups : List Nat) : Nat := (groups.takeWhile (· == 0)).length

/-- The first of the longest runs of zeros, as its start and its length. -/
def longestZeroRun (groups : List Nat) : Nat × Nat :=
  ((List.range groups.length).map fun i => (i, zeroRun (groups.drop i))).foldl
    (fun best run => if best.2 < run.2 then run else best) (0, 0)

def hexGroups (groups : List Nat) : String :=
  String.intercalate ":" (groups.map fun g => String.ofList (Nat.toDigits 16 g))

def octetsText (bits : Nat) : String :=
  String.intercalate "." ((List.range 4).map fun i => toString (bits / Nat.pow 256 (3 - i) % 256))

/-- A run of at least two zero groups is cut out; hosts of the older protocol in their mapped form
keep its notation. -/
def v6Text (bits : BitVec 128) : String :=
  let groups := groups bits
  if bits.toNat / 4294967296 = 0xffff then "::ffff:" ++ octetsText (bits.toNat % 4294967296)
  else
    let (start, length) := longestZeroRun groups
    if length < 2 then hexGroups groups
    else hexGroups (groups.take start) ++ "::" ++ hexGroups (groups.drop (start + length))

def scopeText (scope : UInt32) : String := if scope = 0 then "" else "%" ++ toString scope.toNat

/-- A flow is not told. -/
def text (a : Address) : String :=
  (match a.host with
    | .v4 bits => octetsText bits.toNat
    | .v6 bits _ scope => "[" ++ v6Text bits ++ scopeText scope ++ "]") ++ ":" ++
      toString a.port.toNat

def digit? (base : Nat) (c : Char) : Option Nat :=
  let value :=
    if c.isDigit then c.toNat - '0'.toNat
    else if 'a' ≤ c ∧ c ≤ 'f' then c.toNat - 'a'.toNat + 10
    else if 'A' ≤ c ∧ c ≤ 'F' then c.toNat - 'A'.toNat + 10
    else base
  if value < base then some value else none

/-- The digits at the head of a text, all of them, as a number below `bound`. There have to be some,
and at most `width` of them; a leading zero stands alone unless `padded`. -/
def readNumber (base bound width : Nat) (padded : Bool) (s : List Char) :
    Option (Nat × List Char) :=
  let digits := s.takeWhile fun c => (digit? base c).isSome
  let value := digits.foldl (fun n c => base * n + (digit? base c).getD 0) 0
  if digits.isEmpty || width < digits.length || bound ≤ value then none
  else if !padded && digits.head? == some '0' && 1 < digits.length then none
  else some (value, s.drop digits.length)

def skipChar (c : Char) : List Char → Option (List Char)
  | [] => none
  | d :: rest => if d = c then some rest else none

def readOctets (s : List Char) : Option (Nat × List Char) :=
  let rec go : Nat → Nat → List Char → Option (Nat × List Char)
    | 0, value, s => some (value, s)
    | left + 1, value, s => do
      let s ← if left = 3 then some s else skipChar '.' s
      let (octet, s) ← readNumber 10 256 3 false s
      go left (value * 256 + octet) s
  go 4 0 s

/-- Up to `left` groups with colons between them, the last two possibly in the notation of the
older protocol; tells whether they were. -/
def readGroups (left : Nat) (s : List Char) : List Nat × Bool × List Char :=
  let rec go : Nat → List Nat → List Char → List Nat × Bool × List Char
    | 0, found, s => (found, false, s)
    | left + 1, found, s =>
      let next := if found.isEmpty then some s else skipChar ':' s
      match (do let s ← next; if left = 0 then none else readOctets s) with
      | some (octets, rest) => (found ++ [octets / 65536, octets % 65536], true, rest)
      | none =>
        match (do readNumber 16 65536 4 true (← next)) with
        | some (group, rest) => go left (found ++ [group]) rest
        | none => (found, false, s)
  go left [] s

/-- Eight groups, or fewer around one `::` that stands for at least one group of zeros. -/
def readV6 (s : List Char) : Option (BitVec 128 × List Char) := do
  let (head, mapped, rest) := readGroups 8 s
  if head.length = 8 then some (ofGroups head, rest)
  else if mapped then none
  else
    let rest ← skipChar ':' rest
    let rest ← skipChar ':' rest
    let (tail, _, rest) := readGroups (8 - (head.length + 1)) rest
    some (ofGroups (head ++ List.replicate (8 - head.length - tail.length) 0 ++ tail), rest)

/-- A percent sign and a number; without them the scope is zero. -/
def readScope (s : List Char) : UInt32 × List Char :=
  match (do let s ← skipChar '%' s; readNumber 10 4294967296 s.length true s) with
  | some (scope, rest) => (.ofNat scope, rest)
  | none => (0, s)

def readHost (s : List Char) : Option (Host × List Char) :=
  match readOctets s with
  | some (octets, rest) => some (.v4 (.ofNat 32 octets), rest)
  | none => do
    let s ← skipChar '[' s
    let (bits, s) ← readV6 s
    let (scope, s) := readScope s
    let s ← skipChar ']' s
    some (.v6 bits 0 scope, s)

def ofText? (text : String) : Option Address := do
  let (host, s) ← readHost text.toList
  let s ← skipChar ':' s
  let (port, s) ← readNumber 10 65536 s.length true s
  if s.isEmpty then some ⟨host, .ofNat port⟩ else none

end Address

end ShardedWorld

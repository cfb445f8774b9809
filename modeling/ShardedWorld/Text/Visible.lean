/-!
What a text shows: the text without the control sequences that a terminal would obey and without
control characters, blank ones apart. Sequences are told apart by the states of a terminal that
reads bytes. A blank control character within a sequence is shown, and so is all that can be shown
after it; the first character that cannot be shown then goes on with the sequence.
-/

set_option autoImplicit false

namespace ShardedWorld.Text

inductive SequenceHead where
  | entry
  | parameters
  | intermediates
  deriving DecidableEq

/-- What a terminal is reading. `control` and `device` are heads of sequences of these two kinds,
`invalid` the rest of a control sequence that means nothing. `string` is text that is not shown,
`command` such a text for the operating system. -/
inductive Terminal where
  | ground
  | escape
  | escapeIntermediates
  | control (head : SequenceHead)
  | invalid
  | device (head : SequenceHead)
  | string
  | command
  deriving DecidableEq

namespace SequenceHead

def extend? (head : SequenceHead) (b : UInt8) : Option SequenceHead :=
  if 0x20 ≤ b && b ≤ 0x2f then some .intermediates
  else
    match head with
    | .entry => some .parameters
    | .parameters => if b ≤ 0x3b then some .parameters else none
    | .intermediates => none

end SequenceHead

namespace Terminal

def afterEscape (b : UInt8) : Terminal :=
  if b = 0x5b then .control .entry
  else if b = 0x5d then .command
  else if b = 0x50 then .device .entry
  else if b = 0x58 || b = 0x5e || b = 0x5f then .string
  else if 0x20 ≤ b && b ≤ 0x2f then .escapeIntermediates
  else .ground

/-- The state after one more byte. An escape begins a sequence anywhere, and two control characters
end one anywhere; the others and bytes beyond ASCII only end texts. -/
def step (state : Terminal) (b : UInt8) : Terminal :=
  if b = 0x1b then .escape
  else if b = 0x18 || b = 0x1a then .ground
  else
    let plain := 0x20 ≤ b && b ≤ 0x7e
    match state with
    | .ground => .ground
    | .escape => if plain then afterEscape b else .escape
    | .escapeIntermediates => if plain && 0x30 ≤ b then .ground else .escapeIntermediates
    | .control head =>
      if !plain then .control head
      else if 0x40 ≤ b then .ground
      else ((head.extend? b).map control).getD .invalid
    | .invalid => if plain && 0x40 ≤ b then .ground else .invalid
    | .device head =>
      if !plain then .device head
      else if 0x40 ≤ b then .string
      else ((head.extend? b).map device).getD .string
    | .string => if b = 0x9c then .ground else .string
    | .command => if b = 0x07 then .ground else .command

/-- Whether control characters count in a state, so that blank ones are shown. -/
def obeys : Terminal → Bool
  | .device _ | .string | .command => false
  | _ => true

def isBlankControl (c : Char) : Bool := c = '\t' || c = '\n' || c = '\x0c' || c = '\r'

def isShown (c : Char) : Bool := (0x20 ≤ c.toNat && c.toNat ≠ 0x7f) || isBlankControl c

/-- Whether a state begins to show text with a character. -/
def shows (state : Terminal) (c : Char) : Bool :=
  if state = .ground then isShown c else state.obeys && isBlankControl c

/-- The characters that are shown; `showing` tells that the last one was. Shown text leaves the
state as it is, but a character beyond ASCII ends every sequence. -/
def run (state : Terminal) (showing : Bool) : List Char → List Char
  | [] => []
  | c :: rest =>
    if showing && isShown c || state.shows c then
      c :: run (if c.toNat < 0x80 then state else .ground) true rest
    else run ((String.singleton c).toUTF8.toList.foldl step state) false rest

end Terminal

def visible (s : String) : String := String.ofList (Terminal.run .ground false s.toList)

end ShardedWorld.Text

import ShardedWorld.Identity
import ShardedWorld.Space.Vec2

/-!
What running programs leave to chance.
-/

set_option autoImplicit false

namespace ShardedWorld.Running

def between (low high : Single) : IO Single := do
  let part : Single := .ofInt (← IO.rand 0 16777215) / .ofInt 16777216
  return low + (high - low) * part

def heading (speed : Single) : IO Vec2 := do
  let angle := 6.283185307179586 * Float.ofNat (← IO.rand 0 1073741823) / 1073741824
  let along (part : Float) : Single := (Binary.ofNat part.toBits.toNat : Double).convert * speed
  return ⟨along angle.cos, along angle.sin⟩

def randomServerId : IO ServerId := do
  let digits := Nat.toDigits 16 (← IO.rand 0 65535)
  return ⟨"zone-" ++ String.ofList (List.replicate (4 - digits.length) '0' ++ digits)⟩

def randomPlayerId : IO PlayerId := do
  return .ofNat (← IO.rand 1 999999)

end ShardedWorld.Running

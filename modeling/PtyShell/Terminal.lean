import PtyShell.Fault

/-!
# Window sizes on the wire

A terminal keeps its size as four unsigned 16-bit fields, rows and columns first, in little-endian
order; the two pixel fields stay zero.
-/

namespace PtyShell.Terminal

def greatestDimension : Int := 65535

def field (dimension : Int) : Except Fault (List UInt8) :=
  if !isMachineInteger dimension then .error .dimensionOverflow
  else if dimension < 0 ∨ greatestDimension < dimension then .error .dimensionRange
  else .ok [UInt8.ofNat (dimension.toNat % 256), UInt8.ofNat (dimension.toNat / 256)]

def encode (rows cols : Int) : Except Fault (List UInt8) := do
  let rows ← field rows
  let cols ← field cols
  return rows ++ cols ++ [0, 0, 0, 0]

def word (low high : UInt8) : Int :=
  low.toNat + 256 * high.toNat

def decode : List UInt8 → Except Fault (Int × Int)
  | [a, b, c, d, _, _, _, _] => .ok (word a b, word c d)
  | _ => .error .dimensionLength

def claimingPlatforms : List String := ["linux", "darwin", "freebsd", "openbsd", "netbsd"]

def canClaim (platform : String) : Bool :=
  claimingPlatforms.any fun name => name.toList.isPrefixOf platform.toList

end PtyShell.Terminal

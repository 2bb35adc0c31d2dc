/-
  Polis.Kernel.Rng — named random streams (`kernel/rng.py`).

  The registry keeps the master seed of the run; a stream is the number its
  name, entity and tick hash to.  The draws it counts change no stream.
-/
import Polis.Events.Hashing

namespace Polis.Kernel

open Lib.Bytes
open Polis.Events (Sha256)

/-- `RngRegistry`. -/
structure RngRegistry where
  masterSeed : Int

/-- The number a byte string spells, most significant byte first. -/
def fromBytes (bs : ByteString) : Nat := bs.foldl (fun n b => 256 * n + b.toNat) 0

/-- `seed_for`: the first eight bytes of the digest of the stream's name. -/
def RngRegistry.seedFor [Sha256] (rng : RngRegistry) (name entityId : String)
    (tick : Option Int) : Nat :=
  let material := toString rng.masterSeed ++ "|" ++ name ++ "|" ++ entityId ++ "|"
    ++ tick.elim "" toString
  fromBytes ((Sha256.digest (utf8 material)).take 8)

end Polis.Kernel

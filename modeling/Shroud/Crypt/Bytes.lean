/-!
# Bytes

The cipher works on lists of bytes.  This file holds the few conversions that the primitives share:
little-endian and big-endian words, blocks of a fixed size, and exclusive or of two byte strings.
-/

set_option autoImplicit false

namespace Shroud

/-- A byte string. -/
abbrev Bytes := List UInt8

namespace Bytes

/-- Exclusive or, byte by byte; as long as the shorter of the two. -/
def xor (a b : Bytes) : Bytes := List.zipWith (· ^^^ ·) a b

/-- The number whose little-endian digits in base 256 are the bytes. -/
def toNatLE (b : Bytes) : Nat := b.foldr (fun x acc ↦ x.toNat + 256 * acc) 0

/-- The lowest `n` digits of a number in base 256, least significant first. -/
def ofNatLE : Nat → Nat → Bytes
  | 0, _ => []
  | n + 1, v => UInt8.ofNat v :: ofNatLE n (v / 256)

/-- The lowest `n` digits of a number in base 256, most significant first. -/
def ofNatBE (n v : Nat) : Bytes := (ofNatLE n v).reverse

/-- The bytes followed by zeros up to the next multiple of `n`. -/
def padTo (n : Nat) (b : Bytes) : Bytes := b ++ List.replicate ((n - b.length % n) % n) 0

/-- The bytes in blocks of `n + 1`; the last block is shorter when the length is no multiple. -/
def blocks (n : Nat) (b : Bytes) : List Bytes :=
  match b with
  | [] => []
  | x :: rest => (x :: rest.take n) :: blocks n (rest.drop n)
termination_by b.length
decreasing_by rw [List.length_drop, List.length_cons]; omega

theorem length_ofNatLE (n v : Nat) : (ofNatLE n v).length = n := by
  induction n generalizing v with
  | zero => rfl
  | succ n ih => simp [ofNatLE, ih]

end Bytes

end Shroud

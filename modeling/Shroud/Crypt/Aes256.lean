import Shroud.Crypt.Bytes

/-!
# AES-256

The block cipher of FIPS 197 with a key of 32 bytes, in the encrypting direction; counter modes need
no other.  A block is four columns of four bytes.  The substitution box is not copied from a table:
it is computed from its definition, an inverse in the field of 256 elements followed by an affine
map, and tabulated once.
-/

set_option autoImplicit false

namespace Shroud.Aes256

/-! ## The field of 256 elements -/

/-- Multiplication by the generator. -/
def double (b : UInt8) : UInt8 := (b <<< 1) ^^^ (if b ≥ 0x80 then 0x1b else 0)

/-- The product of two elements, bit by bit of the second; `n` is the number of bits left. -/
def mulBits : Nat → UInt8 → UInt8 → UInt8
  | 0, _, _ => 0
  | n + 1, a, b => (if b &&& 1 = 1 then a else 0) ^^^ mulBits n (double a) (b >>> 1)

/-- The product of two elements. -/
def mul (a b : UInt8) : UInt8 := mulBits 8 a b

/-- The inverse of an element, `b ^ 254`; zero goes to zero. -/
def inverse (b : UInt8) : UInt8 :=
  let b2 := mul b b
  let b3 := mul b2 b
  let b12 := mul (mul b3 b3) (mul b3 b3)
  let b15 := mul b12 b3
  let b240 := mul b15 b15 |> fun x ↦ mul x x |> fun x ↦ mul x x |> fun x ↦ mul x x
  mul (mul b240 b12) b2

/-- Rotation to the left. -/
def rotl (b n : UInt8) : UInt8 := (b <<< n) ||| (b >>> (8 - n))

/-- The substitution of one byte, from its definition. -/
def substitution (b : UInt8) : UInt8 :=
  let i := inverse b
  i ^^^ rotl i 1 ^^^ rotl i 2 ^^^ rotl i 3 ^^^ rotl i 4 ^^^ 0x63

/-- `substitution`, tabulated. -/
def box : Array UInt8 := (Array.range 256).map fun n ↦ substitution (UInt8.ofNat n)

/-- The substitution of one byte, from the table. -/
def sub (b : UInt8) : UInt8 := box.getD b.toNat 0

/-! ## Columns and blocks -/

/-- A column of a block, or a word of the key schedule. -/
structure Column where
  b₀ : UInt8
  b₁ : UInt8
  b₂ : UInt8
  b₃ : UInt8
  deriving DecidableEq

namespace Column

/-- The sum of two columns. -/
def xor (x y : Column) : Column := ⟨x.b₀ ^^^ y.b₀, x.b₁ ^^^ y.b₁, x.b₂ ^^^ y.b₂, x.b₃ ^^^ y.b₃⟩

/-- Every byte substituted. -/
def substitute (x : Column) : Column := ⟨sub x.b₀, sub x.b₁, sub x.b₂, sub x.b₃⟩

/-- The bytes moved up by one place. -/
def rotate (x : Column) : Column := ⟨x.b₁, x.b₂, x.b₃, x.b₀⟩

/-- The column multiplied by the fixed polynomial of the cipher. -/
def mix (x : Column) : Column :=
  let all := x.b₀ ^^^ x.b₁ ^^^ x.b₂ ^^^ x.b₃
  ⟨x.b₀ ^^^ all ^^^ double (x.b₀ ^^^ x.b₁), x.b₁ ^^^ all ^^^ double (x.b₁ ^^^ x.b₂),
   x.b₂ ^^^ all ^^^ double (x.b₂ ^^^ x.b₃), x.b₃ ^^^ all ^^^ double (x.b₃ ^^^ x.b₀)⟩

/-- The bytes of a column, from the top. -/
def bytes (x : Column) : Bytes := [x.b₀, x.b₁, x.b₂, x.b₃]

end Column

/-- A block of 16 bytes, or the key of a round. -/
structure Block where
  c₀ : Column
  c₁ : Column
  c₂ : Column
  c₃ : Column
  deriving DecidableEq

namespace Block

/-- The sum of two blocks. -/
def xor (x y : Block) : Block := ⟨x.c₀.xor y.c₀, x.c₁.xor y.c₁, x.c₂.xor y.c₂, x.c₃.xor y.c₃⟩

/-- Row `i` rotated by `i` places. -/
def shiftRows (x : Block) : Block :=
  ⟨⟨x.c₀.b₀, x.c₁.b₁, x.c₂.b₂, x.c₃.b₃⟩, ⟨x.c₁.b₀, x.c₂.b₁, x.c₃.b₂, x.c₀.b₃⟩,
   ⟨x.c₂.b₀, x.c₃.b₁, x.c₀.b₂, x.c₁.b₃⟩, ⟨x.c₃.b₀, x.c₀.b₁, x.c₁.b₂, x.c₂.b₃⟩⟩

/-- Every byte substituted. -/
def substitute (x : Block) : Block :=
  ⟨x.c₀.substitute, x.c₁.substitute, x.c₂.substitute, x.c₃.substitute⟩

/-- Every column mixed. -/
def mixColumns (x : Block) : Block := ⟨x.c₀.mix, x.c₁.mix, x.c₂.mix, x.c₃.mix⟩

/-- The bytes of a block, column by column. -/
def bytes (x : Block) : Bytes := x.c₀.bytes ++ x.c₁.bytes ++ x.c₂.bytes ++ x.c₃.bytes

/-- The columns of a byte string, in groups of four bytes. -/
def columns : Bytes → List Column
  | w :: x :: y :: z :: rest => ⟨w, x, y, z⟩ :: columns rest
  | _ => []

/-- The blocks of a list of columns. -/
def group : List Column → List Block
  | w :: x :: y :: z :: rest => ⟨w, x, y, z⟩ :: group rest
  | _ => []

/-- The block of zeros. -/
def zero : Block := ⟨⟨0, 0, 0, 0⟩, ⟨0, 0, 0, 0⟩, ⟨0, 0, 0, 0⟩, ⟨0, 0, 0, 0⟩⟩

/-- The block that the first 16 bytes make; missing bytes count as zero. -/
def ofBytes (b : Bytes) : Block :=
  (group (columns (b ++ List.replicate 16 0))).headD zero

end Block

/-! ## The key schedule -/

/-- The next eight words of the schedule from the last eight; `r` is the constant of the step. -/
def nextWords (r : UInt8) : List Column → List Column
  | [w₀, w₁, w₂, w₃, w₄, w₅, w₆, w₇] =>
    let x₀ := (w₀.xor w₇.rotate.substitute).xor ⟨r, 0, 0, 0⟩
    let x₁ := w₁.xor x₀
    let x₂ := w₂.xor x₁
    let x₃ := w₃.xor x₂
    let x₄ := w₄.xor x₃.substitute
    let x₅ := w₅.xor x₄
    let x₆ := w₆.xor x₅
    let x₇ := w₇.xor x₆
    [x₀, x₁, x₂, x₃, x₄, x₅, x₆, x₇]
  | _ => []

/-- `n` steps of eight words each, after the words `ws`. -/
def expand : Nat → UInt8 → List Column → List Column
  | 0, _, ws => ws
  | n + 1, r, ws => ws ++ expand n (double r) (nextWords r ws)

/-- The keys of the fifteen rounds. -/
def roundKeys (key : Bytes) : List Block := (Block.group (expand 7 1 (Block.columns key))).take 15

/-! ## Encryption -/

/-- The rounds, given the keys that are left: the last one does not mix columns. -/
def rounds : List Block → Block → Block
  | [], s => s
  | [k], s => s.substitute.shiftRows.xor k
  | k :: ks, s => rounds ks (s.substitute.shiftRows.mixColumns.xor k)

/-- One block encrypted with the keys of `roundKeys`. -/
def encryptWith (keys : List Block) (b : Block) : Block :=
  match keys with
  | [] => b
  | k :: ks => rounds ks (b.xor k)

/-- The first 16 bytes of `input`, encrypted. -/
def encrypt (keys : List Block) (input : Bytes) : Bytes := (encryptWith keys (.ofBytes input)).bytes

theorem length_encrypt (keys : List Block) (input : Bytes) : (encrypt keys input).length = 16 := rfl

end Shroud.Aes256

import CompileOrder.Shell.Utility.Digest

/-!
# Digests by long words

Digests whose state is made of words of 64 bits and whose blocks have 128 octets. The
digests of 384 and 512 bits differ in the start of the state only; a third one mixes the
words of a block in ten orders and can have any number of octets up to 64.
-/

namespace CompileOrder.Shell.Utility.Digest

open Text (Bytes)

/-- A long word turned to the right by some bits. -/
def turnRight (x : UInt64) (n : UInt64) : UInt64 := (x >>> n) ||| (x <<< (64 - n))

/-- The number that octets spell, the greatest one first. -/
def numberOf (bytes : Bytes) : Nat := bytes.foldl (fun n b => n * 256 + b.toNat) 0

/-- The long words of octets, at most `n`. -/
def longWords (isLittle : Bool) : Nat → Bytes → List UInt64
  | 0, _ => []
  | _ + 1, [] => []
  | n + 1, bytes =>
    let part := bytes.take 8
    UInt64.ofNat (numberOf (if isLittle then part.reverse else part)) ::
      longWords isLittle n (bytes.drop 8)

/-- The blocks of 128 octets of a message, at most `n`. -/
def longBlocks : Nat → Bytes → List Bytes
  | 0, _ => []
  | _ + 1, [] => []
  | n + 1, bytes => bytes.take 128 :: longBlocks n (bytes.drop 128)

/-- The constants of a digest of 512 bits. -/
def constants512 : Array UInt64 :=
  #[0x428a2f98d728ae22, 0x7137449123ef65cd, 0xb5c0fbcfec4d3b2f, 0xe9b5dba58189dbbc,
    0x3956c25bf348b538, 0x59f111f1b605d019, 0x923f82a4af194f9b, 0xab1c5ed5da6d8118,
    0xd807aa98a3030242, 0x12835b0145706fbe, 0x243185be4ee4b28c, 0x550c7dc3d5ffb4e2,
    0x72be5d74f27b896f, 0x80deb1fe3b1696b1, 0x9bdc06a725c71235, 0xc19bf174cf692694,
    0xe49b69c19ef14ad2, 0xefbe4786384f25e3, 0x0fc19dc68b8cd5b5, 0x240ca1cc77ac9c65,
    0x2de92c6f592b0275, 0x4a7484aa6ea6e483, 0x5cb0a9dcbd41fbd4, 0x76f988da831153b5,
    0x983e5152ee66dfab, 0xa831c66d2db43210, 0xb00327c898fb213f, 0xbf597fc7beef0ee4,
    0xc6e00bf33da88fc2, 0xd5a79147930aa725, 0x06ca6351e003826f, 0x142929670a0e6e70,
    0x27b70a8546d22ffc, 0x2e1b21385c26c926, 0x4d2c6dfc5ac42aed, 0x53380d139d95b3df,
    0x650a73548baf63de, 0x766a0abb3c77b2a8, 0x81c2c92e47edaee6, 0x92722c851482353b,
    0xa2bfe8a14cf10364, 0xa81a664bbc423001, 0xc24b8b70d0f89791, 0xc76c51a30654be30,
    0xd192e819d6ef5218, 0xd69906245565a910, 0xf40e35855771202a, 0x106aa07032bbd1b8,
    0x19a4c116b8d2d0c8, 0x1e376c085141ab53, 0x2748774cdf8eeb99, 0x34b0bcb5e19b48a8,
    0x391c0cb3c5c95a63, 0x4ed8aa4ae3418acb, 0x5b9cca4f7763e373, 0x682e6ff3d6b2b8a3,
    0x748f82ee5defb2fc, 0x78a5636f43172f60, 0x84c87814a1f0ab72, 0x8cc702081a6439ec,
    0x90befffa23631e28, 0xa4506cebde82bde9, 0xbef9a3f7b2c67915, 0xc67178f2e372532b,
    0xca273eceea26619c, 0xd186b8c721c0c207, 0xeada7dd6cde0eb1e, 0xf57d4f7fee6ed178,
    0x06f067aa72176fba, 0x0a637dc5a2c898a6, 0x113f9804bef90dae, 0x1b710b35131c471b,
    0x28db77f523047d84, 0x32caab7b40c72493, 0x3c9ebe0a15c9bebc, 0x431d67c49c100d4c,
    0x4cc5d4becb3e42b6, 0x597f299cfc657e2a, 0x5fcb6fab3ad6faec, 0x6c44198c4a475817]

/-- One block of a digest of 512 bits. -/
def step512 (state : List UInt64) (block : Array UInt64) : List UInt64 :=
  let w := (List.range 64).foldl (fun (w : Array UInt64) i =>
    let x := w.getD (i + 1) 0
    let y := w.getD (i + 14) 0
    let s0 := turnRight x 1 ^^^ turnRight x 8 ^^^ (x >>> 7)
    let s1 := turnRight y 19 ^^^ turnRight y 61 ^^^ (y >>> 6)
    w.push (w.getD i 0 + s0 + w.getD (i + 9) 0 + s1)) block
  (List.range 80).foldl (fun state i => match state with
    | [a, b, c, d, e, f, g, h] =>
      let s1 := turnRight e 14 ^^^ turnRight e 18 ^^^ turnRight e 41
      let choice := (e &&& f) ^^^ (~~~e &&& g)
      let t1 := h + s1 + choice + constants512.getD i 0 + w.getD i 0
      let s0 := turnRight a 28 ^^^ turnRight a 34 ^^^ turnRight a 39
      let majority := (a &&& b) ^^^ (a &&& c) ^^^ (b &&& c)
      [t1 + (s0 + majority), a, b, c, d + t1, e, f, g]
    | state => state) state

/-- The first words of the state after all blocks. -/
def longDigest (start : List UInt64) (words : Nat) (message : Bytes) : Bytes :=
  let fill := (239 - message.length % 128) % 128
  let bytes := message ++ [128] ++ List.replicate fill 0 ++ bigEndian 16 (message.length * 8)
  let final := (longBlocks (bytes.length / 128 + 1) bytes).foldl (fun state block =>
    (state.zip (step512 state (longWords false 16 block).toArray)).map fun (a, b) => a + b) start
  (final.take words).flatMap fun w => bigEndian 8 w.toNat

/-- The digest of 384 bits. -/
def digest384 : Bytes → Bytes :=
  longDigest [0xcbbb9d5dc1059ed8, 0x629a292a367cd507, 0x9159015a3070dd17, 0x152fecd8f70e5939,
    0x67332667ffc00b31, 0x8eb44a8768581511, 0xdb0c2e0d64f98fa7, 0x47b5481dbefa4fa4] 6

/-- The start of a digest of 512 bits. -/
def start512 : List UInt64 :=
  [0x6a09e667f3bcc908, 0xbb67ae8584caa73b, 0x3c6ef372fe94f82b, 0xa54ff53a5f1d36f1,
    0x510e527fade682d1, 0x9b05688c2b3e6c1f, 0x1f83d9abfb41bd6b, 0x5be0cd19137e2179]

/-- The digest of 512 bits. -/
def digest512 : Bytes → Bytes := longDigest start512 8

/-- The orders in which the words of a block are mixed. -/
def mixOrders : List (List Nat) :=
  [[0, 1, 2, 3, 4, 5, 6, 7, 8, 9, 10, 11, 12, 13, 14, 15],
    [14, 10, 4, 8, 9, 15, 13, 6, 1, 12, 0, 2, 11, 7, 5, 3],
    [11, 8, 12, 0, 5, 2, 15, 13, 10, 14, 3, 6, 7, 1, 9, 4],
    [7, 9, 3, 1, 13, 12, 11, 14, 2, 6, 5, 10, 4, 0, 15, 8],
    [9, 0, 5, 7, 2, 4, 10, 15, 14, 1, 11, 12, 6, 8, 3, 13],
    [2, 12, 6, 10, 0, 11, 8, 3, 4, 13, 7, 5, 15, 14, 1, 9],
    [12, 5, 1, 15, 14, 13, 4, 10, 0, 7, 6, 3, 9, 2, 8, 11],
    [13, 11, 7, 14, 12, 1, 3, 9, 5, 0, 15, 4, 8, 6, 2, 10],
    [6, 15, 14, 9, 11, 3, 0, 8, 12, 2, 13, 7, 1, 4, 10, 5],
    [10, 2, 8, 4, 7, 6, 1, 5, 15, 11, 9, 14, 3, 12, 13, 0]]

/-- The places that are mixed with each other, by columns and by diagonals. -/
def mixPlaces : List (Nat × Nat × Nat × Nat) :=
  [(0, 4, 8, 12), (1, 5, 9, 13), (2, 6, 10, 14), (3, 7, 11, 15), (0, 5, 10, 15), (1, 6, 11, 12),
    (2, 7, 8, 13), (3, 4, 9, 14)]

/-- Four places are mixed with two words. -/
def mix (v : Array UInt64) (places : Nat × Nat × Nat × Nat) (x y : UInt64) : Array UInt64 :=
  let (i, j, k, l) := places
  let a := v.getD i 0 + v.getD j 0 + x
  let d := turnRight (v.getD l 0 ^^^ a) 32
  let c := v.getD k 0 + d
  let b := turnRight (v.getD j 0 ^^^ c) 24
  let a := a + b + y
  let d := turnRight (d ^^^ a) 16
  let c := c + d
  let b := turnRight (b ^^^ c) 63
  (((v.setIfInBounds i a).setIfInBounds j b).setIfInBounds k c).setIfInBounds l d

/-- One block of a mixed digest: the number of octets so far, and whether it is the last. -/
def mixBlock (state : List UInt64) (block : Bytes) (count : Nat) (isLast : Bool) : List UInt64 :=
  let m := (longWords true 16 (block ++ List.replicate (128 - block.length) 0)).toArray
  let ends : List UInt64 := match start512 with
    | [a, b, c, d, e, f, g, h] =>
      [a, b, c, d, e ^^^ UInt64.ofNat count, f, if isLast then ~~~g else g, h]
    | other => other
  let v := (mixOrders ++ mixOrders.take 2).foldl (fun v order =>
    (mixPlaces.zipIdx).foldl (fun v (places, i) =>
      mix v places (m.getD (order.getD (2 * i) 0) 0) (m.getD (order.getD (2 * i + 1) 0) 0)) v)
    (state ++ ends).toArray
  state.zipIdx.map fun (h, i) => h ^^^ v.getD i 0 ^^^ v.getD (i + 8) 0

/-- The blocks of a mixed digest, at most `n`, after `count` octets. -/
def mixBlocks : Nat → Nat → List UInt64 → Bytes → List UInt64
  | 0, _, state, _ => state
  | n + 1, count, state, bytes =>
    if bytes.length ≤ 128 then mixBlock state bytes (count + bytes.length) true
    else mixBlocks n (count + 128) (mixBlock state (bytes.take 128) (count + 128) false)
      (bytes.drop 128)

/-- The mixed digest with a number of octets. -/
def mixedDigest (octets : Nat) (message : Bytes) : Bytes :=
  let start := match start512 with
    | a :: rest => (a ^^^ 0x01010000 ^^^ UInt64.ofNat octets) :: rest
    | [] => []
  let final := mixBlocks (message.length / 128 + 1) 0 start message
  (final.flatMap fun w => littleEndian 8 w.toNat).take octets

end CompileOrder.Shell.Utility.Digest

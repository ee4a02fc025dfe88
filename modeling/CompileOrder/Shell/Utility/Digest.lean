import CompileOrder.Text.Utf8

/-!
# Digests

Short numbers that tell files apart. A message is filled up to blocks of 64 octets with
its length at the end; a state of words of 32 bits is changed by block after block.
-/

namespace CompileOrder.Shell.Utility.Digest

open Text (Bytes)

/-- A word turned to the left by some bits. -/
def rotateLeft (x : UInt32) (n : UInt32) : UInt32 := (x <<< n) ||| (x >>> (32 - n))

/-- A word turned to the right by some bits. -/
def rotateRight (x : UInt32) (n : UInt32) : UInt32 := (x >>> n) ||| (x <<< (32 - n))

/-- The octets of a number, the least one first. -/
def littleEndian (count n : Nat) : Bytes :=
  (List.range count).map fun i => UInt8.ofNat (n / Nat.pow 256 i % 256)

/-- The octets of a number, the greatest one first. -/
def bigEndian (count n : Nat) : Bytes := (littleEndian count n).reverse

/-- A message filled up to whole blocks, with its length in bits at the end. -/
def padded (length : Nat → Bytes) (message : Bytes) : Bytes :=
  let fill := (119 - message.length % 64) % 64
  message ++ [128] ++ List.replicate fill 0 ++ length (message.length * 8)

/-- The words of a block, by the order of their octets. -/
def wordsOf (isLittle : Bool) : Bytes → List UInt32
  | a :: b :: c :: d :: rest =>
    let word (w x y z : UInt8) : UInt32 :=
      UInt32.ofNat (((w.toNat * 256 + x.toNat) * 256 + y.toNat) * 256 + z.toNat)
    (if isLittle then word d c b a else word a b c d) :: wordsOf isLittle rest
  | _ => []

/-- The blocks of a message, at most `n`. -/
def blocks (isLittle : Bool) : Nat → Bytes → List (Array UInt32)
  | 0, _ => []
  | _ + 1, [] => []
  | n + 1, bytes => (wordsOf isLittle (bytes.take 64)).toArray :: blocks isLittle n (bytes.drop 64)

/-- Hexadecimal digits of octets. -/
def hex (bytes : Bytes) : String :=
  String.ofList (bytes.flatMap fun b =>
    let ds := Nat.toDigits 16 b.toNat
    List.replicate (2 - ds.length) '0' ++ ds)

/-- The state after all blocks. -/
def digestOf (isLittle : Bool) (start : List UInt32)
    (step : List UInt32 → Array UInt32 → List UInt32)
    (message : Bytes) : Bytes :=
  let length (n : Nat) : Bytes := if isLittle then littleEndian 8 n else bigEndian 8 n
  let bytes := padded length message
  let final := (blocks isLittle (bytes.length / 64 + 1) bytes).foldl (fun state block =>
    (state.zip (step state block)).map fun (a, b) => a + b) start
  final.flatMap fun w => if isLittle then littleEndian 4 w.toNat else bigEndian 4 w.toNat

/-- The number of bits that the words of a digest of 128 bits are turned by. -/
def turns128 : List (List UInt32) :=
  [[7, 12, 17, 22], [5, 9, 14, 20], [4, 11, 16, 23], [6, 10, 15, 21]]

/-- The constants of a digest of 128 bits. -/
def constants128 : Array UInt32 :=
  #[0xd76aa478, 0xe8c7b756, 0x242070db, 0xc1bdceee, 0xf57c0faf, 0x4787c62a, 0xa8304613, 0xfd469501,
    0x698098d8, 0x8b44f7af, 0xffff5bb1, 0x895cd7be, 0x6b901122, 0xfd987193, 0xa679438e, 0x49b40821,
    0xf61e2562, 0xc040b340, 0x265e5a51, 0xe9b6c7aa, 0xd62f105d, 0x02441453, 0xd8a1e681, 0xe7d3fbc8,
    0x21e1cde6, 0xc33707d6, 0xf4d50d87, 0x455a14ed, 0xa9e3e905, 0xfcefa3f8, 0x676f02d9, 0x8d2a4c8a,
    0xfffa3942, 0x8771f681, 0x6d9d6122, 0xfde5380c, 0xa4beea44, 0x4bdecfa9, 0xf6bb4b60, 0xbebfbc70,
    0x289b7ec6, 0xeaa127fa, 0xd4ef3085, 0x04881d05, 0xd9d4d039, 0xe6db99e5, 0x1fa27cf8, 0xc4ac5665,
    0xf4292244, 0x432aff97, 0xab9423a7, 0xfc93a039, 0x655b59c3, 0x8f0ccc92, 0xffeff47d, 0x85845dd1,
    0x6fa87e4f, 0xfe2ce6e0, 0xa3014314, 0x4e0811a1, 0xf7537e82, 0xbd3af235, 0x2ad7d2bb, 0xeb86d391]

/-- One block of a digest of 128 bits. -/
def step128 (state : List UInt32) (block : Array UInt32) : List UInt32 :=
  (List.range 64).foldl (fun state i => match state with
    | [a, b, c, d] =>
      let (f, g) := if i < 16 then ((b &&& c) ||| (~~~b &&& d), i)
        else if i < 32 then ((d &&& b) ||| (~~~d &&& c), (5 * i + 1) % 16)
        else if i < 48 then (b ^^^ c ^^^ d, (3 * i + 5) % 16)
        else (c ^^^ (b ||| ~~~d), 7 * i % 16)
      let turn := (turns128.getD (i / 16) []).getD (i % 4) 0
      let sum := a + f + constants128.getD i 0 + block.getD g 0
      [d, b + rotateLeft sum turn, b, c]
    | state => state) state

/-- The words of a block, filled up by a rule. -/
def schedule (count : Nat) (rule : Array UInt32 → Nat → UInt32) (block : Array UInt32) :
    Array UInt32 :=
  (List.range (count - 16)).foldl (fun w i => w.push (rule w (i + 16))) block

/-- One block of a digest of 160 bits. -/
def step160 (state : List UInt32) (block : Array UInt32) : List UInt32 :=
  let w := schedule 80 (fun w i =>
    rotateLeft (w.getD (i - 3) 0 ^^^ w.getD (i - 8) 0 ^^^ w.getD (i - 14) 0 ^^^ w.getD (i - 16) 0)
      1) block
  (List.range 80).foldl (fun state i => match state with
    | [a, b, c, d, e] =>
      let (f, k) := if i < 20 then ((b &&& c) ||| (~~~b &&& d), (0x5a827999 : UInt32))
        else if i < 40 then (b ^^^ c ^^^ d, 0x6ed9eba1)
        else if i < 60 then ((b &&& c) ||| (b &&& d) ||| (c &&& d), 0x8f1bbcdc)
        else (b ^^^ c ^^^ d, 0xca62c1d6)
      [rotateLeft a 5 + f + e + k + w.getD i 0, a, rotateLeft b 30, c, d]
    | state => state) state

/-- The constants of a digest of 256 bits. -/
def constants256 : Array UInt32 :=
  #[0x428a2f98, 0x71374491, 0xb5c0fbcf, 0xe9b5dba5, 0x3956c25b, 0x59f111f1, 0x923f82a4, 0xab1c5ed5,
    0xd807aa98, 0x12835b01, 0x243185be, 0x550c7dc3, 0x72be5d74, 0x80deb1fe, 0x9bdc06a7, 0xc19bf174,
    0xe49b69c1, 0xefbe4786, 0x0fc19dc6, 0x240ca1cc, 0x2de92c6f, 0x4a7484aa, 0x5cb0a9dc, 0x76f988da,
    0x983e5152, 0xa831c66d, 0xb00327c8, 0xbf597fc7, 0xc6e00bf3, 0xd5a79147, 0x06ca6351, 0x14292967,
    0x27b70a85, 0x2e1b2138, 0x4d2c6dfc, 0x53380d13, 0x650a7354, 0x766a0abb, 0x81c2c92e, 0x92722c85,
    0xa2bfe8a1, 0xa81a664b, 0xc24b8b70, 0xc76c51a3, 0xd192e819, 0xd6990624, 0xf40e3585, 0x106aa070,
    0x19a4c116, 0x1e376c08, 0x2748774c, 0x34b0bcb5, 0x391c0cb3, 0x4ed8aa4a, 0x5b9cca4f, 0x682e6ff3,
    0x748f82ee, 0x78a5636f, 0x84c87814, 0x8cc70208, 0x90befffa, 0xa4506ceb, 0xbef9a3f7, 0xc67178f2]

/-- One block of a digest of 256 bits. -/
def step256 (state : List UInt32) (block : Array UInt32) : List UInt32 :=
  let w := schedule 64 (fun w i =>
    let x := w.getD (i - 15) 0
    let y := w.getD (i - 2) 0
    let s0 := rotateRight x 7 ^^^ rotateRight x 18 ^^^ (x >>> 3)
    let s1 := rotateRight y 17 ^^^ rotateRight y 19 ^^^ (y >>> 10)
    w.getD (i - 16) 0 + s0 + w.getD (i - 7) 0 + s1) block
  (List.range 64).foldl (fun state i => match state with
    | [a, b, c, d, e, f, g, h] =>
      let s1 := rotateRight e 6 ^^^ rotateRight e 11 ^^^ rotateRight e 25
      let choice := (e &&& f) ^^^ (~~~e &&& g)
      let t1 := h + s1 + choice + constants256.getD i 0 + w.getD i 0
      let s0 := rotateRight a 2 ^^^ rotateRight a 13 ^^^ rotateRight a 22
      let majority := (a &&& b) ^^^ (a &&& c) ^^^ (b &&& c)
      [t1 + (s0 + majority), a, b, c, d + t1, e, f, g]
    | state => state) state

/-- The digest of 128 bits. -/
def digest128 : Bytes → Bytes :=
  digestOf true [0x67452301, 0xefcdab89, 0x98badcfe, 0x10325476] step128

/-- The digest of 160 bits. -/
def digest160 : Bytes → Bytes :=
  digestOf false [0x67452301, 0xefcdab89, 0x98badcfe, 0x10325476, 0xc3d2e1f0] step160

/-- The digest of 256 bits. -/
def digest256 : Bytes → Bytes :=
  digestOf false [0x6a09e667, 0xbb67ae85, 0x3c6ef372, 0xa54ff53a, 0x510e527f, 0x9b05688c,
    0x1f83d9ab, 0x5be0cd19] step256

/-- The digest of 224 bits: the one of 256 bits with another start, without its end. -/
def digest224 (message : Bytes) : Bytes :=
  (digestOf false [0xc1059ed8, 0x367cd507, 0x3070dd17, 0xf70e5939, 0xffc00b31, 0x68581511,
    0x64f98fa7, 0xbefa4fa4] step256 message).take 28

/-- One octet of a remainder of 32 bits. -/
def remainderStep (r : UInt32) (b : UInt8) : UInt32 :=
  (List.range 8).foldl (fun r i =>
    let bit := (b.toUInt32 >>> (7 - UInt32.ofNat i)) &&& 1
    let top := r >>> 31
    let r := r <<< 1
    if top != bit then r ^^^ 0x04c11db7 else r) r

/-- The octets of a length, the least one first, without noughts at the end; at most `n`. -/
def lengthOctets : Nat → Nat → Bytes
  | 0, _ => []
  | n + 1, length =>
    if length == 0 then []
    else UInt8.ofNat (length % 256) :: lengthOctets n (length / 256)

/-- The remainder of a message and its length. -/
def checksum (message : Bytes) : Nat :=
  (~~~((message ++ lengthOctets 8 message.length).foldl remainderStep 0)).toNat

/-- A sum of 16 bits that is turned by one bit before each octet. -/
def turnedSum (message : Bytes) : Nat :=
  message.foldl (fun sum b => (sum / 2 + sum % 2 * 32768 + b.toNat) % 65536) 0

/-- The sum of the octets, folded to 16 bits. -/
def plainSum (message : Bytes) : Nat :=
  let sum := message.foldl (fun sum b => sum + b.toNat) 0 % 4294967296
  let r := sum % 65536 + sum / 65536
  r % 65536 + r / 65536

end CompileOrder.Shell.Utility.Digest

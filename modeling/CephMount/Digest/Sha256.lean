/-!
SHA-256 as FIPS 180-4 defines it, over lists of bytes; `hexDigest` writes the digest as 64
lower-case hexadecimal digits.
-/
namespace CephMount.Digest

def roundConstants : Array UInt32 := #[
  0x428a2f98, 0x71374491, 0xb5c0fbcf, 0xe9b5dba5, 0x3956c25b, 0x59f111f1,
  0x923f82a4, 0xab1c5ed5, 0xd807aa98, 0x12835b01, 0x243185be, 0x550c7dc3,
  0x72be5d74, 0x80deb1fe, 0x9bdc06a7, 0xc19bf174, 0xe49b69c1, 0xefbe4786,
  0x0fc19dc6, 0x240ca1cc, 0x2de92c6f, 0x4a7484aa, 0x5cb0a9dc, 0x76f988da,
  0x983e5152, 0xa831c66d, 0xb00327c8, 0xbf597fc7, 0xc6e00bf3, 0xd5a79147,
  0x06ca6351, 0x14292967, 0x27b70a85, 0x2e1b2138, 0x4d2c6dfc, 0x53380d13,
  0x650a7354, 0x766a0abb, 0x81c2c92e, 0x92722c85, 0xa2bfe8a1, 0xa81a664b,
  0xc24b8b70, 0xc76c51a3, 0xd192e819, 0xd6990624, 0xf40e3585, 0x106aa070,
  0x19a4c116, 0x1e376c08, 0x2748774c, 0x34b0bcb5, 0x391c0cb3, 0x4ed8aa4a,
  0x5b9cca4f, 0x682e6ff3, 0x748f82ee, 0x78a5636f, 0x84c87814, 0x8cc70208,
  0x90befffa, 0xa4506ceb, 0xbef9a3f7, 0xc67178f2]

def initialState : Array UInt32 := #[
  0x6a09e667, 0xbb67ae85, 0x3c6ef372, 0xa54ff53a, 0x510e527f, 0x9b05688c, 0x1f83d9ab, 0x5be0cd19]

/-- Rotation to the right by `n` bits, `0 < n < 32`. -/
def rotr (x : UInt32) (n : UInt32) : UInt32 := (x >>> n) ||| (x <<< (32 - n))

def word (a b c d : Nat) : UInt32 :=
  (a.toUInt32 <<< 24) ||| (b.toUInt32 <<< 16) ||| (c.toUInt32 <<< 8) ||| d.toUInt32

def blockWords : List Nat → List UInt32
  | a :: b :: c :: d :: rest => word a b c d :: blockWords rest
  | _ => []

def schedule (words : List UInt32) : Array UInt32 :=
  (List.range 48).foldl (fun (w : Array UInt32) i =>
    let t := i + 16
    let w15 := w[t - 15]!
    let w2 := w[t - 2]!
    let s0 := rotr w15 7 ^^^ rotr w15 18 ^^^ (w15 >>> 3)
    let s1 := rotr w2 17 ^^^ rotr w2 19 ^^^ (w2 >>> 10)
    w.push (w[t - 16]! + s0 + w[t - 7]! + s1)) words.toArray

def round (v : Array UInt32) (k w : UInt32) : Array UInt32 :=
  let a := v[0]!; let b := v[1]!; let c := v[2]!; let d := v[3]!
  let e := v[4]!; let f := v[5]!; let g := v[6]!; let h := v[7]!
  let s1 := rotr e 6 ^^^ rotr e 11 ^^^ rotr e 25
  let ch := (e &&& f) ^^^ (~~~e &&& g)
  let t1 := h + s1 + ch + k + w
  let s0 := rotr a 2 ^^^ rotr a 13 ^^^ rotr a 22
  let maj := (a &&& b) ^^^ (a &&& c) ^^^ (b &&& c)
  let t2 := s0 + maj
  #[t1 + t2, a, b, c, d + t1, e, f, g]

def compress (state : Array UInt32) (block : List Nat) : Array UInt32 :=
  let w := schedule (blockWords block)
  let v := (List.range 64).foldl (fun v i => round v roundConstants[i]! w[i]!) state
  (List.range 8).toArray.map fun i => state[i]! + v[i]!

/-- The padded message: a one bit, zeros to 56 bytes modulo 64, and the bit length. -/
def pad (msg : List Nat) : List Nat :=
  let len := msg.length
  let zeros := (119 - len % 64) % 64
  msg ++ [0x80] ++ List.replicate zeros 0 ++
    (List.range 8).reverse.map fun i => (len * 8) / Nat.pow 2 (8 * i) % 256

/-- Compresses the blocks of a padded message in turn; `fuel` bounds the block count. -/
def compressAll : Nat → Array UInt32 → List Nat → Array UInt32
  | 0, state, _ => state
  | _ + 1, state, [] => state
  | fuel + 1, state, bytes => compressAll fuel (compress state (bytes.take 64)) (bytes.drop 64)

/-- The 32 bytes of the SHA-256 digest of a message. -/
def digest (msg : List Nat) : List Nat :=
  let padded := pad msg
  let state := compressAll (padded.length / 64 + 1) initialState padded
  state.toList.flatMap fun (w : UInt32) =>
    [w.toNat / Nat.pow 2 24 % 256, w.toNat / Nat.pow 2 16 % 256, w.toNat / Nat.pow 2 8 % 256, w.toNat % 256]

def hex (bytes : List Nat) : String :=
  String.ofList (bytes.flatMap fun b =>
    [Nat.digitChar (b / 16), Nat.digitChar (b % 16)])

/-- The digest as 64 lower-case hexadecimal digits. -/
def hexDigest (msg : List Nat) : String := hex (digest msg)

end CephMount.Digest

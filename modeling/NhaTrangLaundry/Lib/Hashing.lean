import NhaTrangLaundry.Lib.Text

/-! SHA-256 and SHA-1 of the UTF-8 bytes of a text, over 32-bit words. -/

namespace NhaTrangLaundry.Lib.Hashing

open Text

def utf8 (c : Char) : List Nat :=
  let n := c.toNat
  if n < 0x80 then [n]
  else if n < 0x800 then [0xC0 + n / 64, 0x80 + n % 64]
  else if n < 0x10000 then [0xE0 + n / 4096, 0x80 + n / 64 % 64, 0x80 + n % 64]
  else [0xF0 + n / 262144, 0x80 + n / 4096 % 64, 0x80 + n / 64 % 64, 0x80 + n % 64]

def encode (s : String) : List Nat := s.toList.flatMap utf8

/-- The `k` lowest bytes of `n`, highest first. -/
def bigEndian : Nat → Nat → List Nat
  | 0, _ => []
  | k + 1, n => bigEndian k (n / 256) ++ [n % 256]

def ofBytes (bs : List Nat) : Nat := bs.foldl (fun n b => n * 256 + b) 0

def wordBase : Nat := 4294967296

def add (x y : Nat) : Nat := (x + y) % wordBase

def complement (x : Nat) : Nat := wordBase - 1 - x

def rotateLeft (k x : Nat) : Nat := (x * 2 ^ k) % wordBase + x / 2 ^ (32 - k)

def rotateRight (k x : Nat) : Nat := rotateLeft (32 - k) x

def padMessage (bs : List Nat) : List Nat :=
  bs ++ 0x80 :: List.replicate ((119 - bs.length % 64) % 64) 0 ++ bigEndian 8 (8 * bs.length)

def blocks : Nat → List Nat → List (List Nat)
  | 0, _ => []
  | k + 1, bs => words 16 bs :: blocks k (bs.drop 64)
where
  words : Nat → List Nat → List Nat
    | 0, _ => []
    | k + 1, bs => ofBytes (bs.take 4) :: words k (bs.drop 4)

/-- The message schedule grown to `k` further words, newest first. -/
def schedule (next : List Nat → Nat) : Nat → List Nat → List Nat
  | 0, ws => ws
  | k + 1, ws => schedule next k (next ws :: ws)

def choose (x y z : Nat) : Nat := (x &&& y) ^^^ (complement x &&& z)

def majority (x y z : Nat) : Nat := (x &&& y) ^^^ (x &&& z) ^^^ (y &&& z)

structure State256 where
  a : Nat
  b : Nat
  c : Nat
  d : Nat
  e : Nat
  f : Nat
  g : Nat
  h : Nat

def initial256 : State256 :=
  ⟨0x6a09e667, 0xbb67ae85, 0x3c6ef372, 0xa54ff53a, 0x510e527f, 0x9b05688c, 0x1f83d9ab, 0x5be0cd19⟩

def constants256 : List Nat :=
  [0x428a2f98, 0x71374491, 0xb5c0fbcf, 0xe9b5dba5, 0x3956c25b, 0x59f111f1, 0x923f82a4, 0xab1c5ed5,
   0xd807aa98, 0x12835b01, 0x243185be, 0x550c7dc3, 0x72be5d74, 0x80deb1fe, 0x9bdc06a7, 0xc19bf174,
   0xe49b69c1, 0xefbe4786, 0x0fc19dc6, 0x240ca1cc, 0x2de92c6f, 0x4a7484aa, 0x5cb0a9dc, 0x76f988da,
   0x983e5152, 0xa831c66d, 0xb00327c8, 0xbf597fc7, 0xc6e00bf3, 0xd5a79147, 0x06ca6351, 0x14292967,
   0x27b70a85, 0x2e1b2138, 0x4d2c6dfc, 0x53380d13, 0x650a7354, 0x766a0abb, 0x81c2c92e, 0x92722c85,
   0xa2bfe8a1, 0xa81a664b, 0xc24b8b70, 0xc76c51a3, 0xd192e819, 0xd6990624, 0xf40e3585, 0x106aa070,
   0x19a4c116, 0x1e376c08, 0x2748774c, 0x34b0bcb5, 0x391c0cb3, 0x4ed8aa4a, 0x5b9cca4f, 0x682e6ff3,
   0x748f82ee, 0x78a5636f, 0x84c87814, 0x8cc70208, 0x90befffa, 0xa4506ceb, 0xbef9a3f7, 0xc67178f2]

def nextWord256 (ws : List Nat) : Nat :=
  let x := ws.getD 14 0
  let y := ws.getD 1 0
  let s0 := rotateRight 7 x ^^^ rotateRight 18 x ^^^ (x / 2 ^ 3)
  let s1 := rotateRight 17 y ^^^ rotateRight 19 y ^^^ (y / 2 ^ 10)
  (ws.getD 15 0 + s0 + ws.getD 6 0 + s1) % wordBase

def round256 (s : State256) (kw : Nat × Nat) : State256 :=
  let t1 := (s.h + (rotateRight 6 s.e ^^^ rotateRight 11 s.e ^^^ rotateRight 25 s.e) +
    choose s.e s.f s.g + kw.1 + kw.2) % wordBase
  let t2 := ((rotateRight 2 s.a ^^^ rotateRight 13 s.a ^^^ rotateRight 22 s.a) +
    majority s.a s.b s.c) % wordBase
  ⟨add t1 t2, s.a, s.b, s.c, add s.d t1, s.e, s.f, s.g⟩

def compress256 (s : State256) (block : List Nat) : State256 :=
  let t := (constants256.zip (schedule nextWord256 48 block.reverse).reverse).foldl round256 s
  ⟨add s.a t.a, add s.b t.b, add s.c t.c, add s.d t.d, add s.e t.e, add s.f t.f, add s.g t.g,
    add s.h t.h⟩

def digest256 (bs : List Nat) : List Nat :=
  let m := padMessage bs
  let t := (blocks (m.length / 64) m).foldl compress256 initial256
  [t.a, t.b, t.c, t.d, t.e, t.f, t.g, t.h]

def hexdigest (ws : List Nat) : String := String.ofList (ws.flatMap (padded 16 8))

/-- `sha256(text.encode()).hexdigest()`. -/
def sha256 (s : String) : String := hexdigest (digest256 (encode s))

def hmacKey (key : List Nat) : List Nat :=
  let k := if 64 < key.length then (digest256 key).flatMap (bigEndian 4) else key
  k ++ List.replicate (64 - k.length) 0

/-- `hmac.new(key, text.encode(), sha256).hexdigest()`. -/
def hmacSha256 (key : List Nat) (s : String) : String :=
  let inner := digest256 ((hmacKey key).map (· ^^^ 0x36) ++ encode s)
  hexdigest (digest256 ((hmacKey key).map (· ^^^ 0x5c) ++ inner.flatMap (bigEndian 4)))

structure State160 where
  a : Nat
  b : Nat
  c : Nat
  d : Nat
  e : Nat

def initial160 : State160 := ⟨0x67452301, 0xefcdab89, 0x98badcfe, 0x10325476, 0xc3d2e1f0⟩

def nextWord160 (ws : List Nat) : Nat :=
  rotateLeft 1 (ws.getD 2 0 ^^^ ws.getD 7 0 ^^^ ws.getD 13 0 ^^^ ws.getD 15 0)

def round160 (s : State160) (iw : Nat × Nat) : State160 :=
  let fk : Nat × Nat :=
    if iw.1 < 20 then (choose s.b s.c s.d, 0x5a827999)
    else if iw.1 < 40 then (s.b ^^^ s.c ^^^ s.d, 0x6ed9eba1)
    else if iw.1 < 60 then (majority s.b s.c s.d, 0x8f1bbcdc)
    else (s.b ^^^ s.c ^^^ s.d, 0xca62c1d6)
  ⟨(rotateLeft 5 s.a + fk.1 + s.e + fk.2 + iw.2) % wordBase, s.a, rotateLeft 30 s.b, s.c, s.d⟩

def compress160 (s : State160) (block : List Nat) : State160 :=
  let t := ((List.range 80).zip (schedule nextWord160 64 block.reverse).reverse).foldl round160 s
  ⟨add s.a t.a, add s.b t.b, add s.c t.c, add s.d t.d, add s.e t.e⟩

def sha1Prefix (bs : List Nat) : Nat :=
  let m := padMessage bs
  let t := (blocks (m.length / 64) m).foldl compress160 initial160
  ((t.a * wordBase + t.b) * wordBase + t.c) * wordBase + t.d

example : sha256 "abc" = "ba7816bf8f01cfea414140de5dae2223b00361a396177a9cb410ff61f20015ad" := by
  decide +kernel

lemma sha256_digits (s : String) :
    (sha256 s).toList.length = 64 ∧ ∀ c ∈ (sha256 s).toList, ∃ d < 16, c = Nat.digitChar d := by
  simp only [sha256, hexdigest, String.toList_ofList]
  refine ⟨by simp [digest256, length_padded], ?_⟩
  intro c hc
  rw [List.mem_flatMap] at hc
  obtain ⟨w, -, hc⟩ := hc
  exact mem_padded (by decide) hc

end NhaTrangLaundry.Lib.Hashing

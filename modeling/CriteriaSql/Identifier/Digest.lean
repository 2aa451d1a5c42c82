import CriteriaSql.Bytes

/-!
# The 160-bit digest

The secure hash of 160 bits over a list of bytes: the message is filled up to blocks of sixteen words,
each block is stretched to eighty words, and each of these words turns the five words of the state.

* `digest`: the twenty bytes of the hash.
-/

namespace CriteriaSql.Identifier

/-- The five words that the hash carries from block to block. -/
structure DigestState where
  a : UInt32
  b : UInt32
  c : UInt32
  d : UInt32
  e : UInt32

namespace DigestState

def start : DigestState := ⟨0x67452301, 0xEFCDAB89, 0x98BADCFE, 0x10325476, 0xC3D2E1F0⟩

def add (s t : DigestState) : DigestState :=
  ⟨s.a + t.a, s.b + t.b, s.c + t.c, s.d + t.d, s.e + t.e⟩

def words (s : DigestState) : List UInt32 := [s.a, s.b, s.c, s.d, s.e]

end DigestState

/-- Turns a word to the left. -/
def turn (w n : UInt32) : UInt32 :=
  (w <<< n) ||| (w >>> (32 - n))

/-- The mixing function and constant of a round. -/
def roundParts (i : Nat) (s : DigestState) : UInt32 × UInt32 :=
  if i < 20 then ((s.b &&& s.c) ||| (~~~ s.b &&& s.d), 0x5A827999)
  else if i < 40 then (s.b ^^^ s.c ^^^ s.d, 0x6ED9EBA1)
  else if i < 60 then ((s.b &&& s.c) ||| (s.b &&& s.d) ||| (s.c &&& s.d), 0x8F1BBCDC)
  else (s.b ^^^ s.c ^^^ s.d, 0xCA62C1D6)

/-- One round with the next word of the block. -/
def round (s : DigestState) (step : Nat × UInt32) : DigestState :=
  let (f, k) := roundParts step.1 s
  ⟨turn s.a 5 + f + s.e + k + step.2, s.a, turn s.b 30, s.c, s.d⟩

/-- `n` more words after those of a block, each from four before it. -/
def stretch : Nat → Array UInt32 → Array UInt32
  | 0, ws => ws
  | n + 1, ws =>
    let back (i : Nat) := ws.getD (ws.size - i) 0
    stretch n (ws.push (turn (back 3 ^^^ back 8 ^^^ back 14 ^^^ back 16) 1))

/-- Takes one block into the state. -/
def absorb (s : DigestState) (block : List UInt32) : DigestState :=
  let ws := (stretch 64 block.toArray).toList
  s.add ((ws.zipIdx.map fun (w, i) => (i, w)).foldl round s)

/-- Big-endian words of bytes. -/
def wordsOf : Bytes → List UInt32
  | a :: b :: c :: d :: rest =>
    (a.toUInt32 <<< 24 ||| b.toUInt32 <<< 16 ||| c.toUInt32 <<< 8 ||| d.toUInt32) :: wordsOf rest
  | _ => []

/-- A message filled up to whole blocks: a marker bit, zeros, and the length in bits. -/
def padded (bytes : Bytes) : Bytes :=
  let zeros := (119 - bytes.length % 64) % 64
  bytes ++ 0x80 :: (List.replicate zeros 0 ++ Bytes.bigEndian 8 (8 * bytes.length))

/-- The blocks of `n` words of a list. -/
def blocks (fuel n : Nat) (ws : List UInt32) : List (List UInt32) :=
  match fuel, ws with
  | 0, _ | _, [] => []
  | fuel + 1, ws => ws.take n :: blocks fuel n (ws.drop n)

/-- The hash of a message. -/
def digest (bytes : Bytes) : Bytes :=
  let ws := wordsOf (padded bytes)
  ((blocks ws.length 16 ws).foldl absorb DigestState.start).words.flatMap
    fun w => Bytes.bigEndian 4 w.toNat

end CriteriaSql.Identifier

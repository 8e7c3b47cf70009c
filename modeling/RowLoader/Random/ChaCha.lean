import RowLoader.Random.Words

/-!
# The ChaCha keystream

ChaCha with twelve rounds as a source of words: a key of eight words, a block counter of 64 bits from zero, no nonce.
`Keystream.ofSeed` spreads a seed of 64 bits over the key.
-/

namespace RowLoader.Random

abbrev Block := Vector UInt32 16

/-! ### rounds -/

def rotateLeft (x : UInt32) (n : UInt32) : UInt32 := (x <<< n) ||| (x >>> (32 - n))

def quarterRound (x : Block) (a b c d : Fin 16) : Block :=
  let x := x.set a (x[a] + x[b])
  let x := x.set d (rotateLeft (x[d] ^^^ x[a]) 16)
  let x := x.set c (x[c] + x[d])
  let x := x.set b (rotateLeft (x[b] ^^^ x[c]) 12)
  let x := x.set a (x[a] + x[b])
  let x := x.set d (rotateLeft (x[d] ^^^ x[a]) 8)
  let x := x.set c (x[c] + x[d])
  x.set b (rotateLeft (x[b] ^^^ x[c]) 7)

def columnRound (x : Block) : Block :=
  let x := quarterRound x 0 4 8 12
  let x := quarterRound x 1 5 9 13
  let x := quarterRound x 2 6 10 14
  quarterRound x 3 7 11 15

def diagonalRound (x : Block) : Block :=
  let x := quarterRound x 0 5 10 15
  let x := quarterRound x 1 6 11 12
  let x := quarterRound x 2 7 8 13
  quarterRound x 3 4 9 14

def doubleRounds : Nat → Block → Block
  | 0, x => x
  | n + 1, x => doubleRounds n (diagonalRound (columnRound x))

/-! ### blocks -/

abbrev Key := Vector UInt32 8

/-- The constants, the key, the counter with its low half first, and two words of zero. -/
def initialBlock (key : Key) (counter : UInt64) : Block :=
  (#v[0x61707865, 0x3320646e, 0x79622d32, 0x6b206574] : Vector UInt32 4) ++ key ++
    (#v[counter.toUInt32, (counter >>> 32).toUInt32, 0, 0] : Vector UInt32 4)

def block (key : Key) (counter : UInt64) : Block :=
  let start := initialBlock key counter
  Vector.zipWith (· + ·) (doubleRounds 6 start) start

/-! ### the stream -/

/-- What is left of the current block, and the counter of the next one. -/
structure Keystream where
  key : Key
  counter : UInt64
  pending : List UInt32

def Keystream.next (s : Keystream) : UInt32 × Keystream :=
  match s.pending with
  | w :: rest => (w, { s with pending := rest })
  | [] =>
    let words := block s.key s.counter
    (words[0], { s with counter := s.counter + 1, pending := words.toList.tail })

instance : WordSource Keystream := ⟨Keystream.next⟩

/-! ### seeds -/

/-- One step of the congruential sequence that spreads a seed. -/
def spread (s : UInt64) : UInt64 := s * 6364136223846793005 + 11634580027462260723

/-- A word of the key, from a state of the sequence. -/
def keyWord (s : UInt64) : UInt32 :=
  let x := (((s >>> 18) ^^^ s) >>> 27).toUInt32
  let r := (s >>> 59).toUInt32
  (x >>> r) ||| (x <<< (32 - r))

def keyWords : Nat → UInt64 → List UInt32
  | 0, _ => []
  | n + 1, s => keyWord (spread s) :: keyWords n (spread s)

theorem length_keyWords (n : Nat) (s : UInt64) : (keyWords n s).length = n := by
  induction n generalizing s with
  | zero => rfl
  | succ n ih => simp [keyWords, ih]

def Keystream.ofSeed (seed : UInt64) : Keystream :=
  ⟨⟨(keyWords 8 seed).toArray, by simp [length_keyWords]⟩, 0, []⟩

end RowLoader.Random

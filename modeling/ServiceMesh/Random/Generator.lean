/-!
# A seeded generator of words

The words of a generator are the key stream of a block cipher in counter mode: each block of sixteen
words mixes four constants, eight key words and the number of the block in twelve rounds.  The key
comes from a seed of 64 bits by a congruential generator whose output is permuted.  A generator is
its key and a position in the stream.
-/

namespace ServiceMesh.Random

/-- A generator of words. -/
structure Generator where
  /-- The eight words of the key. -/
  key : List UInt32
  /-- How many words have been drawn. -/
  position : Nat
  deriving DecidableEq, Repr, Inhabited

/-- A word with its bits moved up, those that fall out coming in below. -/
def rotateLeft (word : UInt32) (distance : UInt32) : UInt32 :=
  (word <<< distance) ||| (word >>> (32 - distance))

/-- A word with its bits moved down, those that fall out coming in above. -/
def rotateRight (word : UInt32) (distance : UInt32) : UInt32 :=
  if distance = 0 then word else (word >>> distance) ||| (word <<< (32 - distance))

/-- One step of the congruential generator. -/
def advanceSeed (state : UInt64) : UInt64 := state * 6364136223846793005 + 11634580027462260723

/-- The word that a state of the congruential generator gives. -/
def permute (state : UInt64) : UInt32 :=
  rotateRight ((((state >>> 18) ^^^ state) >>> 27).toUInt32) (state >>> 59).toUInt32

/-- The next words of the congruential generator. -/
def seedWords : (count : Nat) → UInt64 → List UInt32
  | 0, _ => []
  | count + 1, state =>
    let state := advanceSeed state
    permute state :: seedWords count state

/-- The generator of a seed. -/
def Generator.ofSeed (seed : UInt64) : Generator := ⟨seedWords 8 seed, 0⟩

/-- Mixes four words. -/
def quarter (a b c d : UInt32) : UInt32 × UInt32 × UInt32 × UInt32 :=
  let a := a + b
  let d := rotateLeft (d ^^^ a) 16
  let c := c + d
  let b := rotateLeft (b ^^^ c) 12
  let a := a + b
  let d := rotateLeft (d ^^^ a) 8
  let c := c + d
  let b := rotateLeft (b ^^^ c) 7
  (a, b, c, d)

/-- Mixes the words at four places of a block. -/
def mixAt (block : Array UInt32) (i j k l : Nat) : Array UInt32 :=
  let (a, b, c, d) :=
    quarter (block.getD i 0) (block.getD j 0) (block.getD k 0) (block.getD l 0)
  (((block.setIfInBounds i a).setIfInBounds j b).setIfInBounds k c).setIfInBounds l d

/-- Two rounds: the four columns, then the four diagonals. -/
def doubleRound (block : Array UInt32) : Array UInt32 :=
  let block := mixAt block 0 4 8 12
  let block := mixAt block 1 5 9 13
  let block := mixAt block 2 6 10 14
  let block := mixAt block 3 7 11 15
  let block := mixAt block 0 5 10 15
  let block := mixAt block 1 6 11 12
  let block := mixAt block 2 7 8 13
  mixAt block 3 4 9 14

/-- Repeats the pair of rounds. -/
def rounds : (pairs : Nat) → Array UInt32 → Array UInt32
  | 0, block => block
  | pairs + 1, block => rounds pairs (doubleRound block)

/-- The block with a given number. -/
def block (key : List UInt32) (number : Nat) : Array UInt32 :=
  let input : Array UInt32 :=
    ([0x61707865, 0x3320646E, 0x79622D32, 0x6B206574] ++ key ++
      [UInt32.ofNat number, UInt32.ofNat (number / 0x100000000), 0, 0]).toArray
  let mixed := rounds 6 input
  input.zipWith (· + ·) mixed

/-- The word at a position of the stream. -/
def wordAt (key : List UInt32) (position : Nat) : UInt32 :=
  (block key (position / 16)).getD (position % 16) 0

/-- Draws a word of 64 bits, its lower half first. -/
def Generator.next (generator : Generator) : UInt64 × Generator :=
  let low := wordAt generator.key generator.position
  let high := wordAt generator.key (generator.position + 1)
  (low.toUInt64 ||| (high.toUInt64 <<< 32), { generator with position := generator.position + 2 })

/-- The double in the unit interval that the upper 52 bits of a word give. -/
def unitFloat (word : UInt64) : Float :=
  Float.ofBits ((word >>> 12) ||| 0x3FF0000000000000) - 1.0

/-- Draws until the result lies below the limit, at most `turns` times. -/
def Generator.drawBelow (limit : Float) : (turns : Nat) → Generator → Float × Generator
  | 0, generator => (0.0, generator)
  | turns + 1, generator =>
    let (word, generator) := generator.next
    let result := unitFloat word * limit
    if result < limit then (result, generator) else drawBelow limit turns generator

/-- Draws a double from zero up to below a positive limit.  Only rounding can make a draw reach the
limit, so that a second one is hardly ever needed. -/
def Generator.below (generator : Generator) (limit : Float) : Float × Generator :=
  generator.drawBelow limit 64

end ServiceMesh.Random

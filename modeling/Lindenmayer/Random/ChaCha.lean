import Lindenmayer.Random.Source

/-!
# The random stream of a seed

Renders draw their choices from a ChaCha stream of eight rounds with a 64-bit
block counter. A 64-bit seed is stretched to the 256-bit key by a permuted
congruential generator, so that neighbouring seeds give unrelated streams.
-/

namespace Lindenmayer.ChaCha

/-- Sixteen words: four constants, eight words of key, two of counter and two of nonce. -/
abbrev State := Vector UInt32 16

/-- The first word turned to the right by an amount below the word size. -/
def rotateRight (word amount : UInt32) : UInt32 :=
  word >>> amount ||| word <<< ((32 - amount) % 32)

/-- The first word turned to the left by an amount between one and the word size less one. -/
def rotateLeft (word amount : UInt32) : UInt32 :=
  word <<< amount ||| word >>> (32 - amount)

def quarterRound (state : State) (a b c d : Fin 16) : State :=
  let state := state.set a (state[a] + state[b])
  let state := state.set d (rotateLeft (state[d] ^^^ state[a]) 16)
  let state := state.set c (state[c] + state[d])
  let state := state.set b (rotateLeft (state[b] ^^^ state[c]) 12)
  let state := state.set a (state[a] + state[b])
  let state := state.set d (rotateLeft (state[d] ^^^ state[a]) 8)
  let state := state.set c (state[c] + state[d])
  state.set b (rotateLeft (state[b] ^^^ state[c]) 7)

/-- Mixes the four columns and then the four diagonals. -/
def doubleRound (state : State) : State :=
  let state := quarterRound state 0 4 8 12
  let state := quarterRound state 1 5 9 13
  let state := quarterRound state 2 6 10 14
  let state := quarterRound state 3 7 11 15
  let state := quarterRound state 0 5 10 15
  let state := quarterRound state 1 6 11 12
  let state := quarterRound state 2 7 8 13
  quarterRound state 3 4 9 14

abbrev Key := Vector UInt32 8

def initialState (key : Key) (counter : UInt64) : State :=
  let constants : Vector UInt32 4 := #v[0x61707865, 0x3320646e, 0x79622d32, 0x6b206574]
  let position : Vector UInt32 4 := #v[counter.toUInt32, (counter >>> 32).toUInt32, 0, 0]
  constants ++ key ++ position

/-- One block of the stream: the initial state added to itself after eight rounds. -/
def block (key : Key) (counter : UInt64) : State :=
  let initial := initialState key counter
  let mixed := doubleRound (doubleRound (doubleRound (doubleRound initial)))
  Vector.zipWith (· + ·) mixed initial

structure Stream where
  key : Key
  /-- Number of the block that follows the words already computed. -/
  counter : UInt64
  /-- Words computed and not yet delivered. -/
  pending : List UInt32

def Stream.ofKey (key : Key) : Stream := ⟨key, 0, []⟩

/-- The next word of the stream, computing a further block when none is pending. -/
def Stream.next (stream : Stream) : UInt32 × Stream :=
  match stream.pending with
  | word :: pending => (word, { stream with pending })
  | [] =>
    let words := block stream.key stream.counter
    (words[0], { stream with counter := stream.counter + 1, pending := words.toList.tail })

instance : RandomSource Stream := ⟨Stream.next⟩

/-- Advances the generator that stretches seeds. -/
def stretchStep (state : UInt64) : UInt64 :=
  state * 6364136223846793005 + 11634580027462260723

def stretchWord (state : UInt64) : UInt32 :=
  rotateRight ((((state >>> 18) ^^^ state) >>> 27).toUInt32) ((state >>> 59).toUInt32)

/-- The key that a seed stands for: eight successive words of the stretching generator. -/
def keyOfSeed (seed : UInt64) : Key :=
  Vector.ofFn fun place => stretchWord (Nat.repeat stretchStep (place + 1) seed)

def Stream.ofSeed (seed : UInt64) : Stream :=
  .ofKey (keyOfSeed seed)

end Lindenmayer.ChaCha

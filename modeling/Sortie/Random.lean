import Sortie.Scalar

namespace Sortie

/-- A random number generator, a linear congruence on 64 bits: its state, and its increment, which
is odd. -/
structure Random where
  state : UInt64
  increment : UInt64
  deriving DecidableEq, Repr

namespace Random

def multiplier : UInt64 := 6364136223846793005

/-- The increment of the generator that spreads a seed. -/
def seedIncrement : UInt64 := 11634580027462260723

/-- The word that a state gives out. -/
def output (state : UInt64) : UInt32 :=
  let mixed := (((state >>> 18) ^^^ state) >>> 27).toUInt32
  let rotation := (state >>> 59).toUInt32
  (mixed >>> rotation) ||| (mixed <<< ((32 - rotation) % 32))

def step (random : Random) : Random :=
  { random with state := random.state * multiplier + random.increment }

/-- The next word. -/
def next (random : Random) : UInt32 × Random := (output random.state, random.step)

/-- The states that spread a seed, one for each word. -/
def seedStates (seed : UInt64) (count : Nat) : List UInt64 :=
  match count with
  | 0 => []
  | count + 1 =>
    let state := seed * multiplier + seedIncrement
    state :: seedStates state count

/-- The generator of a seed: four words of it give state and increment. -/
def ofSeed (seed : UInt64) : Random :=
  let join (low high : UInt32) : UInt64 := low.toUInt64 ||| (high.toUInt64 <<< 32)
  match (seedStates seed 4).map output with
  | [a, b, c, d] =>
    let increment := join c d ||| 1
    step ⟨join a b + increment, increment⟩
  | _ => ⟨seed, 1⟩

/-- A number from minus one up to but not including one. -/
def signedUnit (random : Random) : Scalar × Random :=
  let (word, random) := random.next
  let fraction := Float32.ofBits ((word >>> 9) ||| 0x3f800000) - 1
  (fraction * 2 + (-1), random)

end Random

end Sortie

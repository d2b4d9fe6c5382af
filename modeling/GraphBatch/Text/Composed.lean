import GraphBatch.Text.CombiningClass
import GraphBatch.Text.Composite
import GraphBatch.Text.Replacement

/-!
# Composed text

One text can be written with composites or with their parts, and its marks in
different orders. In composed text marks stand in ascending order of class, and
every composite stands for its parts. To compose a text, it is taken apart, its
marks are put in order, and its pairs are joined.
-/

namespace GraphBatch.Text

/-- The first syllable of Hangul. Syllables are in order of their initial letters,
vowels and final letters. -/
def firstSyllable : Nat := 0xAC00

/-- The first of the letters that start a syllable. -/
def firstInitial : Nat := 0x1100

def firstVowel : Nat := 0x1161

/-- The code point before the letters that end a syllable. -/
def beforeFinals : Nat := 0x11A7

/-- A syllable of Hangul as the pair that it stands for: a syllable without a final
letter is an initial letter and a vowel. -/
def syllableParts? (code : Nat) : Option (Nat × Nat) :=
  if firstSyllable ≤ code ∧ code < firstSyllable + 19 * 21 * 28 then
    let index := code - firstSyllable
    if index % 28 = 0 then some (firstInitial + index / 588, firstVowel + index % 588 / 28)
    else some (code - index % 28, beforeFinals + index % 28)
  else none

def syllable? (first second : Nat) : Option Nat :=
  if firstInitial ≤ first ∧ first < firstInitial + 19
      ∧ firstVowel ≤ second ∧ second < firstVowel + 21 then
    some (firstSyllable + ((first - firstInitial) * 21 + (second - firstVowel)) * 28)
  else if (syllableParts? first).isSome ∧ (first - firstSyllable) % 28 = 0
      ∧ beforeFinals < second ∧ second < beforeFinals + 28 then
    some (first + (second - beforeFinals))
  else none

/-- The pair that a composite stands for. -/
def parts? (code : Nat) : Option (Nat × Nat) :=
  (syllableParts? code).orElse fun _ =>
    (composites.findSome? fun rows => rows.find? (·.1 = code)).map (·.2)

def composite? (first second : Nat) : Option Nat :=
  (syllable? first second).orElse fun _ =>
    (composites.findSome? fun rows => rows.find? (·.2 = (first, second))).map (·.1)

def replacement? (code : Nat) : Option (List Nat) :=
  (replacements.findSome? fun rows => rows.find? (·.1 = code)).map (·.2)

/-- A code point taken apart. The first part of a composite may be a composite too,
and this goes on for a number of steps at most. -/
def takenApart : Nat → Nat → List Nat
  | 0, code => [code]
  | steps + 1, code =>
      match parts? code with
      | some (first, second) => takenApart steps first ++ [second]
      | none => (replacement? code).getD [code]

abbrev Classed := Nat × Nat

/-- Puts a code point in front of others, but after the marks that come before it. -/
def insertMark (mark : Classed) : List Classed → List Classed
  | [] => [mark]
  | next :: rest =>
      if 0 < next.1 ∧ next.1 < mark.1 then next :: insertMark mark rest
      else mark :: next :: rest

/-- Puts the marks after each letter in order. Marks of one class keep theirs. -/
def ordered (codes : List Classed) : List Classed :=
  codes.foldr insertMark []

/-- Joins a letter and what follows it. A mark is joined past others of lower
classes, which are held nearest first. -/
def joinFrom (letter : Nat) (passed : List Classed) : List Classed → List Nat
  | [] => letter :: passed.reverse.map (·.2)
  | (markClass, code) :: rest =>
      let isFree := passed.head?.all fun last => last.1 < markClass
      match if isFree then composite? letter code else none with
      | some composite => joinFrom composite passed rest
      | none =>
          if markClass = 0 then letter :: passed.reverse.map (·.2) ++ joinFrom code [] rest
          else joinFrom letter ((markClass, code) :: passed) rest

/-- Joins ordered code points. Marks without a letter are kept. -/
def joined : List Classed → List Nat
  | [] => []
  | (markClass, code) :: rest =>
      if markClass = 0 then joinFrom code [] rest else code :: joined rest

/-- The composed form of code points. No composite has more than four parts. -/
def composedCodes (codes : List Nat) : List Nat :=
  joined (ordered ((codes.flatMap (takenApart 4)).map fun code => (combiningClass code, code)))

def composed (chars : List Char) : List Char :=
  (composedCodes (chars.map Char.toNat)).map Char.ofNat

end GraphBatch.Text

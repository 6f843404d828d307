/-!
# Similar texts

How alike two texts are, and which of some texts is most like a given one. A word
that was mistyped is alike to the word that was meant: most of its characters
stand near the places where they belong.

The outer layer needs this for the suggestions in its complaints.
-/

set_option autoImplicit false

namespace ByteMachine

namespace Similarity

/-- The characters of the first text that have a match in the second, and the
characters of the second that were matched, each in their order. Characters match
if they are equal and their positions differ by at most `reach`; each is matched
at most once, and with the first that is free. -/
def matching (reach : Nat) (first second : List Char) : List Char × List Char :=
  let (left, taken) := first.zipIdx.foldl
    (fun (left, taken) (char, index) =>
      match second.zipIdx.find? (fun (other, position) =>
          other == char && index ≤ position + reach && position ≤ index + reach
            && !taken.contains position) with
      | some (_, position) => (left ++ [char], position :: taken)
      | none => (left, taken))
    (([], []) : List Char × List Nat)
  (left, (second.zipIdx.filter (fun (_, position) => taken.contains position)).map Prod.fst)

/-- The similarity of two texts, between 0 and 1. With `m` matching characters of
which `t` pairs are out of order, it is the mean of `m` over the first length, `m`
over the second, and `m - t` over `m`. Characters match within half the greater
length, less one. -/
def score (first second : String) : Float :=
  let reach := max first.length second.length / 2 - 1
  let (left, right) := matching reach first.toList second.toList
  let matched := left.length
  let outOfOrder := ((left.zip right).filter (fun (a, b) => a != b)).length / 2
  if matched = 0 then 0
  else
    (matched.toFloat / first.length.toFloat + matched.toFloat / second.length.toFloat
      + (matched - outOfOrder).toFloat / matched.toFloat) / 3

/-- The text most similar to the given one among those whose similarity exceeds
seven tenths; of equally similar ones the last. -/
def closest? (text : String) (candidates : List String) : Option String :=
  let scored := (candidates.map fun candidate => (candidate, score text candidate)).filter
    fun (_, score) => 0.7 < score
  (scored.foldl
    (fun (best : Option (String × Float)) (candidate : String × Float) =>
      match best with
      | none => some candidate
      | some other => if other.2 ≤ candidate.2 then some candidate else best)
    none).map Prod.fst

end Similarity

end ByteMachine

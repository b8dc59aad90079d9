import EpicFlow.Text.Basic

/-!
# How alike two words are

A mistyped word on the command line is answered with the known words that
are alike to it. Likeness is the Jaro similarity, a number between 0 and 1:
two characters match when they are equal and no further apart than half the
longer word, less one; the similarity averages the share of matched
characters in each word and the share of matches that stand in the same
order. Words count as alike above 0.7, and the alike words are listed from
the least to the most alike.

Main statements:

* `alike_subset`: every word offered is one of the known words.
-/

set_option autoImplicit false

namespace EpicFlow.Text

/-- Match the characters of a word against another word: each one takes the
first unmatched equal character within `range` of its position. The answer
is which characters of the other word were taken, and the matched
characters of the word in their order. -/
def matchWithin (other : Array Char) (range : Nat) (taken : Array Bool) (found : List Char) :
    List (Nat × Char) → Array Bool × List Char
  | [] => (taken, found)
  | (i, c) :: rest =>
    let lo := i - range
    let hi := min other.size (i + range + 1)
    match (List.range' lo (hi - lo)).find? (fun j => other.getD j ' ' == c && !taken.getD j true) with
    | some j => matchWithin other range (taken.set! j true) (found ++ [c]) rest
    | none => matchWithin other range taken found rest

/-- The Jaro similarity of two words. -/
def jaro (a b : String) : Float :=
  let as := a.toList
  let bs := b.toList
  if as.isEmpty && bs.isEmpty then 1.0
  else if as.isEmpty || bs.isEmpty then 0.0
  else
    let range := max as.length bs.length / 2 - 1
    let other := bs.toArray
    let indexed := as.zipIdx.map fun (c, i) => (i, c)
    let (taken, fromA) := matchWithin other range (Array.replicate bs.length false) [] indexed
    let fromB := (bs.zip taken.toList).filterMap fun (c, t) => if t then some c else none
    let m := fromA.length
    let t := ((fromA.zip fromB).filter fun (x, y) => x != y).length / 2
    if m == 0 then 0.0
    else (m.toFloat / as.length.toFloat + m.toFloat / bs.length.toFloat +
      (m - t).toFloat / m.toFloat) / 3.0

/-- Order two scored words: by score, then by the word. -/
def scoredBefore (x y : Float × String) : Bool := x.1 < y.1 || (x.1 == y.1 && decide (x.2 ≤ y.2))

/-- The known words alike to a word, from the least to the most alike. -/
def alike (word : String) (known : List String) : List String :=
  let scored := (known.map fun k => (jaro word k, k)).filter fun (s, _) => s > 0.7
  (scored.mergeSort scoredBefore).map (·.2)

theorem alike_subset (word : String) (known : List String) (x : String) (h : x ∈ alike word known) :
    x ∈ known := by
  simp only [alike, List.mem_map] at h
  obtain ⟨⟨s, k⟩, hm, rfl⟩ := h
  have hm' := (List.mem_mergeSort).mp hm
  simp only [List.mem_filter, List.mem_map] at hm'
  obtain ⟨⟨k', hk', he⟩, _⟩ := hm'
  simp only [Prod.mk.injEq] at he
  rw [← he.2]
  exact hk'

end EpicFlow.Text

import LinProg.Sort.Merge

set_option autoImplicit false

/-!
Sorting by runs: a list is cut into stretches that are in order, which are then merged with their neighbours
so that lists of about the same length meet. The comparison need not be an order; the result is then the one
to which these comparisons lead.
-/
namespace LinProg.Sort

variable {α : Type}

def initialRun (less : α → α → Bool) : List α → List α × List α
  | [] => ([], [])
  | [x] => ([x], [])
  | x :: y :: rest =>
    if less y x then
      let (run, after) := descend y rest
      (run.reverse ++ [x], after)
    else
      let (run, after) := ascend y rest
      (x :: run, after)
where
  descend (last : α) : List α → List α × List α
    | [] => ([last], [])
    | y :: rest =>
      if less y last then
        let (run, after) := descend y rest
        (last :: run, after)
      else ([last], y :: rest)
  ascend (last : α) : List α → List α × List α
    | [] => ([last], [])
    | y :: rest =>
      if less y last then ([last], y :: rest)
      else
        let (run, after) := ascend y rest
        (last :: run, after)

def insertSorted (less : α → α → Bool) (sorted : List α) (x : α) : List α :=
  let place := bisect (fun y => !less x y) sorted 0 sorted.length
  sorted.take place ++ x :: sorted.drop place

def nextRun (less : α → α → Bool) (least : Nat) (items : List α) : List α × List α :=
  let (run, rest) := initialRun less items
  let missing := least - run.length
  ((rest.take missing).foldl (insertSorted less) run, rest.drop missing)

def runsOf (less : α → α → Bool) (least : Nat) : Nat → List α → List (List α)
  | 0, _ | _, [] => []
  | fuel + 1, items =>
    let (run, rest) := nextRun less least items
    run :: runsOf less least fuel rest

-- The size of a list, halved until it is below 64; one more if that lost anything.
def leastRun (size lost : Nat) : Nat :=
  if size < 64 then size + lost else leastRun (size / 2) (max lost (size % 2))
termination_by size

-- How often the whole is halved until two places come to lie in different halves of a part. The places are
-- given in the same measure as the whole, which sets the fuel too.
def halvings (total : Nat) : Nat → Nat → Nat → Nat
  | 0, _, _ => 0
  | fuel + 1, first, second =>
    if total ≤ first then 1 + halvings total fuel (2 * (first - total)) (2 * (second - total))
    else if total ≤ second then 1
    else 1 + halvings total fuel (2 * first) (2 * second)

structure Waiting (α : Type) where
  run : List α
  depth : Nat

-- Merges the current run with those before it whose boundaries lie deeper than the one after it.
def settle (less : α → α → Bool) (depth : Nat) :
    Nat → List α → List (Waiting α) → Nat × List α × List (Waiting α)
  | patience, current, [] => (patience, current, [])
  | patience, current, before :: rest =>
    if depth < before.depth then
      let (merged, patience) := merge less patience before.run current
      settle less depth patience merged rest
    else (patience, current, before :: rest)

-- Merges all runs, of three neighbours the first two if the third is longer than the first.
def collapse (less : α → α → Bool) (patience : Nat) (current : List α) : List (List α) → List α
  | [] => current
  | [before] => (merge less patience before current).1
  | before :: first :: rest =>
    if first.length < current.length then
      let (merged, patience) := merge less patience first before
      collapse less patience current (merged :: rest)
    else
      let (merged, patience) := merge less patience before current
      collapse less patience merged (first :: rest)
termination_by waiting => waiting.length

def mergeRuns (less : α → α → Bool) (total : Nat) :
    Nat → Nat → List α → List (Waiting α) → List (List α) → List α
  | patience, _, current, waiting, [] => collapse less patience current (waiting.map (·.run))
  | patience, start, current, waiting, next :: rest =>
    let middle := 2 * start + current.length
    let depth := halvings total total middle (middle + current.length + next.length)
    let (patience, settled, before) := settle less depth patience current waiting
    mergeRuns less total patience (start + current.length) next (⟨settled, depth⟩ :: before) rest

def byRuns (less : α → α → Bool) (items : List α) : List α :=
  match runsOf less (leastRun items.length 0) items.length items with
  | [] => []
  | run :: rest => mergeRuns less items.length usualPatience 0 run [] rest

end LinProg.Sort

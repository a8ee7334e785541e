set_option autoImplicit false

namespace LinProg.Sort

variable {α : Type}

def bisect (below : α → Bool) (items : List α) (low high : Nat) : Nat :=
  if low < high then
    let middle := low + (high - low) / 2
    if (items[middle]?).any below then bisect below items (middle + 1) high else bisect below items low middle
  else high
termination_by high - low

def stride (passes : Nat → Bool) (limit last next : Nat) : Nat × Nat :=
  if next < limit then
    if passes next then stride passes limit next (2 * next + 1) else (last, next)
  else (last, limit)
termination_by limit - next

-- A place before which the test holds and at which it fails, looked for from `hint` on in the direction in
-- which it lies.
def gallop (below : α → Bool) (items : List α) (hint : Nat) : Nat :=
  let isBelow (i : Nat) : Bool := (items[i]?).any below
  if isBelow hint then
    let (last, next) := stride (fun distance => isBelow (hint + distance)) (items.length - hint) 0 1
    bisect below items (hint + last + 1) (hint + next)
  else
    let (last, next) := stride (fun distance => !isBelow (hint - distance)) (hint + 1) 0 1
    bisect below items (hint + 1 - next) (hint - last)

variable {α : Type}

-- How the heads of two lists compare, of which the short one keeps its last item to the end.
structure Rule (α : Type) where
  longFirst : α → α → Bool
  shortAhead : List α → α → Nat
  longAhead : List α → α → Nat
  shortLeads : Bool

structure Weave (α : Type) where
  merged : List α
  short : List α
  long : List α
  patience : Nat

namespace Weave

def takeShort (w : Weave α) (count : Nat) : Weave α :=
  { w with merged := w.merged ++ w.short.take count, short := w.short.drop count }

def takeLong (w : Weave α) (count : Nat) : Weave α :=
  { w with merged := w.merged ++ w.long.take count, long := w.long.drop count }

def heads? (w : Weave α) : Option (α × α) :=
  match w.short, w.long with
  | x :: _ :: _, y :: _ => some (x, y)
  | _, _ => none

def finished (w : Weave α) : List α :=
  match w.short with
  | [x] => w.merged ++ w.long ++ [x]
  | short => w.merged ++ short ++ w.long

def leapShort (rule : Rule α) (w : Weave α) : Nat × Weave α :=
  match w.heads? with
  | none => (0, w)
  | some (_, y) =>
    let count := rule.shortAhead w.short y
    let next := w.takeShort count
    (count, if next.heads?.isSome then next.takeLong 1 else next)

def leapLong (rule : Rule α) (w : Weave α) : Nat × Weave α :=
  match w.heads? with
  | none => (0, w)
  | some (x, _) =>
    let count := rule.longAhead w.long x
    let next := w.takeLong count
    (count, if next.heads?.isSome then next.takeShort 1 else next)

def leap (rule : Rule α) (w : Weave α) : Nat × Weave α :=
  let (first, w) := if rule.shortLeads then w.leapShort rule else w.leapLong rule
  let (second, w) := if rule.shortLeads then w.leapLong rule else w.leapShort rule
  (max first second, w)

end Weave

-- How long a stretch must be for the search to have paid, and the patience at first.
def usualPatience : Nat := 7

-- What a merge does next: compare heads, with the number of times that each list has just been ahead, or
-- look for stretches.
inductive Pace where
  | step (shortWins longWins : Nat)
  | leap

-- Goes on until there is nothing left to compare; each round takes an item at least.
def weave (rule : Rule α) : Nat → Pace → Weave α → Weave α
  | 0, _, w => w
  | fuel + 1, pace, w =>
    match w.heads?, pace with
    | none, _ => w
    | some (x, y), .step shortWins longWins =>
      if rule.longFirst x y then
        weave rule fuel (if w.patience ≤ longWins + 1 then .leap else .step 0 (longWins + 1)) (w.takeLong 1)
      else
        weave rule fuel (if w.patience ≤ shortWins + 1 then .leap else .step (shortWins + 1) 0) (w.takeShort 1)
    | some _, .leap =>
      let (longest, next) := w.leap rule
      if next.heads?.isNone then next
      else if usualPatience ≤ longest then weave rule fuel .leap { next with patience := max 1 (next.patience - 1) }
      else weave rule fuel (.step 0 0) { next with patience := next.patience + 1 }

def forward (less : α → α → Bool) : Rule α where
  longFirst x y := less y x
  shortAhead short y := gallop (fun x => !less y x) short 0
  longAhead long x := gallop (fun y => less y x) long 0
  shortLeads := true

def backward (less : α → α → Bool) : Rule α where
  longFirst x y := less x y
  shortAhead short y := short.length - gallop (fun x => less x y) short.reverse (short.length - 1)
  longAhead long x := long.length - gallop (fun y => !less x y) long.reverse (long.length - 1)
  shortLeads := false

def weaveAll (rule : Rule α) (patience : Nat) (short long : List α) : List α × Nat :=
  let start : Weave α := ⟨[], short, long, patience⟩
  let w := weave rule (short.length + long.length) (.step 0 0) (start.takeLong 1)
  (w.finished, w.patience)

-- Merges two sorted lists, the first before the second where neither is ahead. Items that are in their place
-- already are left out of it.
def merge (less : α → α → Bool) (patience : Nat) (first second : List α) : List α × Nat :=
  match second.head? with
  | none => (first, patience)
  | some head =>
    let kept := gallop (fun x => !less head x) first 0
    match first.getLast?, first.drop kept with
    | some last, x :: rest =>
      let moved := gallop (fun y => less y last) second (second.length - 1)
      let (merged, patience) :=
        if moved = 0 then (x :: rest, patience)
        else if rest.length + 1 ≤ moved then weaveAll (forward less) patience (x :: rest) (second.take moved)
        else
          let (merged, patience) :=
            weaveAll (backward less) patience (second.take moved).reverse (x :: rest).reverse
          (merged.reverse, patience)
      (first.take kept ++ merged ++ second.drop moved, patience)
    | _, _ => (first ++ second, patience)

end LinProg.Sort

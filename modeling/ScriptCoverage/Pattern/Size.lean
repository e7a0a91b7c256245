import ScriptCoverage.Pattern.Tree

/-!
How much room a pattern takes as an automaton over bytes, by which patterns that are too large are refused.
A state takes thirty-two bytes, a transition eight, an alternative four. The automaton is counted twice: in
the direction of the text, with groups, and against it, without.
-/

namespace ScriptCoverage.Pattern

open Unicode (CodeSet)

/-! ### Characters as bytes -/

/-- First and last byte at one place of a sequence. -/
abbrev ByteRange := Nat × Nat

/-- The bytes of a code point in UTF-8. -/
def bytesOf (c : Nat) : List Nat :=
  if c < 0x80 then [c]
  else if c < 0x800 then [0xc0 + c / 0x40, 0x80 + c % 0x40]
  else if c < 0x10000 then [0xe0 + c / 0x1000, 0x80 + c / 0x40 % 0x40, 0x80 + c % 0x40]
  else [0xf0 + c / 0x40000, 0x80 + c / 0x1000 % 0x40, 0x80 + c / 0x40 % 0x40, 0x80 + c % 0x40]

/-- Where to cut a range so that its parts have code points of one length, whose bytes vary independently:
the end of the first part, if it has to be cut. -/
def cut? (lo hi : Nat) : Option Nat :=
  let lengths := [0x7f, 0x7ff, 0xd7ff, 0xdfff, 0xffff].find? fun m => lo ≤ m && m < hi
  let aligned := if hi < 0x80 then none else [0x40, 0x1000, 0x40000].findSome? fun m =>
    if lo / m == hi / m then none
    else if lo % m != 0 then some (lo / m * m + m - 1)
    else if hi % m != m - 1 then some (hi / m * m - 1)
    else none
  lengths.or aligned

/-- The sequences of byte ranges that spell the code points of a range, halves of characters aside. The first
argument bounds the number of cuts. -/
def sequencesOf : Nat → Nat → Nat → List (List ByteRange)
  | 0, _, _ => []
  | n + 1, lo, hi =>
    match cut? lo hi with
    | some m => sequencesOf n lo m ++ sequencesOf n (m + 1) hi
    | none => if 0xd800 ≤ lo && hi ≤ 0xdfff then [] else [(bytesOf lo).zip (bytesOf hi)]

def sequences (s : CodeSet) : List (List ByteRange) := s.toList.flatMap fun r => sequencesOf 32 r.1 r.2

/-! ### Automata of sets -/

/-- Number of different starts of sequences, the empty one aside, in a list where equal ones follow each other. -/
def startCount : List ByteRange → List (List ByteRange) → Nat
  | _, [] => 0
  | before, s :: ss =>
    let shared := ((before.zip s).takeWhile fun p => p.1 == p.2).length
    (s.length - shared) + startCount s ss

/-- Room of a set against the direction of the text: its sequences share their first bytes. -/
def backwardSetSize (s : CodeSet) : Nat :=
  let ss := sequences s
  64 + 4 * ss.length + 32 * startCount [] ss

/-- The states of an automaton as their transitions; a state is the place of its transitions. -/
abbrev States := List (List (ByteRange × Nat))

/-- The state with given transitions, which is added if it is new. -/
def stateOf (ts : List (ByteRange × Nat)) (states : States) : Nat × States :=
  match states.findIdx? (· == ts) with
  | some i => (states.length - i, states)
  | none => (states.length + 1, ts :: states)

/-- Sequences with the same first range together, without that range. -/
def byFirst : List (List ByteRange) → List (ByteRange × List (List ByteRange))
  | [] => []
  | [] :: ss => byFirst ss
  | (r :: s) :: ss =>
    match byFirst ss with
    | (r', group) :: groups => if r == r' then (r, s :: group) :: groups else (r, [s]) :: (r', group) :: groups
    | [] => [(r, [s])]

/-- The state from which given sequences lead to the end, which is state zero. The first argument bounds the
length of the sequences. -/
def stateFrom : Nat → List (List ByteRange) → States → Nat × States
  | 0, _, states => (0, states)
  | n + 1, ss, states =>
    if ss.all List.isEmpty then (0, states)
    else
      let (ts, states) := (byFirst ss).foldl (fun (ts, states) (r, rest) =>
        let (target, states) := stateFrom n rest states
        ((r, target) :: ts, states)) ([], states)
      stateOf ts states

/-- Room of a set in the direction of the text: its sequences share their last bytes. -/
def forwardSetSize (s : CodeSet) : Nat :=
  let states := (stateFrom 5 (sequences s) []).2
  states.foldl (fun n ts => n + 32 + 8 * ts.length) 32

/-! ### Patterns -/

/-- Room of sets and groups, by the direction. -/
structure Direction where
  set : CodeSet → Nat
  group : Nat

/-- Room of a set that is one character or has ASCII characters only, or else by a given count. -/
def setSize (other : CodeSet → Nat) (s : CodeSet) : Nat :=
  match s.toList with
  | [(lo, hi)] => if lo == hi then 32 * (bytesOf lo).length else if hi < 128 then 72 else other s
  | rs => if s.isAscii then 64 + 8 * rs.length else other s

def forward : Direction := ⟨setSize forwardSetSize, 64⟩

def backward : Direction := ⟨setSize backwardSetSize, 0⟩

/-- More room than a set takes in either direction. -/
def roomy : Direction := ⟨fun s => 128 + 1200 * s.ranges.size, 64⟩

/-- Room of a pattern. -/
def Node.size (d : Direction) : Node → Nat
  | .empty | .look _ => 32
  | .set s => d.set s
  | .group _ n => d.group + n.size d
  | .seq .empty n | .seq n .empty => n.size d
  | .seq a b => a.size d + b.size d
  | .alt a (.alt b c) => 4 + a.size d + (Node.alt b c).size d
  | .alt a b => 72 + a.size d + b.size d
  | .repetition 0 (some 1) _ n => 72 + n.size d
  | .repetition 0 none _ n => (if n.consumes then 40 else 112) + n.size d
  | .repetition min none _ n => 40 + min * n.size d
  | .repetition min (some max) _ n =>
    if min = max then min * n.size d
    else (if min = 0 then 64 else 32) + min * n.size d + (max - min) * (40 + n.size d)

/-- The room that patterns may take. -/
def maxSize : Nat := 10485760

/-- Whether a pattern takes more room than it may. -/
def Node.isTooLarge (n : Node) : Bool :=
  maxSize < n.size roomy && (maxSize < n.size forward || maxSize < n.size backward)

end ScriptCoverage.Pattern

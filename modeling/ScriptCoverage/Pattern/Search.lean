import ScriptCoverage.Pattern.Code
import ScriptCoverage.Span

/-!
Searching with patterns. All paths through the code run side by side over the text, the preferred one first,
so a search takes time in proportion to the text. `Code.findFrom` finds the first match that starts at or
behind an offset, `Code.findAll` all matches that do not overlap, `Code.split` what lies between them.
Offsets count bytes.
-/

namespace ScriptCoverage.Pattern

/-- The groups of a match, the whole match first. A group that took no part has no range. -/
abbrev Groups := List (Option Span)

/-- The whole match. -/
def Groups.whole (g : Groups) : Span := (g.head?.join).getD .dummy

/-! ### Places in a text -/

/-- A place in a text: the character before it, its offset, and the characters behind it. -/
structure At where
  before : Option Char := none
  offset : Nat := 0
  rest : List Char

/-- The place behind the first `n` bytes of the characters at an offset, if a character starts there or the
text ends there. -/
def At.behind? (before : Option Char) (offset : Nat) : List Char → (n : Nat) → Option At
  | cs, 0 => some ⟨before, offset, cs⟩
  | [], _ + 1 => none
  | c :: cs, n => if c.utf8Size ≤ n then At.behind? (some c) (offset + c.utf8Size) cs (n - c.utf8Size) else none

namespace At

/-- The place a number of bytes further on. -/
def forward? (a : At) (n : Nat) : Option At := behind? a.before a.offset a.rest n

/-- The place behind the next character. -/
def next? (a : At) : Option At :=
  match a.rest with
  | [] => none
  | c :: cs => some ⟨some c, a.offset + c.utf8Size, cs⟩

/-- The place at an offset of a text. -/
def of? (text : String) (offset : Nat) : Option At :=
  -- in a narrow text every character is one byte, so no walk is needed
  if Text.isNarrow text then
    if offset ≤ text.length then
      let before := if offset = 0 then none else String.Pos.Raw.get? text ⟨offset - 1⟩
      some ⟨before, offset, (String.Pos.Raw.extract text ⟨offset⟩ ⟨offset + text.length⟩).toList⟩
    else none
  else behind? none 0 text.toList offset

theorem behind?_of_narrow {cs : List Char} (h : ∀ c ∈ cs, c.utf8Size = 1) (before : Option Char) (k n : Nat) :
    behind? before k cs n =
      if n ≤ cs.length then some ⟨if n = 0 then before else cs[n - 1]?, k + n, cs.drop n⟩ else none := by
  induction cs generalizing before k n with
  | nil => cases n <;> simp [behind?]
  | cons c cs ih =>
    cases n with
    | zero => simp [behind?]
    | succ n =>
      have hc := h c (by simp)
      simp only [behind?, hc, ih fun c hc => h c (by simp [hc])]
      cases n with
      | zero => simp
      | succ n => simp [Nat.add_assoc, Nat.add_comm 1]

/-- The short way through narrow texts leads to the same place. -/
theorem of?_eq (text : String) (offset : Nat) : of? text offset = behind? none 0 text.toList offset := by
  unfold of?
  split
  · next h =>
    rw [behind?_of_narrow (Text.utf8Size_of_isNarrow h), String.length_toList, Text.get?_of_isNarrow h,
      Text.extract_of_isNarrow h, String.toList_ofList, List.take_of_length_le, Nat.zero_add]
    rw [List.length_drop, String.length_toList]
    omega
  · rfl

end At

/-! ### Paths side by side -/

/-- A path at an instruction, with the offsets that it saved. -/
structure Path where
  place : Nat
  slots : Array (Option Nat)

/-- The paths that wait at one offset, the last one first, and for every instruction the offset at which it
was reached last, plus one. -/
structure Front where
  reached : Array Nat
  paths : List Path := []

namespace Code

variable (code : Code)

/-- Whether a path accepts where it stands. -/
def accepts (p : Path) : Bool :=
  match code.instructions.getD p.place .accept with
  | .accept => true
  | _ => false

/-- Follows paths up to the instructions that take a character or accept, the preferred one first. An
instruction that a preferred path has reached is not entered again. The first argument bounds the number of
instructions on the way. -/
def follow (before after : Option Char) (offset : Nat) : Nat → List Path → Front → Front
  | 0, _, front | _, [], front => front
  | n + 1, p :: ps, front =>
    if front.reached.getD p.place 0 == offset + 1 then follow before after offset n ps front
    else
      let front := { front with reached := front.reached.setIfInBounds p.place (offset + 1) }
      match code.instructions.getD p.place .accept with
      | .take .. | .accept => follow before after offset n ps { front with paths := p :: front.paths }
      | .look l next =>
        follow before after offset n (if l.holds before after then { p with place := next } :: ps else ps) front
      | .save slot next =>
        follow before after offset n (⟨next, p.slots.setIfInBounds slot (some offset)⟩ :: ps) front
      | .fork first second =>
        follow before after offset n ({ p with place := first } :: { p with place := second } :: ps) front

/-- Follows a single path. Every instruction is entered once and leads to two more at most. -/
def enter (before after : Option Char) (offset : Nat) (p : Path) (front : Front) : Front :=
  code.follow before after offset (2 * code.instructions.size + 2) [p] front

/-- Moves paths over a character, the preferred one first, up to one that accepts: the paths behind the
character, and the slots of the path that accepts. -/
def move (c : Char) (after : Option Char) (offset : Nat) : List Path → Front → Front × Option (Array (Option Nat))
  | [], front => (front, none)
  | p :: ps, front =>
    match code.instructions.getD p.place .accept with
    | .accept => (front, some p.slots)
    | .take s next =>
      if s.contains c then move c after offset ps (code.enter (some c) after offset { p with place := next } front)
      else move c after offset ps front
    | _ => move c after offset ps front

/-- Walks over a text from an offset on. As long as nothing was found, a path starts at every offset. -/
def walk (before : Option Char) (offset : Nat) (front : Front) (found : Option (Array (Option Nat))) :
    List Char → Option (Array (Option Nat))
  | [] => (((begun none front).paths.reverse.find? code.accepts).map Path.slots).or found
  | c :: cs =>
    let front := begun (some c) front
    let behind := offset + c.utf8Size
    let (next, accepted) := code.move c cs.head? behind front.paths.reverse { front with paths := [] }
    let found := accepted.or found
    -- no path is left that is preferred to what was found
    if found.isSome && next.paths.isEmpty then found else walk (some c) behind next found cs
where
  begun (after : Option Char) (front : Front) : Front :=
    if found.isSome then front
    else code.enter before after offset ⟨code.start, Array.replicate (2 * code.groups) none⟩ front

/-- The groups that saved offsets delimit. -/
def groupsOf (slots : Array (Option Nat)) : Groups :=
  (List.range code.groups).map fun i =>
    match slots.getD (2 * i) none, slots.getD (2 * i + 1) none with
    | some start, some stop => some ⟨start, stop⟩
    | _, _ => none

/-! ### Matches -/

/-- The first match that starts at a place or behind it. -/
def findAt (at_ : At) : Option Groups :=
  let front : Front := { reached := Array.replicate code.instructions.size 0 }
  (code.walk at_.before at_.offset front none at_.rest).map code.groupsOf

/-- The first match in a text that starts at or behind an offset, which must be that of a character. -/
def findFrom (text : String) (start : Nat) : Option Groups := (At.of? text start).bind code.findAt

/-- The matches from a place on. An empty match right behind another match does not count; the search
then goes on behind the next character. The first argument bounds the number of matches. -/
def findAllFrom : Nat → (lastStop : Option Nat) → At → List Groups
  | 0, _, _ => []
  | n + 1, lastStop, at_ =>
    let again (g : Groups) : Option Groups :=
      if g.whole.isEmpty && some g.whole.stop == lastStop then at_.next?.bind code.findAt else some g
    match (code.findAt at_).bind again with
    | none => []
    | some g =>
      match at_.forward? (g.whole.stop - at_.offset) with
      | some behind => g :: findAllFrom n (some g.whole.stop) behind
      | none => [g]

/-- All matches in a text that do not overlap. -/
def findAll (text : String) : List Groups := code.findAllFrom (text.length + 1) none { rest := text.toList }

/-- What lies between the matches from an offset on. -/
def gaps (stop : Nat) : (start : Nat) → List Groups → List Span
  | start, [] => [⟨start, stop⟩]
  | start, g :: gs => ⟨start, g.whole.start⟩ :: gaps stop g.whole.stop gs

/-- The parts of a text between matches. -/
def split (text : String) : List Span := gaps text.utf8ByteSize 0 (code.findAll text)

end Code

end ScriptCoverage.Pattern

/-!
Lines of a text. `pieces` cuts a text behind every line break and loses nothing; a line is a piece without
its line break.
-/

namespace ScriptCoverage.Text

/-- The lines of a text with their line breaks; only the last piece may lack one, and it is not empty. -/
def pieces : List Char → List (List Char)
  | [] => []
  | c :: cs =>
    if c = '\n' then [c] :: pieces cs
    else match pieces cs with
      | [] => [[c]]
      | p :: ps => (c :: p) :: ps

theorem pieces_flatten (cs : List Char) : (pieces cs).flatten = cs := by
  induction cs with
  | nil => rfl
  | cons c cs ih =>
    by_cases hc : c = '\n'
    · simp [pieces, hc, ih]
    · cases hp : pieces cs with
      | nil => simp_all [pieces]
      | cons p ps => simp_all [pieces]

/-- A piece without its line break, `\n` or `\r\n`. -/
def dropBreak (p : List Char) : List Char :=
  match p.reverse with
  | '\n' :: '\r' :: r => r.reverse
  | '\n' :: r => r.reverse
  | _ => p

/-- The lines of a text without their line breaks. -/
def lines (cs : List Char) : List (List Char) := (pieces cs).map dropBreak

end ScriptCoverage.Text

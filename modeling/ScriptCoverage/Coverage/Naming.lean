import ScriptCoverage.Text.Quoted

/-!
Names of recorders that nobody chose. A name is made of the identity of a session and a counter, so two
recorders of one process never share a name.
-/

namespace ScriptCoverage.Naming

/-- Number of hexadecimal digits of the identity of a session. -/
def identityLength : Nat := 12

/-- The identity of the session with a given seed. -/
def sessionIdentity (seed : Nat) : String := String.ofList (Text.hex identityLength (seed % Nat.pow 16 identityLength))

/-- The name of the recorder with a given number. -/
def recorderName (session : String) (number : Nat) : String := "____" ++ session ++ "_" ++ toString number ++ "____"

end ScriptCoverage.Naming

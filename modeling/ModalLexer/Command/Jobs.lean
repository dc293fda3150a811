import ModalLexer.Command.Run

/-!
The inputs of a run scanned by workers, in any order. What the workers found is written in the order of the arguments
once all of it is there.
-/

namespace ModalLexer.Command

/-! ## Scanning in any order -/

/-- How far the scan of an input has got. -/
inductive Job
  | waiting
  | running
  | finished (result : Except Error (List Token))

namespace Job

/-- A step of the workers that scan some texts. Any text that waits may be taken up, and any scan that runs may
finish. -/
inductive Step (lexer : Lexer) (texts : List String) : List Job → List Job → Prop
  | take {jobs : List Job} {n : Nat} : jobs[n]? = some .waiting → Step lexer texts jobs (jobs.set n .running)
  | finish {jobs : List Job} {n : Nat} {text : String} : jobs[n]? = some .running → texts[n]? = some text →
      Step lexer texts jobs (jobs.set n (.finished (lexer.tokenize text)))

end Job

/-! ## Writing what the workers found -/

/-- What stands above the tokens of an input: with several inputs its header, behind a blank line if it is not the
first. -/
def headOf (headers first : Bool) (input : Input) : String :=
  if headers then header first input.name else ""

def Printed.behind (r : Printed) (text : String) : Printed :=
  { r with text := text ++ r.text }

/-- The lines of an input, with the result of its scan at hand. -/
def resultLines (input : Input) : Except Error (List Token) → Except Failure String
  | .error e => .error (.input input.name e)
  | .ok tokens =>
    match uncovered? input.text tokens with
    | some offset => .error (.uncovered input.name offset)
    | none => .ok (String.join (tokens.map tokenLine))

/-- The sections of inputs, with the results of their scans at hand. -/
def printResults (headers : Bool) : (first : Bool) → List (Input × Except Error (List Token)) → Printed
  | _, [] => { text := "" }
  | first, (input, result) :: found =>
    match resultLines input result with
    | .error f => { text := headOf headers first input, failure := some f }
    | .ok body => (printResults headers false found).behind (headOf headers first input ++ body)

/-- A run that has read everything and has the results of all scans at hand. -/
def runWith (i : Invocation) (s : Surroundings) (p : Prepared) (results : List (Except Error (List Token))) : Outcome :=
  deliver i s.create (.ok (printResults (1 < p.inputs.length) true (p.inputs.zip results)))

end ModalLexer.Command

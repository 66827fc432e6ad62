import DeskCalc.Expression.Evaluation

/-! Calls: the single steps of reading, asked of one scanner in any order. -/

namespace DeskCalc.Expression

/-- A step of reading that can be asked of a scanner. -/
inductive Call
  | advance
  | eat (expected : Option String)
  | rule (name : Rule)
  | all

/-- What a call answers. -/
inductive Reply
  | done
  | eaten (found : Bool)
  | outcome (outcome : Except Failure Float)

namespace Call

/-- Ask a call of a scanner; after a failure the scanner stays where reading stopped. -/
def ask (scanner : Scanner) : Call → Reply × Scanner
  | advance => (.done, scanner.advance)
  | eat expected =>
    match scanner.eatText? expected with
    | some after => (.eaten true, after)
    | none => (.eaten false, scanner)
  | rule name =>
    let reading := name.read scanner
    (.outcome reading.outcome, reading.scanner)
  | all =>
    let reading := readAll scanner
    (.outcome reading.outcome, reading.scanner)

/-- Ask calls one after the other: each answer with the scanner as it leaves it. -/
def askAll (scanner : Scanner) : List Call → List (Reply × Scanner)
  | [] => []
  | call :: rest =>
    let asked := ask scanner call
    asked :: askAll asked.2 rest

end Call

end DeskCalc.Expression

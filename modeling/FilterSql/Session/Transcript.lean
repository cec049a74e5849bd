import FilterSql.Session.Basic
import FilterSql.Session.Line

namespace FilterSql

structure Transcript where
  shown : List String := []
  complaints : List String := []
  aborted : Bool := false
  deriving DecidableEq, Repr

def Transcript.append (t u : Transcript) : Transcript :=
  ⟨t.shown ++ u.shown, t.complaints ++ u.complaints, t.aborted || u.aborted⟩

def Transcript.exitCode (t : Transcript) : UInt32 := if t.aborted then 101 else 0

structure Turn where
  session : Option Session
  transcript : Transcript

namespace Session

def query (s : Session) (line : List Char) : Transcript :=
  match s.engine.compile (s.request (String.ofList line)) with
  | .ok statement => { shown := statement.lines }
  | .error error => { complaints := ["error: " ++ error.message] }

def obey (files : Files) (s : Session) (line : List Char) : Turn :=
  match line with
  | ':' :: _ =>
    let reply := s.command files line
    match reply.effect with
    | .ok (.lines lines) => ⟨some reply.session, { shown := lines }⟩
    | .ok .quit => ⟨none, {}⟩
    | .error error => ⟨some reply.session, { complaints := ["error: " ++ error.render] }⟩
  | line => ⟨some s, s.query line⟩

def turn (files : Files) (s : Session) (line : List Char) : Turn :=
  match (Typed.line? line).map Text.trim with
  | none => ⟨none, { complaints := ["a backspace ends inside a character"], aborted := true }⟩
  | some [] => ⟨some s, {}⟩
  | some line => s.obey files line

def greeting (s : Session) : String :=
  "result-query (" ++ s.engine.dialect.name ++ "), :help for commands"

def run (files : Files) : Session → List (List Char) → Transcript
  | _, [] => {}
  | s, line :: rest =>
    let turn := s.turn files line
    match turn.session with
    | none => turn.transcript
    | some s => turn.transcript.append (s.run files rest)

end Session

/-- The lines of an input. A line ends with a line feed, before which a carriage return is dropped;
the last one may go without. -/
def inputLines (cs : List Char) : List (List Char) :=
  let pieces := cs.splitOnP (· == '\n')
  let ended := pieces.dropLast.map fun line =>
    if line.getLast? = some '\r' then line.dropLast else line
  ended ++ (pieces.getLast?.toList.filter (!·.isEmpty))

end FilterSql

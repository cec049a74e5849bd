import FilterSql.CommandLine.Program

namespace FilterSql.CommandLine

def lookUp (path : String) : IO Found := do
  if path.isEmpty then return .missing
  try
    match String.fromUTF8? (← IO.FS.readBinFile path) with
    | some text => return .text text
    | none => return .unreadable .notUtf8
  catch
    | .inappropriateType _ 21 _ => return .unreadable .isDirectory
    | .permissionDenied .. => return .unreadable .permissionDenied
    | _ => return .missing

def snapshot (paths : List String) : IO Files := do
  let found ← paths.mapM fun path => do return (path, ← lookUp path)
  return fun path => (found.lookup path).getD .missing

def filesOf (o : Options) : IO Files := do
  let files ← snapshot o.config.toList
  match loadConfig files o with
  | .ok config => snapshot (o.config.toList ++ config.schemaPath.toList)
  | .error _ => return files

def report (f : Finish) : IO UInt32 := do
  IO.print f.output
  IO.eprint f.complaints
  return f.exitCode

partial def converseLive (input : IO.FS.Stream) (s : Session) : IO UInt32 := do
  match inputLines (← input.getLine).toList with
  | [] => return 0
  | line :: _ =>
    let files ← snapshot s.config.schemaPath.toList
    let turn := s.turn files line
    IO.print (unlines turn.transcript.shown)
    IO.eprint (unlines turn.transcript.complaints)
    (← IO.getStdout).flush
    match turn.session with
    | some s => converseLive input s
    | none => return turn.transcript.exitCode

def live (o : Options) : IO UInt32 := do
  match start (← filesOf o) o with
  | .error failure => report (failed failure)
  | .ok session =>
    match o.execute with
    | some query => report (executeOnce session query)
    | none =>
      IO.print (unlines [session.greeting])
      converseLive (← IO.getStdin) session

end FilterSql.CommandLine

open FilterSql.CommandLine in
def main (arguments : List String) : IO UInt32 :=
  match parse arguments with
  | .run options => live options
  | .showVersion => report ⟨0, versionText, ""⟩
  | .showHelp => report ⟨0, helpText, ""⟩
  | .refuse error => report ⟨2, "", usageText error⟩

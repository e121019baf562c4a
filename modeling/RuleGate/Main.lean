import RuleGate.Command.Arguments

/-!
# The program

Reads the files that the command line names, runs the command, prints what there is to print, each
value as a line of JSON, and ends with the code of the session.
-/

namespace RuleGate

def readFile (path : Text) : IO FileResult := do
  let shown := Files.shownPath path
  try
    let content ← IO.FS.readBinFile shown.asString
    return .bytes content.toList
  catch
    | .noFileOrDirectory .. => return .fault .missing shown
    | .invalidArgument .. => return .fault .nameTooLong shown
    | .inappropriateType _ 21 _ => return .fault .isDirectory shown
    | .inappropriateType .. => return .fault .notDirectory shown
    | _ => return .fault .denied shown

/-- The files under the given paths; a command reads no others. -/
def readFiles (paths : List Text) : IO Files := do
  let results ← paths.mapM fun path => do
    return (path, ← readFile path)
  return fun path => (Table.get? results path).getD (.fault .missing (Files.shownPath path))

def pathsOf (args : List Text) : List Text :=
  match Invocation.ofArguments? args >>= Invocation.command with
  | .ok c => c.paths
  | .error _ => []

/-- An endless source of numbers between zero and one, in steps as fine as a double keeps. -/
def drawNumbers : IO (Nat → Number) := do
  let seed ← IO.rand 0 0x7fffffff
  return fun k =>
    let (n, _) := randNat (mkStdGen (seed + k)) 0 (Double.mantissaBound - 1)
    .float (.ofRatio false n Double.mantissaBound)

def usage : String :=
  "usage: [--log-level LEVEL] keys | compile RULES [--snapshot SNAPSHOT] | " ++
  "evaluate RULES SNAPSHOT [--seed SEED]"

def finish : Ending → IO UInt32
  | .exit code => return code.toUInt32
  | .refused r => do
    IO.eprintln usage
    return r.code.toUInt32
  | .load e => fail e.message
  | .number f => fail f.message
  | .unknownLevel level => fail ("Unknown level: " ++ Text.quoted level)
where
  fail (message : Text) : IO UInt32 := do
    IO.eprintln message.asString
    return 1

end RuleGate

open RuleGate in
def main (args : List String) : IO UInt32 := do
  let args := args.map Text.ofString
  let files ← readFiles (pathsOf args)
  let source ← drawNumbers
  let session := Session.ofArguments {} files source args
  for p in session.printed do
    IO.println p.toJson.text.asString
  finish session.ending

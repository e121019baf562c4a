import RuleGate.Table
import RuleGate.Text.Utf8

/-!
# Files

A file is found by a path, followed step by step from the working directory. What is said about a
path that leads to no file shows the path in its short form, without the steps that go nowhere.
-/

namespace RuleGate

inductive FileFault
  | missing
  | denied
  | isDirectory
  | notDirectory
  | nameTooLong
  deriving DecidableEq, Repr

inductive PathFault
  | nullByte
  | encoding (u : Text.Utf8.Unencodable)

/-- What reading the file at a path gives; the fault comes with the path as it is shown. -/
inductive FileResult
  | bytes (content : List UInt8)
  | fault (f : FileFault) (shown : Text)
  | badPath (f : PathFault)

abbrev Files := Text → FileResult

def FileFault.reason : FileFault → Text
  | missing => "[Errno 2] No such file or directory"
  | denied => "[Errno 13] Permission denied"
  | notDirectory => "[Errno 20] Not a directory"
  | isDirectory => "[Errno 21] Is a directory"
  | nameTooLong => "[Errno 36] File name too long"

def FileFault.message (shown : Text) (f : FileFault) : Text :=
  f.reason ++ ": " ++ Text.quoted shown

def PathFault.message : PathFault → Text
  | nullByte => "embedded null byte"
  | encoding u => u.message

namespace Files

/-- The steps of a path, without those that go nowhere. -/
def steps (path : Text) : List Text :=
  (path.splitOn (.char '/')).filter fun s => s ≠ "" && s ≠ "."

/-- The slashes in front of a path: none, exactly two, or one for any other number. -/
def root (path : Text) : Text :=
  match path.takeWhile (· = .char '/') with
  | [] => ""
  | [_, _] => "//"
  | _ => "/"

def shownPath (path : Text) : Text :=
  let shown := root path ++ .join "/" (steps path)
  if shown.isEmpty then "." else shown

def pathFault? (shown : Text) : Option PathFault :=
  match Text.Utf8.unencodable? shown with
  | some u => some (.encoding u)
  | none => if shown.contains '\x00' then some .nullByte else none

/-- The contents of files, by the steps that lead to each. -/
abbrev Tree := Table (List Text) (List UInt8)

def Tree.isDirectory (tree : Tree) (place : List Text) : Bool :=
  tree.any fun file => place ≠ file.1 && place.isPrefixOf file.1

/-- The most bytes that a path may have. -/
def pathLimit : Nat := 4095

/-- The most bytes that the name of a file may have. -/
def nameLimit : Nat := 255

def isLongName (step : Text) : Bool :=
  nameLimit < Text.Utf8.byteCount step

/-- What stands in the way outside the working directory, of which only its place is known. -/
def outside : List Text → FileFault
  | [] => .isDirectory
  | step :: rest =>
    if step = ".." then outside rest
    else if isLongName step then .nameTooLong
    else .missing

/-- Follows steps from a directory; two points lead back. -/
def Tree.follow (tree : Tree) (place : List Text) : List Text → Except FileFault (List UInt8)
  | [] => .error .isDirectory
  | step :: rest =>
    if step = ".." then
      if place.isEmpty then .error (outside rest) else tree.follow place.dropLast rest
    else if isLongName step then .error .nameTooLong
    else if tree.isDirectory (place ++ [step]) then tree.follow (place ++ [step]) rest
    else
      match tree.get? (place ++ [step]) with
      | some content => if rest.isEmpty then .ok content else .error .notDirectory
      | none => .error .missing

/-- Follows a path from the working directory, outside of which there are no files. -/
def Tree.find (tree : Tree) (path : Text) : Except FileFault (List UInt8) :=
  if pathLimit < Text.Utf8.byteCount (shownPath path) then .error .nameTooLong
  else if (root path).isEmpty then tree.follow [] (steps path)
  else .error (outside (steps path))

/-- The working directory holds the given files and nothing else. -/
def ofTable (table : Table Text (List UInt8)) : Files := fun path =>
  let tree : Tree := Table.ofEntries (table.map fun file => (steps file.1, file.2))
  match pathFault? (shownPath path) with
  | some f => .badPath f
  | none =>
    match tree.find path with
    | .ok content => .bytes content
    | .error f => .fault f (shownPath path)

end Files
end RuleGate

import RuleGate.Files
import RuleGate.Snapshot.Build
import RuleGate.Json.Printer
import RuleGate.Json.Reader
import RuleGate.Text.Utf8

/-!
# Documents

Rules and snapshots are kept in files of JSON text in UTF-8. Reading one gives its content or the
reason why there is none. A reason is reported, with the name of the file, unless it is a number
that is too long, bytes that are no text or a path that cannot be followed: these end the program.
-/

namespace RuleGate

inductive DocumentKind
  | rules | snapshot
  deriving DecidableEq, Repr

inductive LoadFault
  | file (f : FileFault) (shown : Text)
  | malformed (text : Text) (e : Json.SyntaxError)
  | notObject (index : Nat)
  | invalid (problems : List Schema.Problem)
  /-- The bytes are no text. -/
  | encoding (f : Text.Utf8.Fault)
  | number (f : NumberFault)
  | badPath (f : PathFault)

structure LoadError where
  kind : DocumentKind
  path : Text
  fault : LoadFault

def DocumentKind.label : DocumentKind → Text
  | rules => "rules"
  | snapshot => "snapshot"

namespace LoadError

/-- Whether the program answers with the error, or ends. -/
def isReported (e : LoadError) : Bool :=
  match e.fault with
  | .encoding _ | .number _ | .badPath _ => false
  | _ => true

def unreadable (e : LoadError) (reason : Text) : Text :=
  "Unable to read " ++ e.kind.label ++ " " ++ e.path ++ ": " ++ reason

def message (e : LoadError) : Text :=
  match e.fault with
  | .file f shown => e.unreadable (f.message shown)
  | .malformed text s => e.unreadable (s.message text)
  | .notObject index => s!"Rule #{index} in " ++ e.path ++ " is not an object"
  | .invalid _ => "Invalid snapshot"
  | .encoding f => f.message
  | .number f => f.message
  | .badPath f => f.message

end LoadError

namespace Document

def parse (text : Text) : Except LoadFault Json :=
  match Json.read text with
  | .ok v => .ok v
  | .error (.malformed e) => .error (.malformed text e)
  | .error (.tooLong digits) => .error (.number (.tooLong digits))

def read (files : Files) (path : Text) : Except LoadFault Json :=
  match files path with
  | .fault f shown => .error (.file f shown)
  | .badPath f => .error (.badPath f)
  | .bytes content =>
    match Text.Utf8.decode content with
    | .error f => .error (.encoding f)
    | .ok text => parse (Text.lineFeeds text)

/-- A rule goes by the name it gives itself, or by its number. -/
def ruleName (index : Nat) (fields : Fields) : Text :=
  match fields.get? "name" with
  | some v => v.describe
  | none => s!"rule-{index}"

def rulesFrom (index : Nat) : List Json → Except LoadFault (List (Text × Fields))
  | [] => .ok []
  | .obj fields :: rest => (rulesFrom (index + 1) rest).map ((ruleName index fields, fields) :: ·)
  | _ :: _ => .error (.notObject index)

/-- A list of rules, or one rule by itself. -/
def rulesOf : Json → Except LoadFault (List (Text × Fields))
  | .arr rules => rulesFrom 1 rules
  | v => rulesFrom 1 [v]

def snapshotOf (default : List Capability) (payload : Json) : Except LoadFault Snapshot :=
  match Snapshot.ofJson default payload with
  | .valid s => .ok s
  | .invalid p ps => .error (.invalid (p :: ps))

def loadRules (files : Files) (path : Text) : Except LoadError (List (Text × Fields)) :=
  (read files path >>= rulesOf).mapError (LoadError.mk .rules path)

def loadSnapshot (default : List Capability) (files : Files) (path : Text) :
    Except LoadError Snapshot :=
  (read files path >>= snapshotOf default).mapError (LoadError.mk .snapshot path)

end Document
end RuleGate

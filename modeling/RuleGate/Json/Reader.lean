import RuleGate.Json.Token

/-!
# Reading JSON text

Tokens are read one after another against a stack of open arrays and objects. The state says what
may come next, so every error is found at the token that does not fit, and reading ends with the
tokens.
-/

namespace RuleGate.Json

/-- An array or object that is still open, with what it holds so far; an object waits for the value
of a name. -/
inductive Frame
  | array (done : List Json)
  | object (done : Fields) (name : Text)

inductive State
  /-- A value must come. -/
  | value (frames : List Frame)
  /-- An array has just been opened. -/
  | item (frames : List Frame)
  /-- A name must come. -/
  | name (frames : List Frame) (done : Fields)
  /-- An object has just been opened. -/
  | field (frames : List Frame)
  /-- A name has been read. -/
  | colon (frames : List Frame) (done : Fields) (name : Text)
  /-- A value has been read. -/
  | after (frames : List Frame) (v : Json)

inductive ReadError
  | malformed (e : SyntaxError)
  | tooLong (digits : Nat)
  deriving DecidableEq, Repr

def fail {α : Type} (complaint : Complaint) (pos : Nat) : Except ReadError α :=
  .error (.malformed ⟨complaint, pos⟩)

def State.onValue (frames : List Frame) (t : Token) : Except ReadError State :=
  match t.lexeme with
  | .openObject => .ok (.field frames)
  | .openArray => .ok (.item frames)
  | .text s => .ok (.after frames (.str s))
  | .atom v => .ok (.after frames v)
  | .badText e => .error (.malformed e)
  | .overlong digits => .error (.tooLong digits)
  | _ => fail .value t.pos

def State.onName (frames : List Frame) (done : Fields) (t : Token) : Except ReadError State :=
  match t.lexeme with
  | .text s => .ok (.colon frames done s)
  | .badText e => .error (.malformed e)
  | _ => fail .propertyName t.pos

def State.onAfter (v : Json) (t : Token) : List Frame → Except ReadError State
  | [] => fail .extra t.pos
  | .array done :: frames =>
    match t.lexeme with
    | .comma => .ok (.value (.array (v :: done) :: frames))
    | .closeArray => .ok (.after frames (.arr (v :: done).reverse))
    | _ => fail .comma t.pos
  | .object done key :: frames =>
    match t.lexeme with
    | .comma => .ok (.name frames (done.insert key v))
    | .closeObject => .ok (.after frames (.obj (done.insert key v)))
    | _ => fail .comma t.pos

def State.step (t : Token) : State → Except ReadError State
  | .value frames => onValue frames t
  | .item frames =>
    match t.lexeme with
    | .closeArray => .ok (.after frames (.arr []))
    | _ => onValue (.array [] :: frames) t
  | .name frames done => onName frames done t
  | .field frames =>
    match t.lexeme with
    | .closeObject => .ok (.after frames (.obj []))
    | _ => onName frames [] t
  | .colon frames done key =>
    match t.lexeme with
    | .colon => .ok (.value (.object done key :: frames))
    | _ => fail .colon t.pos
  | .after frames v => onAfter v t frames

def State.run : State → List Token → Except ReadError Json
  | .after [] v, [⟨.finish, _⟩] => .ok v
  | _, [] => fail .value 0
  | s, t :: ts => do
    let s ← s.step t
    s.run ts

def read (text : Text) : Except ReadError Json :=
  match text with
  | .char '\ufeff' :: _ => fail .byteOrderMark 0
  | _ => State.run (.value []) (tokens 0 text)

def Complaint.message : Complaint → Text
  | .byteOrderMark => "Unexpected UTF-8 BOM (decode using utf-8-sig)"
  | .value => "Expecting value"
  | .propertyName => "Expecting property name enclosed in double quotes"
  | .colon => "Expecting ':' delimiter"
  | .comma => "Expecting ',' delimiter"
  | .extra => "Extra data"
  | .unterminated => "Unterminated string starting at"
  | .control => "Invalid control character at"
  | .badEscape => "Invalid \\escape"
  | .badCodeEscape => "Invalid \\uXXXX escape"

/-- The complaint with its line, column and position in the text. -/
def SyntaxError.message (text : Text) (e : SyntaxError) : Text :=
  let before := text.take e.pos
  let line := before.count (.char '\n') + 1
  let column := (before.reverse.takeWhile (· ≠ .char '\n')).length + 1
  e.complaint.message ++ s!": line {line} column {column} (char {e.pos})"

end RuleGate.Json

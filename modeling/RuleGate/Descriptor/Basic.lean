import RuleGate.Rule.Error
import RuleGate.Schema.Record
import RuleGate.Text.Blank

/-!
# Descriptors

A descriptor is a JSON value that says what an item, a block or an offset should be like. It may
also be given as text: a text that begins like an object, an array or a quoted text is read as
JSON, any other is a name and stands for itself.
-/

namespace RuleGate.Descriptor

def looksLikeJson (s : Text) : Bool :=
  match s with
  | c :: _ => c = '{' || c = '[' || c = '"'
  | [] => false

def decodeText (raw : Text) : Except Failure Json :=
  let bare := Text.strip raw
  if looksLikeJson bare then
    match Json.read bare with
    | .ok v => .ok v
    | .error (.malformed e) => .error (.compile (.badJson raw e.complaint))
    | .error (.tooLong digits) => .error (.number (.tooLong digits))
  else .ok (.str bare)

def decode : Json → Except Failure Json
  | .str raw => decodeText raw
  | v => .ok v

def onPart {α β : Type} (f : α → Except Failure β) : Option α → Except Failure (Option β)
  | none => .ok none
  | some a => (f a).map some

/-- Reads an object as a record, naming every problem in the error. -/
def ofObject {α : Type} (kind : DescriptorKind) (form : Schema.Form α) (fields : Fields) :
    Except Failure α :=
  match form.read fields with
  | .valid a => .ok a
  | .invalid p ps => .error (.compile (.badFields kind (.obj fields) (p :: ps)))

end RuleGate.Descriptor

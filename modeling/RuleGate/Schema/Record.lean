import RuleGate.Schema.Scalar

/-!
# Shapes of compound values

Lists, tuples, tables and records. A form reads the fields of a record and knows their names, so
that a strict record can refuse all others; problems of the fields come in the order of the form,
those of unknown fields after them.
-/

namespace RuleGate.Schema

variable {α β κ : Type}

def items (shape : Shape α) : Nat → List Json → Checked (List α)
  | _, [] => .valid []
  | i, v :: rest => List.cons <$> (shape v).under (.index i) <*> items shape (i + 1) rest

def listOf (shape : Shape α) : Shape (List α)
  | .arr vs => items shape 0 vs
  | _ => .fail .list

def component (shape : Shape α) (vs : List Json) (i : Nat) : Checked α :=
  (match vs[i]? with
    | some v => shape v
    | none => .fail .missing).under (.index i)

/-- A list of at most so many items, read as a whole. -/
def tuple (size : Nat) (read : List Json → Checked α) : Shape α
  | .arr vs => if size < vs.length then .fail (.tupleLength size vs.length) else read vs
  | _ => .fail .tuple

def entries (key : Text → Checked κ) (shape : Shape α) :
    List (Text × Json) → Checked (List (κ × α))
  | [] => .valid []
  | (name, v) :: rest =>
    let entry := Prod.mk <$> (key name).under .key <*> shape v
    List.cons <$> entry.under (.name name) <*> entries key shape rest

/-- An object as a table; of two entries with one key the later counts. -/
def tableOf [DecidableEq κ] (key : Text → Checked κ) (shape : Shape α) : Shape (Table κ α)
  | .obj fields => Table.ofEntries <$> entries key shape fields
  | _ => .fail .table

/-- The fields of a record: their names, and how their values make a value. -/
structure Form (α : Type) where
  names : List Text
  read : Fields → Checked α

namespace Form

instance : Applicative Form where
  pure a := ⟨[], fun _ => .valid a⟩
  map f x := ⟨x.names, fun fields => f <$> x.read fields⟩
  seq f x := ⟨f.names ++ (x ()).names, fun fields => f.read fields <*> (x ()).read fields⟩

def required (name : Text) (shape : Shape α) : Form α :=
  ⟨[name], fun fields =>
    (match fields.get? name with
      | some v => shape v
      | none => .fail .missing).under (.name name)⟩

def optional (name : Text) (absent : α) (shape : Shape α) : Form α :=
  ⟨[name], fun fields =>
    match fields.get? name with
    | some v => (shape v).under (.name name)
    | none => .valid absent⟩

/-- A problem for each field whose name is not listed. -/
def unknown (names : List Text) (fields : Fields) : List Problem :=
  (fields.filter fun field => !names.contains field.1).map fun field =>
    ⟨[.name field.1], .extra⟩

def noOthers (names : List Text) (fields : Fields) : Checked Unit :=
  match unknown names fields with
  | [] => .valid ()
  | p :: ps => .invalid p ps

/-- A record that may have other fields besides. -/
def lax (kind : Text) (form : Form α) : Shape α
  | .obj fields => form.read fields
  | _ => .fail (.record kind)

/-- A record that has no other fields. A name that holds half of a surrogate pair cannot be looked
at, and then nothing is said about the fields. -/
def strict (kind : Text) (form : Form α) : Shape α
  | .obj fields =>
    if fields.any (·.1.hasHalf) then .fail .brokenText
    else (fun a _ => a) <$> form.read fields <*> noOthers form.names fields
  | _ => .fail (.record kind)

end Form
end RuleGate.Schema

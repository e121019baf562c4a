import RuleGate.Rule.Error
import RuleGate.Schema.Scalar

/-!
# Attributes of a rule

The values of a rule, for each key in the order in which they were given. A list stands for its
items. A name whose values do not all fit contributes none of them and is reported; a name that is
no key is passed over.
-/

namespace RuleGate

/-- Values for keys, of types that may depend on the key. -/
structure Attributes (V : Key → Type) where
  values : (k : Key) → List (V k)

namespace Attributes

variable {V W : Key → Type}

def empty : Attributes V := ⟨fun _ => []⟩

def add (a : Attributes V) (k : Key) (v : V k) : Attributes V where
  values k' := if h : k = k' then a.values k' ++ [h ▸ v] else a.values k'

def getList (a : Attributes V) (k : Key) : List (V k) :=
  a.values k

def has (a : Attributes V) (k : Key) : Bool :=
  !(a.values k).isEmpty

def get? (a : Attributes V) (k : Key) : Option (V k) :=
  (a.values k).head?

def size (a : Attributes V) : Nat :=
  (Key.all.filter a.has).length

def map (f : (k : Key) → V k → W k) (a : Attributes V) : Attributes W where
  values k := (a.values k).map (f k)

def addAll (a : Attributes V) (k : Key) (vs : List (V k)) : Attributes V :=
  vs.foldl (fun a v => a.add k v) a

end Attributes

/-- The attributes of a rule, each value of the type that its key asks for. -/
abbrev RuleAttributes := Attributes Key.Value

def AttributeType.shape : (t : AttributeType) → Schema.Shape t.Value
  | integer => Schema.integer
  | float => Schema.double
  | boolean => Schema.boolean
  | string => Schema.text
  | json => Schema.anything

namespace RuleAttributes

/-- A list stands for its items, any other value for itself. -/
def itemsOf : Json → List Json
  | .arr items => items
  | v => [v]

/-- All values, or what is wrong with the first one that does not fit. -/
def readAll (k : Key) : List Json → Except Schema.Complaint (List k.Value)
  | [] => .ok []
  | v :: rest =>
    match k.type.shape v with
    | .valid a => (readAll k rest).map (a :: ·)
    | .invalid p _ => .error p.complaint

def addNamed (a : RuleAttributes) (name : Text) (v : Json) :
    RuleAttributes × List Diagnostic :=
  match Key.ofName? name with
  | none => (a, [])
  | some k =>
    match readAll k (itemsOf v) with
    | .ok vs => (a.addAll k vs, [])
    | .error complaint => (a, [.badValue k complaint])

def addFields (a : RuleAttributes) : List (Text × Json) → RuleAttributes × List Diagnostic
  | [] => (a, [])
  | (name, v) :: rest =>
    let (a, reported) := addNamed a name v
    let (a, more) := addFields a rest
    (a, reported ++ more)

def ofFields (fields : Fields) : RuleAttributes × List Diagnostic :=
  addFields .empty fields

end RuleAttributes
end RuleGate

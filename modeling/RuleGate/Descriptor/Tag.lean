import RuleGate.Descriptor.Basic
import RuleGate.Rule.Expression

/-!
# Tag tests

A tag test looks at one name of a compound: either at the integer that stands there, or at a list,
of which some compound must pass a further list of tests. What is no number counts as zero.
-/

namespace RuleGate

inductive TagDescriptor
  | mk (tag : Text) (value : Json) (contains : Option (List TagDescriptor))

namespace TagDescriptor

open Schema

/-- So many descriptors may lie one inside another. -/
def depthLimit : Nat := 254

/-- The empty text, and texts of one character below U+0100. -/
def isShortText : Text → Bool
  | [] => true
  | [c] => c.toNat < 0x100
  | _ => false

/-- Whether two values count as one wherever they stand: null, truth values, small integers, short
texts and doubles that are not finite do. -/
def isShared : Json → Json → Bool
  | .null, .null => true
  | .bool a, .bool b => a = b
  | .int i, .int j => i = j && -5 ≤ i && i ≤ 256
  | .float d, .float e => d = e && !d.isFinite
  | .str s, .str t => s = t && isShortText s
  | _, _ => false

/-- The values that were refused because they lie too deep. -/
abbrev Refused := List Json

mutual

/-- Reads a descriptor; `depth` counts it and those around it. -/
def ofJson (depth : Nat) (refused : Refused) : Json → Checked TagDescriptor × Refused
  | .obj fields =>
    let (contains, refused) := containsIn depth refused fields
    (mk <$> (Form.required "tag" Schema.text).read fields
      <*> (Form.optional "value" .null anything).read fields
      <*> contains, refused)
  | _ => (.fail (.record "TagDescriptor"), refused)
termination_by structural v => v

def containsIn (depth : Nat) (refused : Refused) :
    List (Text × Json) → Checked (Option (List TagDescriptor)) × Refused
  | [] => (.valid none, refused)
  | (name, v) :: rest =>
    if name = "contains" then
      let (children, refused) := ofList? depth refused v
      (children.under (.name name), refused)
    else containsIn depth refused rest
termination_by structural fields => fields

def ofList? (depth : Nat) (refused : Refused) :
    Json → Checked (Option (List TagDescriptor)) × Refused
  | .null => (.valid none, refused)
  | .arr vs =>
    let (children, refused) := ofItems depth 0 refused vs
    (some <$> children, refused)
  | _ => (.fail .list, refused)
termination_by structural v => v

/-- What lies too deep is not looked at; where it comes again, at whatever depth, it is taken for a
cycle. -/
def ofItems (depth i : Nat) (refused : Refused) :
    List Json → Checked (List TagDescriptor) × Refused
  | [] => (.valid [], refused)
  | v :: rest =>
    let (first, refused) :=
      if refused.any (isShared v) then (.fail .cycle, refused)
      else if depth < depthLimit then ofJson (depth + 1) refused v
      else (.fail .tooDeep, v :: refused)
    let (others, refused) := ofItems depth (i + 1) refused rest
    (List.cons <$> first.under (.index i) <*> others, refused)
termination_by structural vs => vs

end

def listShape : Shape (Option (List TagDescriptor)) := fun v =>
  (ofList? 0 [] v).1

end TagDescriptor

inductive TagTest
  | value (tag : Text) (e : Expression)
  | contains (tag : Text) (children : List TagTest)

namespace TagTest

mutual

def compile : TagDescriptor → Except Failure TagTest
  | ⟨tag, _, some children⟩ => do
    let tests ← compileAll children
    return contains tag tests
  | ⟨tag, .null, none⟩ => .error (.compile (.bareTag tag))
  | ⟨tag, v, none⟩ => do
    let e ← Expression.ofJson v
    return value tag e

def compileAll : List TagDescriptor → Except Failure (List TagTest)
  | [] => .ok []
  | d :: rest => do
    let t ← compile d
    let ts ← compileAll rest
    return t :: ts

end

/-- The integer under a name: doubles are cut toward zero, and anything but a number is zero. -/
def integerAt (compound : Fields) (tag : Text) : Except NumberFault Int :=
  match compound.get? tag with
  | some (.int i) => .ok i
  | some (.bool b) => .ok (if b then 1 else 0)
  | some (.float d) => d.truncate
  | _ => .ok 0

mutual

def holds (compound : Fields) : TagTest → Except NumberFault Bool
  | value tag e => do
    let n ← integerAt compound tag
    return e.holds n
  | contains tag children =>
    match compound.get? tag with
    | some (.arr elements) =>
      elements.anyM fun
        | .obj fields => allHold fields children
        | _ => .ok false
    | _ => .ok false

def allHold (compound : Fields) : List TagTest → Except NumberFault Bool
  | [] => .ok true
  | t :: rest => do
    if ← holds compound t then allHold compound rest else return false

end

end TagTest
end RuleGate

import RuleGate.Document
import RuleGate.Rule.Match

/-!
# Reports

What the program prints: an error, what became of one rule, or the table of keys. Each has a form
as a JSON value.
-/

namespace RuleGate

structure Report where
  rule : Text
  matched : Option Bool
  checks : List Key
  diagnostics : List Diagnostic

inductive Printed
  | error (message : Text)
  | report (r : Report)
  /-- The keys with their numbers, in order, and the key that only modifies another. -/
  | keyTable (rows : List (Nat × Key)) (modifier modified : Key)

namespace Report

def messagesAt (level : Level) (r : Report) : List Text :=
  (r.diagnostics.filter fun d => d.level = level).map Diagnostic.message

def errors (r : Report) : List Text := r.messagesAt .error

def warnings (r : Report) : List Text := r.messagesAt .warning

end Report

namespace Printed

def texts (ss : List Text) : Json := .arr (ss.map .str)

def keyRow (number : Text) (k : Key) (need : Text) : Json :=
  texts [number, k.name, Named.name k.type, need]

def needOf (k : Key) : Text :=
  match k.capability? with
  | some c => c.label
  | none => ""

def reportFields (r : Report) : Fields :=
  let matched : Fields := match r.matched with
    | some b => [("matched", .bool b)]
    | none => []
  let named : Fields := [("rule", .str r.rule)]
  let lists : Fields := [
    ("checks", texts (r.checks.map Key.name)),
    ("errors", texts r.errors),
    ("warnings", texts r.warnings)]
  named ++ matched ++ lists

def toJson : Printed → Json
  | error message => .obj [("error", .str message)]
  | report r => .obj (reportFields r)
  | keyTable rows modifier modified =>
    .arr [
      .str "Rule condition keys",
      texts ["#", "key", "type", "requires"],
      .arr (rows.map (fun row => keyRow (toString row.1) row.2 (needOf row.2)) ++
        [keyRow "" modifier ("modifies '" ++ modified.name ++ "'")])]

end Printed
end RuleGate

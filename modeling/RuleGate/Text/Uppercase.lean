import RuleGate.Text.UpperTable

/-!
# Upper case

The full upper-case mapping of Unicode 14. It looks at one character at a time, and some
characters become several.
-/

namespace RuleGate.Text

def upperChar (c : CodePoint) : Text :=
  match upperExpansions.find? (·.1 = c.toNat) with
  | some e => ofList (e.2.map Char.ofNat)
  | none => [mapIn upperRuns c]

def upper (t : Text) : Text :=
  t.flatMap upperChar

end RuleGate.Text

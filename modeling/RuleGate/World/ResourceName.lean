import RuleGate.Text.Blank

/-!
# Resource names

Blocks, items, biomes, dimensions and structures are named by a namespace and a path with a colon
between them. A name without a colon belongs to the default namespace. Every table is keyed by the
normal form, so two spellings of one name are one key.
-/

namespace RuleGate.ResourceName

def defaultNamespace : Text := "minecraft"

/-- The name with its namespace and without blanks around it. -/
def normalise (name : Text) : Text :=
  let bare := Text.strip name
  if bare.contains ':' then bare else defaultNamespace ++ ":" ++ bare

/-- What stands before the first colon of the normal form. -/
def namespaceOf (name : Text) : Text :=
  (normalise name).takeWhile (· ≠ ':')

end RuleGate.ResourceName

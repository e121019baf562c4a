import RuleGate.Text.Lowercase

/-!
# Finite sets of named things

A finite type whose members have names. A name is found either exactly or regardless of blanks
around it and of letter case.
-/

namespace RuleGate

class Named (α : Type) where
  all : List α
  name : α → Text

namespace Named

variable {α : Type} [Named α]

def ofName? (s : Text) : Option α :=
  all.find? fun a => name a = s

def ofLooseName? (s : Text) : Option α :=
  ofName? (Text.lower (Text.strip s))

end Named
end RuleGate

import RuleGate.Text.Quoted

/-!
# UTF-8

A decoder that reads bytes one at a time and, where the bytes are no text, says which of them are
at fault: from the lead byte up to the first byte that cannot continue the character. The other way
a text has bytes unless it holds half of a surrogate pair; but 128 of the halves stand for the
single bytes beyond ASCII, and these do no harm.
-/

namespace RuleGate.Text.Utf8

inductive Reason
  | start
  | continuation
  | truncated

structure Fault where
  lead : UInt8
  first : Nat
  /-- One past the last byte at fault. -/
  stop : Nat
  reason : Reason

def Reason.message : Reason → Text
  | .start => "invalid start byte"
  | .continuation => "invalid continuation byte"
  | .truncated => "unexpected end of data"

def Fault.message (f : Fault) : Text :=
  let place : Text :=
    if f.stop = f.first + 1 then
      "byte 0x" ++ hex 2 f.lead.toNat ++ s!" in position {f.first}"
    else s!"bytes in position {f.first}-{f.stop - 1}"
  "'utf-8' codec can't decode " ++ place ++ ": " ++ f.reason.message

/-- A character whose lead byte has been read. -/
structure Pending where
  lead : UInt8
  first : Nat
  code : Nat
  /-- Continuation bytes still to come. -/
  left : Nat
  /-- Bounds of the next byte; only the second byte of a character may have narrower ones. -/
  low : Nat := 0x80
  high : Nat := 0xbf

def Pending.opened (lead : UInt8) (pos : Nat) : Option Pending :=
  let b := lead.toNat
  if 0xc2 ≤ b && b ≤ 0xdf then some { lead, first := pos, code := b - 0xc0, left := 1 }
  else if b = 0xe0 then some { lead, first := pos, code := 0, left := 2, low := 0xa0 }
  else if b = 0xed then some { lead, first := pos, code := 0xd, left := 2, high := 0x9f }
  else if 0xe1 ≤ b && b ≤ 0xef then some { lead, first := pos, code := b - 0xe0, left := 2 }
  else if b = 0xf0 then some { lead, first := pos, code := 0, left := 3, low := 0x90 }
  else if b = 0xf4 then some { lead, first := pos, code := 4, left := 3, high := 0x8f }
  else if 0xf1 ≤ b && b ≤ 0xf3 then some { lead, first := pos, code := b - 0xf0, left := 3 }
  else none

/-- Reads on at position `pos`, with the text before it in reverse order in `done`. -/
def decodeFrom (done : Text) (pos : Nat) :
    Option Pending → List UInt8 → Except Fault Text
  | none, [] => .ok done.reverse
  | some p, [] => .error ⟨p.lead, p.first, pos, .truncated⟩
  | none, b :: rest =>
    if b.toNat < 0x80 then decodeFrom (.char (Char.ofNat b.toNat) :: done) (pos + 1) none rest
    else
      match Pending.opened b pos with
      | some p => decodeFrom done (pos + 1) (some p) rest
      | none => .error ⟨b, pos, pos + 1, .start⟩
  | some p, b :: rest =>
    if p.low ≤ b.toNat && b.toNat ≤ p.high then
      let code := p.code * 0x40 + (b.toNat - 0x80)
      if p.left ≤ 1 then decodeFrom (.char (Char.ofNat code) :: done) (pos + 1) none rest
      else
        decodeFrom done (pos + 1)
          (some { lead := p.lead, first := p.first, code, left := p.left - 1 }) rest
    else .error ⟨p.lead, p.first, pos, .continuation⟩

def decode (bytes : List UInt8) : Except Fault Text :=
  decodeFrom [] 0 none bytes

/-- Whether half of a pair stands for a single byte. -/
def isByteHalf (c : CodePoint) : Bool :=
  0xdc80 ≤ c.toNat && c.toNat ≤ 0xdcff

def byteCount : Text → Nat
  | [] => 0
  | .char c :: rest => c.utf8Size + byteCount rest
  | .half _ :: rest => 1 + byteCount rest

/-- Halves of pairs in a row, of which the first has no bytes. -/
structure Unencodable where
  half : CodePoint
  first : Nat
  /-- One past the last half. -/
  stop : Nat

def unencodableFrom? (pos : Nat) : Text → Option Unencodable
  | [] => none
  | c :: rest =>
    if c.isHalf && !isByteHalf c then
      some ⟨c, pos, pos + 1 + (rest.takeWhile CodePoint.isHalf).length⟩
    else unencodableFrom? (pos + 1) rest

def unencodable? (t : Text) : Option Unencodable :=
  unencodableFrom? 0 t

def Unencodable.message (u : Unencodable) : Text :=
  let place : Text :=
    if u.stop = u.first + 1 then
      "character '" ++ codeEscape u.half ++ s!"' in position {u.first}"
    else s!"characters in position {u.first}-{u.stop - 1}"
  "'utf-8' codec can't encode " ++ place ++ ": surrogates not allowed"

end RuleGate.Text.Utf8

namespace RuleGate.Text

/-- Every line end, of one or two characters, becomes a line feed. -/
def lineFeeds : Text → Text
  | [] => []
  | .char '\r' :: .char '\n' :: rest => '\n' :: lineFeeds rest
  | .char '\r' :: rest => '\n' :: lineFeeds rest
  | c :: rest => c :: lineFeeds rest

end RuleGate.Text

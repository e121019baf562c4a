import Mathlib.Data.List.Basic
import RuleGate.Text.Utf8

/-!
# What the decoder accepts

The decoder of UTF-8 accepts exactly the bytes that characters have, and gives these characters back
(`decode_eq_ok_iff`). Read byte by byte, a character is a lead byte and the bytes that complete it
(`Pending.Completes`). What completes a lead byte makes the bytes of a character
(`exists_encodeChar_eq`), and each character is made in this way (`exists_completes_encodeChar`).
-/

namespace RuleGate.Text.Utf8

def encode (cs : List Char) : List UInt8 :=
  cs.flatMap String.utf8EncodeChar

/-- The character that is read on with one more byte. -/
def Pending.next (p : Pending) (b : UInt8) : Pending where
  lead := p.lead
  first := p.first
  code := p.code * 0x40 + (b.toNat - 0x80)
  left := p.left - 1

@[simp] theorem Pending.code_next (p : Pending) (b : UInt8) :
    (p.next b).code = p.code * 0x40 + (b.toNat - 0x80) := rfl

@[simp] theorem Pending.left_next (p : Pending) (b : UInt8) : (p.next b).left = p.left - 1 := rfl

@[simp] theorem Pending.low_next (p : Pending) (b : UInt8) : (p.next b).low = 0x80 := rfl

@[simp] theorem Pending.high_next (p : Pending) (b : UInt8) : (p.next b).high = 0xbf := rfl

/-- The bytes that complete a character, and its code. -/
inductive Pending.Completes : Pending → List UInt8 → Nat → Prop
  | last {p : Pending} {b : UInt8} (hleft : p.left ≤ 1) (hlow : p.low ≤ b.toNat)
      (hhigh : b.toNat ≤ p.high) : Completes p [b] (p.next b).code
  | more {p : Pending} {b : UInt8} {bs : List UInt8} {v : Nat} (hleft : ¬ p.left ≤ 1)
      (hlow : p.low ≤ b.toNat) (hhigh : b.toNat ≤ p.high) (h : Completes (p.next b) bs v) :
      Completes p (b :: bs) v

variable {done t : Text} {pos : Nat} {p : Pending} {b : UInt8} {bs bytes : List UInt8} {v : Nat}

theorem decodeFrom_some_cons (rest : List UInt8) :
    decodeFrom done pos (some p) (b :: rest) =
      if p.low ≤ b.toNat ∧ b.toNat ≤ p.high then
        if p.left ≤ 1 then
          decodeFrom (.char (Char.ofNat (p.next b).code) :: done) (pos + 1) none rest
        else decodeFrom done (pos + 1) (some (p.next b)) rest
      else .error ⟨p.lead, p.first, pos, .continuation⟩ := by
  rw [decodeFrom]
  simp only [Bool.and_eq_true, decide_eq_true_iff]
  rfl

theorem decodeFrom_completes (h : p.Completes bs v) (rest : List UInt8) :
    decodeFrom done pos (some p) (bs ++ rest) =
      decodeFrom (.char (Char.ofNat v) :: done) (pos + bs.length) none rest := by
  induction h generalizing pos with
  | last hleft hlow hhigh =>
    rw [List.singleton_append, decodeFrom_some_cons, if_pos ⟨hlow, hhigh⟩, if_pos hleft]
    rfl
  | more hleft hlow hhigh _ ih =>
    rw [List.cons_append, decodeFrom_some_cons, if_pos ⟨hlow, hhigh⟩, if_neg hleft, ih,
      List.length_cons, Nat.add_assoc, Nat.add_comm 1]

theorem exists_completes (h : decodeFrom done pos (some p) bytes = .ok t) :
    ∃ bs v rest, bytes = bs ++ rest ∧ p.Completes bs v := by
  induction bytes generalizing pos p with
  | nil => cases h
  | cons b rest ih =>
    rw [decodeFrom_some_cons] at h
    split_ifs at h with hbounds hleft
    · exact ⟨[b], _, rest, rfl, .last hleft hbounds.1 hbounds.2⟩
    · obtain ⟨bs, v, others, rfl, hbs⟩ := ih h
      exact ⟨b :: bs, v, others, rfl, .more hleft hbounds.1 hbounds.2 hbs⟩

theorem toNat_ofNat (h : v.isValidChar) : (Char.ofNat v).toNat = v := by
  rw [Char.ofNat, dif_pos h]
  rfl

theorem toNat_lt (c : Char) : c.toNat < 0xd800 ∨ 0xdfff < c.toNat ∧ c.toNat < 0x110000 :=
  c.valid

/-! The bytes of a character, by how many there are. -/

theorem encodeChar_one {c : Char} (h : c.toNat < 0x80) :
    String.utf8EncodeChar c = [UInt8.ofNat c.toNat] := by
  change c.val.toNat < 0x80 at h
  unfold String.utf8EncodeChar
  rw [if_pos (by omega)]
  rfl

theorem encodeChar_two {c : Char} (hlow : 0x80 ≤ c.toNat) (hhigh : c.toNat < 0x800) :
    String.utf8EncodeChar c =
      [UInt8.ofNat (c.toNat / 64 + 192), UInt8.ofNat (c.toNat % 64 + 128)] := by
  change 0x80 ≤ c.val.toNat at hlow
  change c.val.toNat < 0x800 at hhigh
  unfold String.utf8EncodeChar
  rw [if_neg (by omega), if_pos (by omega), Nat.mod_eq_of_lt (b := 32) (by omega)]
  rfl

theorem encodeChar_three {c : Char} (hlow : 0x800 ≤ c.toNat) (hhigh : c.toNat < 0x10000) :
    String.utf8EncodeChar c = [UInt8.ofNat (c.toNat / 4096 + 224),
      UInt8.ofNat (c.toNat / 64 % 64 + 128), UInt8.ofNat (c.toNat % 64 + 128)] := by
  change 0x800 ≤ c.val.toNat at hlow
  change c.val.toNat < 0x10000 at hhigh
  unfold String.utf8EncodeChar
  rw [if_neg (by omega), if_neg (by omega), if_pos (by omega),
    Nat.mod_eq_of_lt (b := 16) (by omega)]
  rfl

theorem encodeChar_four {c : Char} (hlow : 0x10000 ≤ c.toNat) :
    String.utf8EncodeChar c = [UInt8.ofNat (c.toNat / 262144 + 240),
      UInt8.ofNat (c.toNat / 4096 % 64 + 128), UInt8.ofNat (c.toNat / 64 % 64 + 128),
      UInt8.ofNat (c.toNat % 64 + 128)] := by
  have hvalid := toNat_lt c
  change 0x10000 ≤ c.val.toNat at hlow
  change c.val.toNat < 0xd800 ∨ 0xdfff < c.val.toNat ∧ c.val.toNat < 0x110000 at hvalid
  unfold String.utf8EncodeChar
  rw [if_neg (by omega), if_neg (by omega), if_neg (by omega), Nat.mod_eq_of_lt (b := 8) (by omega)]
  rfl

/-- Every lead byte opens a character whose next byte is bounded so that no shorter form, no half
of a pair and no code beyond the last one can be completed. -/
theorem opened_cases (h : Pending.opened b pos = some p) :
    (p.left = 1 ∧ p.code + 0xc0 = b.toNat ∧ 2 ≤ p.code ∧ p.code < 0x20 ∧
      p.low = 0x80 ∧ p.high = 0xbf) ∨
    (p.left = 2 ∧ p.code + 0xe0 = b.toNat ∧ p.code < 0x10 ∧
      (p.code = 0 → p.low = 0xa0) ∧ (p.code ≠ 0 → p.low = 0x80) ∧
      (p.code = 0xd → p.high = 0x9f) ∧ (p.code ≠ 0xd → p.high = 0xbf)) ∨
    (p.left = 3 ∧ p.code + 0xf0 = b.toNat ∧ p.code < 5 ∧
      (p.code = 0 → p.low = 0x90) ∧ (p.code ≠ 0 → p.low = 0x80) ∧
      (p.code = 4 → p.high = 0x8f) ∧ (p.code ≠ 4 → p.high = 0xbf)) := by
  unfold Pending.opened at h
  simp only [Bool.and_eq_true, decide_eq_true_iff] at h
  split_ifs at h <;> cases h <;> simp <;> omega

theorem exists_opened {n : Nat} (hlow : 0xc2 ≤ n) (hhigh : n ≤ 0xf4) (pos : Nat) :
    (UInt8.ofNat n).toNat = n ∧ ∃ p, Pending.opened (UInt8.ofNat n) pos = some p := by
  have hlead : (UInt8.ofNat n).toNat = n := by
    rw [UInt8.toNat_ofNat']
    omega
  refine ⟨hlead, ?_⟩
  unfold Pending.opened
  simp only [hlead, Bool.and_eq_true, decide_eq_true_iff]
  split_ifs
  case neg => omega
  all_goals exact ⟨_, rfl⟩

theorem completes_one_iff (hleft : p.left = 1) :
    p.Completes bs v ↔ ∃ b, bs = [b] ∧ p.low ≤ b.toNat ∧ b.toNat ≤ p.high ∧
      v = (p.next b).code := by
  constructor
  · intro h
    cases h with
    | last _ hlow hhigh => exact ⟨_, rfl, hlow, hhigh, rfl⟩
    | more hmore => omega
  · rintro ⟨b, rfl, hlow, hhigh, hv⟩
    rw [hv]
    exact .last (by omega) hlow hhigh

theorem completes_more_iff (hleft : 1 < p.left) :
    p.Completes bs v ↔ ∃ b rest, bs = b :: rest ∧ p.low ≤ b.toNat ∧ b.toNat ≤ p.high ∧
      (p.next b).Completes rest v := by
  constructor
  · intro h
    cases h with
    | last hone => omega
    | more _ hlow hhigh h => exact ⟨_, _, rfl, hlow, hhigh, h⟩
  · rintro ⟨b, rest, rfl, hlow, hhigh, h⟩
    exact .more (by omega) hlow hhigh h

/-- A number that is a code is that of a character, and bytes are its bytes if their numbers
agree. -/
theorem exists_char (h : v < 0xd800 ∨ 0xdfff < v ∧ v < 0x110000)
    (hbytes : ∀ c : Char, c.toNat = v → (String.utf8EncodeChar c).map UInt8.toNat =
      bytes.map UInt8.toNat) :
    ∃ c : Char, c.toNat = v ∧ String.utf8EncodeChar c = bytes := by
  have hc : (Char.ofNat v).toNat = v := toNat_ofNat h
  exact ⟨Char.ofNat v, hc, List.map_injective_iff.2 (fun _ _ => UInt8.toNat_inj.1) (hbytes _ hc)⟩

theorem exists_encodeChar_eq (hopened : Pending.opened b pos = some p) (h : p.Completes bs v) :
    ∃ c : Char, c.toNat = v ∧ String.utf8EncodeChar c = b :: bs := by
  rcases opened_cases hopened with ⟨hleft, hcode, hbounds⟩ | ⟨hleft, hcode, hbounds⟩ |
    ⟨hleft, hcode, hbounds⟩
  · obtain ⟨b₁, rfl, hb₁⟩ := (completes_one_iff hleft).1 h
    simp only [Pending.code_next] at hb₁
    refine exists_char (by omega) fun c hc => ?_
    rw [encodeChar_two (by omega) (by omega)]
    simp only [List.map_cons, List.map_nil, UInt8.toNat_ofNat', List.cons.injEq, and_true]
    omega
  · obtain ⟨b₁, rest, rfl, hlow, hhigh, h⟩ := (completes_more_iff (by omega)).1 h
    obtain ⟨b₂, rfl, hb₂⟩ := (completes_one_iff (by simp [hleft])).1 h
    simp only [Pending.low_next, Pending.high_next, Pending.code_next] at hb₂
    refine exists_char (by omega) fun c hc => ?_
    rw [encodeChar_three (by omega) (by omega)]
    simp only [List.map_cons, List.map_nil, UInt8.toNat_ofNat', List.cons.injEq, and_true]
    omega
  · obtain ⟨b₁, rest, rfl, hlow, hhigh, h⟩ := (completes_more_iff (by omega)).1 h
    obtain ⟨b₂, rest, rfl, hlow₂, hhigh₂, h⟩ := (completes_more_iff (by simp [hleft])).1 h
    obtain ⟨b₃, rfl, hb₃⟩ := (completes_one_iff (by simp [hleft])).1 h
    simp only [Pending.low_next, Pending.high_next, Pending.code_next] at hlow₂ hhigh₂ hb₃
    refine exists_char (by omega) fun c hc => ?_
    rw [encodeChar_four (by omega)]
    simp only [List.map_cons, List.map_nil, UInt8.toNat_ofNat', List.cons.injEq, and_true]
    omega

theorem toNat_continuation (n : Nat) : (UInt8.ofNat (n % 64 + 128)).toNat = n % 64 + 128 := by
  rw [UInt8.toNat_ofNat']
  omega

/-- The first byte of a character that has several opens it, and the others complete it. -/
theorem exists_completes_encodeChar {c : Char} (hc : 0x80 ≤ c.toNat) (pos : Nat) :
    ∃ b p bs, String.utf8EncodeChar c = b :: bs ∧ 0x80 ≤ b.toNat ∧
      Pending.opened b pos = some p ∧ p.Completes bs c.toNat := by
  have hvalid := toNat_lt c
  have hsecond := toNat_continuation (c.toNat / 64)
  have hlast := toNat_continuation c.toNat
  by_cases htwo : c.toNat < 0x800
  · obtain ⟨hlead, p, hp⟩ := exists_opened (n := c.toNat / 64 + 192) (by omega) (by omega) pos
    have hcases := opened_cases hp
    refine ⟨_, p, _, encodeChar_two hc htwo, by omega, hp, ?_⟩
    refine (completes_one_iff (by omega)).2 ⟨_, rfl, ?_⟩
    simp only [Pending.code_next]
    omega
  by_cases hthree : c.toNat < 0x10000
  · obtain ⟨hlead, p, hp⟩ := exists_opened (n := c.toNat / 4096 + 224) (by omega) (by omega) pos
    have hcases := opened_cases hp
    refine ⟨_, p, _, encodeChar_three (by omega) hthree, by omega, hp, ?_⟩
    refine (completes_more_iff (by omega)).2 ⟨_, _, rfl, by omega, by omega, ?_⟩
    refine (completes_one_iff (by simp only [Pending.left_next]; omega)).2 ⟨_, rfl, ?_⟩
    simp only [Pending.low_next, Pending.high_next, Pending.code_next]
    omega
  · obtain ⟨hlead, p, hp⟩ := exists_opened (n := c.toNat / 262144 + 240) (by omega) (by omega) pos
    have hthird := toNat_continuation (c.toNat / 4096)
    have hcases := opened_cases hp
    refine ⟨_, p, _, encodeChar_four (by omega), by omega, hp, ?_⟩
    refine (completes_more_iff (by omega)).2 ⟨_, _, rfl, by omega, by omega, ?_⟩
    refine (completes_more_iff (by simp only [Pending.left_next]; omega)).2 ⟨_, _, rfl, ?_, ?_, ?_⟩
    · simp only [Pending.low_next]
      omega
    · simp only [Pending.high_next]
      omega
    refine (completes_one_iff (by simp only [Pending.left_next]; omega)).2 ⟨_, rfl, ?_⟩
    simp only [Pending.low_next, Pending.high_next, Pending.code_next]
    omega

theorem decodeFrom_encodeChar (c : Char) (rest : List UInt8) :
    decodeFrom done pos none (String.utf8EncodeChar c ++ rest) =
      decodeFrom (.char c :: done) (pos + (String.utf8EncodeChar c).length) none rest := by
  by_cases hc : c.toNat < 0x80
  · have hb : (UInt8.ofNat c.toNat).toNat = c.toNat := by
      rw [UInt8.toNat_ofNat']
      omega
    rw [encodeChar_one hc, List.singleton_append, decodeFrom, hb, if_pos hc, Char.ofNat_toNat]
    rfl
  · obtain ⟨b, p, bs, hbytes, hb, hopened, hbs⟩ :=
      exists_completes_encodeChar (Nat.le_of_not_lt hc) pos
    rw [hbytes, List.cons_append, decodeFrom, if_neg (by omega), hopened]
    dsimp only
    rw [decodeFrom_completes hbs, Char.ofNat_toNat, List.length_cons, Nat.add_assoc, Nat.add_comm 1]

theorem exists_encodeChar_append (hne : bytes ≠ []) (h : decodeFrom done pos none bytes = .ok t) :
    ∃ c rest, bytes = String.utf8EncodeChar c ++ rest := by
  obtain ⟨b, rest, rfl⟩ := List.exists_cons_of_ne_nil hne
  rw [decodeFrom] at h
  split at h
  case isTrue hb =>
    have hchar : (Char.ofNat b.toNat).toNat = b.toNat := toNat_ofNat (.inl (by omega))
    refine ⟨Char.ofNat b.toNat, rest, ?_⟩
    rw [encodeChar_one (by omega), hchar, UInt8.ofNat_toNat]
    rfl
  case isFalse =>
    split at h
    case h_1 p hopened =>
      obtain ⟨bs, v, others, rfl, hbs⟩ := exists_completes h
      obtain ⟨c, _, hc⟩ := exists_encodeChar_eq hopened hbs
      exact ⟨c, others, by rw [hc]; rfl⟩
    case h_2 => cases h

theorem decodeFrom_encode (cs : List Char) :
    decodeFrom done pos none (encode cs) = .ok (done.reverse ++ cs.map .char) := by
  induction cs generalizing done pos with
  | nil => simp [encode, decodeFrom]
  | cons c rest ih =>
    rw [encode, List.flatMap_cons, decodeFrom_encodeChar, ← encode, ih]
    simp

theorem exists_eq_encode (h : decodeFrom done pos none bytes = .ok t) :
    ∃ cs, bytes = encode cs := by
  induction hlength : bytes.length using Nat.strongRecOn generalizing done pos bytes with
  | ind n ih =>
    by_cases hne : bytes = []
    · exact ⟨[], hne⟩
    · obtain ⟨c, rest, rfl⟩ := exists_encodeChar_append hne h
      rw [decodeFrom_encodeChar] at h
      have hpos : 0 < (String.utf8EncodeChar c).length :=
        List.length_pos_of_ne_nil String.utf8EncodeChar_ne_nil
      rw [List.length_append] at hlength
      obtain ⟨cs, rfl⟩ := ih rest.length (by omega) h rfl
      exact ⟨c :: cs, rfl⟩

/-- Bytes are decoded if and only if they are those of some characters, which are the text. -/
theorem decode_eq_ok_iff : decode bytes = .ok t ↔ ∃ cs, bytes = encode cs ∧ t = cs.map .char := by
  constructor
  · intro h
    obtain ⟨cs, rfl⟩ := exists_eq_encode h
    exact ⟨cs, rfl, (Except.ok.inj ((decodeFrom_encode cs).symm.trans h)).symm⟩
  · rintro ⟨cs, rfl, rfl⟩
    exact decodeFrom_encode cs

end RuleGate.Text.Utf8

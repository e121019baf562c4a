import RuleGate.Proofs.Descriptor.ItemMeaning
import RuleGate.Proofs.Descriptor.Single
import RuleGate.Proofs.Json.Equality
import RuleGate.Proofs.Json.Trailing
import RuleGate.Proofs.Text.Integer

/-!
# What compact texts mean

A compact text is a name, with a damage after `@` and a tag after `/` if these marks are there. It
compiles to a test of exactly the parts that it has (`ItemTest.compile_compactText`): a damage is
read as an integer and a tag as JSON, and a part of blanks alone means zero or no tag. Blanks around
the text make no difference. A text is refused for the first of its parts that cannot be read, and
compiling gives up only at a tag with an integer of too many digits, be the tag JSON or not.
-/

namespace RuleGate

open Text (isBlank strip)

namespace Text

variable {mark : CodePoint} {p : CodePoint → Bool} {t : Text}

def marked (mark : CodePoint) : Option Text → Text
  | none => []
  | some cs => mark :: cs

theorem splitAt_append_marked (h : mark ∉ t) (o : Option Text) :
    splitAt mark (t ++ marked mark o) = (t, o) := by
  cases o with
  | none => rw [marked, List.append_nil, splitAt_of_not_mem h]
  | some cs => exact splitAt_append h cs

theorem exists_append_marked (mark : CodePoint) (t : Text) :
    ∃ u o, t = u ++ marked mark o ∧ mark ∉ u := by
  by_cases hmem : mark ∈ t
  · obtain ⟨u, v, rfl, hu⟩ := List.eq_append_cons_of_mem hmem
    exact ⟨u, some v, rfl, hu⟩
  · exact ⟨t, none, (List.append_nil t).symm, hmem⟩

theorem dropWhile_append_cons (hmark : p mark = false) (u v : Text) :
    (u ++ mark :: v).dropWhile p = u.dropWhile p ++ mark :: v := by
  rw [List.dropWhile_append, List.dropWhile_cons_of_neg (by simp [hmark])]
  split
  case isTrue hnil => rw [List.isEmpty_iff.1 hnil, List.nil_append]
  case isFalse => rfl

theorem rdropWhile_append_cons (hmark : p mark = false) (u v : Text) :
    (u ++ mark :: v).rdropWhile p = u ++ mark :: v.rdropWhile p := by
  have hdrop := dropWhile_append_cons hmark v.reverse u.reverse
  rw [List.rdropWhile, List.rdropWhile, List.reverse_append, List.reverse_cons, List.append_assoc,
    List.singleton_append, hdrop]
  simp

theorem strip_append_cons (hmark : isBlank mark = false) (u v : Text) :
    strip (u ++ mark :: v) = u.dropWhile isBlank ++ mark :: v.rdropWhile isBlank := by
  rw [strip, trim_eq_rdropWhile, dropWhile_append_cons hmark, rdropWhile_append_cons hmark]

theorem strip_dropWhile (t : Text) : strip (t.dropWhile isBlank) = strip t := by
  rw [strip, strip, trim, trim, List.dropWhile_idempotent]

end Text

open Text (marked)

namespace Descriptor

theorem looksLikeJson_append {t u : Text} (ht : looksLikeJson t = false)
    (hu : looksLikeJson u = false) : looksLikeJson (t ++ u) = false := by
  cases t with
  | nil => exact hu
  | cons c t => exact ht

theorem looksLikeJson_marked {mark : CodePoint} (h : looksLikeJson [mark] = false)
    (o : Option Text) : looksLikeJson (marked mark o) = false := by
  cases o with
  | none => rfl
  | some cs => exact h

theorem looksLikeJson_dropWhile (t : Text) :
    looksLikeJson (t.dropWhile isBlank) = looksLikeJson (strip t) := by
  rw [strip, Text.trim_eq_rdropWhile]
  generalize hu : t.dropWhile isBlank = u
  cases u with
  | nil => rfl
  | cons c u =>
    have hself : (c :: u).dropWhile isBlank = c :: u := by rw [← hu, List.dropWhile_idempotent]
    have hc : isBlank c = false := by
      simpa using List.dropWhile_eq_self_iff.1 hself
    rw [← List.nil_append (c :: u), Text.rdropWhile_append_cons hc]
    rfl

end Descriptor

namespace ItemTest

open Descriptor (looksLikeJson)

variable {r : Registry} {raw g : Json} {name whole cs : Text} {damagePart tagPart : Option Text}
  {damage : Option ℤ} {tag : Option Json}

/-- The text `name@damage/tag`, with or without each of the two parts. -/
def compactText (name : Text) (damagePart tagPart : Option Text) : Text :=
  name ++ marked '@' damagePart ++ marked '/' tagPart

/-- Each mark comes first where it is meant. -/
structure Parted (name : Text) (damagePart : Option Text) : Prop where
  at_notMem : .char '@' ∉ name
  slash_notMem : .char '/' ∉ name
  slash_notMem_damage : ∀ cs, damagePart = some cs → .char '/' ∉ cs

theorem Parted.slash_notMem_append (h : Parted name damagePart) :
    .char '/' ∉ name ++ marked '@' damagePart := by
  rw [List.mem_append, not_or]
  refine ⟨h.slash_notMem, ?_⟩
  cases damagePart with
  | none => exact List.not_mem_nil
  | some cs =>
    rw [marked, List.mem_cons, not_or]
    exact ⟨by decide, h.slash_notMem_damage cs rfl⟩

theorem compileCompact_parts (h : Parted name damagePart) (tagPart : Option Text) :
    compileCompact r (compactText name damagePart tagPart) = (do
      let item ← knownItem r name
      let damage ← Descriptor.onPart (compactDamage (compactText name damagePart tagPart)) damagePart
      let tag ← Descriptor.onPart (compactTag (compactText name damagePart tagPart)) tagPart
      return compact item damage (tag.map presentTag)) := by
  have hslash := Text.splitAt_append_marked h.slash_notMem_append tagPart
  have hat := Text.splitAt_append_marked h.at_notMem damagePart
  simp only [compileCompact, compactText, hslash, hat]

theorem exists_parts (whole : Text) : ∃ name damagePart tagPart,
    whole = compactText name damagePart tagPart ∧ Parted name damagePart := by
  obtain ⟨named, tagPart, rfl, hslash⟩ := Text.exists_append_marked '/' whole
  obtain ⟨name, damagePart, rfl, hat⟩ := Text.exists_append_marked '@' named
  rw [List.mem_append, not_or] at hslash
  refine ⟨name, damagePart, tagPart, rfl, hat, hslash.1, ?_⟩
  rintro cs rfl hmem
  exact hslash.2 (List.mem_cons_of_mem _ hmem)

/-- What the damage of a compact text says; blanks alone say zero. -/
inductive SaysDamage : Option Text → Option ℤ → Prop
  | absent : SaysDamage none none
  | blank {cs : Text} (h : cs.all isBlank) : SaysDamage (some cs) (some 0)
  | number {cs : Text} {d : ℤ} (h : Text.integer? cs = some d) : SaysDamage (some cs) (some d)

/-- What the tag of a compact text says; blanks alone say that there is none. -/
inductive SaysTag : Option Text → Option Json → Prop
  | absent : SaysTag none none
  | blank {cs : Text} (h : cs.all isBlank) : SaysTag (some cs) (some .null)
  | json {cs : Text} {g : Json} (h : Json.read cs = .ok g) : SaysTag (some cs) (some g)

theorem not_all_isBlank_of_integer? {d : ℤ} (h : Text.integer? cs = some d) :
    ¬ cs.all isBlank := by
  obtain ⟨hne, hbody⟩ := Text.of_integer? h
  obtain ⟨left, right, hcs, -, -⟩ := Text.exists_eq_append_trim Text.isSpace cs
  obtain ⟨c, hc⟩ := List.exists_mem_of_ne_nil _ hne
  intro hall
  have hmem : c ∈ cs := by
    rw [hcs]
    exact List.mem_append_left _ (List.mem_append_right _ hc)
  have hblank := List.all_eq_true.1 hall c hmem
  rw [(hbody c hc).1] at hblank
  cases hblank

theorem SaysDamage.onPart_eq_ok (h : SaysDamage damagePart damage) :
    Descriptor.onPart (compactDamage whole) damagePart = .ok damage := by
  cases h with
  | absent => rfl
  | blank hblank => rw [Descriptor.onPart, compactDamage, if_pos hblank]; rfl
  | number hnumber =>
    rw [Descriptor.onPart, compactDamage, if_neg (not_all_isBlank_of_integer? hnumber), hnumber]
    rfl

theorem SaysTag.onPart_eq_ok (h : SaysTag tagPart tag) :
    Descriptor.onPart (compactTag whole) tagPart = .ok tag := by
  cases h with
  | absent => rfl
  | blank hblank => rw [Descriptor.onPart, compactTag, if_pos hblank]; rfl
  | json hread =>
    rw [Descriptor.onPart, compactTag, if_neg (Json.not_all_isBlank_of_read hread), hread]
    rfl

theorem SaysDamage.slash_notMem (h : SaysDamage (some cs) damage) : .char '/' ∉ cs := by
  cases h with
  | blank hblank => exact Text.not_mem_of_forall_isBlank (List.all_eq_true.1 hblank) (by decide)
  | number hnumber => exact Text.slash_notMem_of_integer? hnumber

theorem all_isBlank_rdropWhile (h : cs.all isBlank) : (cs.rdropWhile isBlank).all isBlank := by
  rw [List.rdropWhile_eq_nil_iff.2 (List.all_eq_true.1 h)]
  rfl

theorem SaysDamage.rdropWhile (h : SaysDamage (some cs) damage) :
    SaysDamage (some (cs.rdropWhile isBlank)) damage := by
  cases h with
  | blank hblank => exact .blank (all_isBlank_rdropWhile hblank)
  | number hnumber => exact .number (Text.integer?_rdropWhile hnumber)

theorem SaysTag.rdropWhile (h : SaysTag (some cs) tag) :
    SaysTag (some (cs.rdropWhile isBlank)) tag := by
  cases h with
  | blank hblank => exact .blank (all_isBlank_rdropWhile hblank)
  | json hread => exact .json (Json.read_rdropWhile hread)

theorem SaysTag.proper (h : SaysTag tagPart (some g)) : g.Proper := by
  cases h with
  | blank _ => exact .of_isSingle rfl
  | json hread => exact Json.proper_of_read hread

/-- A known name that is not taken for anything else. -/
structure PlainName (r : Registry) (name : Text) : Prop where
  known : r.hasItem name
  at_notMem : .char '@' ∉ name
  slash_notMem : .char '/' ∉ name
  isName : looksLikeJson (strip name) = false

theorem PlainName.knownItem_eq_ok (h : PlainName r name) :
    knownItem r name = .ok (ResourceName.normalise name) :=
  if_pos h.known

/-- A name without the blanks in front of it, or at both of its ends. -/
theorem PlainName.trimmed {name' : Text} (h : PlainName r name)
    (hname' : name' = name.dropWhile isBlank ∨ name' = strip name) :
    PlainName r name' ∧ strip name' = strip name ∧ looksLikeJson name' = false := by
  have hpart : name' ⊆ name := by
    rcases hname' with rfl | rfl
    · exact (List.dropWhile_suffix _).subset
    · exact (Text.strip_infix name).subset
  have hsame : strip name' = strip name := by
    rcases hname' with rfl | rfl
    · exact Text.strip_dropWhile name
    · exact Text.trim_trim isBlank name
  have hfront : looksLikeJson name' = false := by
    rcases hname' with rfl | rfl
    · rw [Descriptor.looksLikeJson_dropWhile, h.isName]
    · exact h.isName
  have hknown := r.hasItem_factorsThrough (ResourceName.normalise_congr hsame)
  have hplain : PlainName r name' :=
    ⟨hknown ▸ h.known, fun hmem => h.at_notMem (hpart hmem),
      fun hmem => h.slash_notMem (hpart hmem), hsame ▸ h.isName⟩
  exact ⟨hplain, hsame, hfront⟩

/-- Without the blanks around it a text has the same parts, but for such blanks. -/
theorem exists_strip_compactText (name : Text) (hdamage : SaysDamage damagePart damage)
    (htag : SaysTag tagPart tag) : ∃ name' damagePart' tagPart',
      strip (compactText name damagePart tagPart) = compactText name' damagePart' tagPart' ∧
      (name' = name.dropWhile isBlank ∨ name' = strip name) ∧
      SaysDamage damagePart' damage ∧ SaysTag tagPart' tag := by
  cases tagPart with
  | some cs =>
    refine ⟨name.dropWhile isBlank, damagePart, some (cs.rdropWhile isBlank), ?_, .inl rfl, hdamage,
      htag.rdropWhile⟩
    rw [compactText, compactText, marked, Text.strip_append_cons (by decide)]
    cases damagePart with
    | none => simp [marked]
    | some cs' => rw [marked, Text.dropWhile_append_cons (by decide), marked]
  | none =>
    cases damagePart with
    | some cs =>
      refine ⟨name.dropWhile isBlank, some (cs.rdropWhile isBlank), none, ?_, .inl rfl,
        hdamage.rdropWhile, htag⟩
      simp only [compactText, marked, List.append_nil]
      exact Text.strip_append_cons (by decide) name cs
    | none =>
      refine ⟨strip name, none, none, ?_, .inr rfl, hdamage, htag⟩
      simp only [compactText, marked, List.append_nil]

/-- A text of plain parts is compiled to the test of what they say. -/
theorem compile_of_says (hname : PlainName r name) (hdamage : SaysDamage damagePart damage)
    (htag : SaysTag tagPart tag) : compile r (.str (compactText name damagePart tagPart)) =
      .ok (compact (ResourceName.normalise name) damage (tag.map presentTag)) := by
  obtain ⟨name', damagePart', tagPart', hstrip, hname', hdamage', htag'⟩ :=
    exists_strip_compactText name hdamage htag
  obtain ⟨hplain, hsame, hfront⟩ := hname.trimmed hname'
  have hparted : Parted name' damagePart' :=
    ⟨hplain.at_notMem, hplain.slash_notMem, fun cs hcs => (hcs ▸ hdamage').slash_notMem⟩
  have hlooks : looksLikeJson (compactText name' damagePart' tagPart') = false :=
    Descriptor.looksLikeJson_append
      (Descriptor.looksLikeJson_append hfront (Descriptor.looksLikeJson_marked rfl _))
      (Descriptor.looksLikeJson_marked rfl _)
  have hdecode : Descriptor.decode (.str (compactText name damagePart tagPart)) =
      .ok (.str (compactText name' damagePart' tagPart')) :=
    Descriptor.decode_eq_str_iff.2 (.inr ⟨_, rfl, hstrip ▸ hlooks, hstrip.symm⟩)
  rw [compile_of_decode_str hdecode, compileCompact_parts hparted, hplain.knownItem_eq_ok,
    hdamage'.onPart_eq_ok, htag'.onPart_eq_ok, ResourceName.normalise_congr hsame]
  rfl

end ItemTest

/-- Whatever counts as nothing stands for no tag, be it missing or empty; any other value is the tag
if it is equal to it. -/
def ItemStack.HasTag (s : ItemStack) (g : Json) : Prop :=
  if g.isNothing then s.compound = [] else Json.Equal (.obj s.compound) g

namespace ItemTest

variable {s : ItemStack}

theorem not_equal_obj_nil (hg : g.isNothing = false) : ¬ Json.Equal (.obj []) g := by
  rw [Json.equal_obj_iff]
  rintro ⟨gs, rfl, hnames, -⟩
  cases gs with
  | nil => cases hg
  | cons field gs =>
    have hsome : (Table.get? (field :: gs) field.1).isSome :=
      Table.isSome_get?_iff.2 ⟨field, List.mem_cons_self, rfl⟩
    exact absurd ((hnames field.1).2 hsome) (by simp)

theorem tagOf_of_eq_nil (h : s.compound = []) : tagOf s = .null := by
  rcases htag : s.tag with _ | _ | ⟨field, fields⟩
  · rw [tagOf, htag]
  · rw [tagOf, htag]
  · rw [ItemStack.compound, htag] at h
    cases h

theorem tagOf_of_ne_nil (h : s.compound ≠ []) : tagOf s = .obj s.compound := by
  rcases htag : s.tag with _ | _ | ⟨field, fields⟩
  · exact absurd (by rw [ItemStack.compound, htag]; rfl) h
  · exact absurd (by rw [ItemStack.compound, htag]; rfl) h
  · rw [tagOf, ItemStack.compound, htag]
    rfl

theorem same_tagOf_iff (hs : (Json.obj s.compound).Proper) (hg : g.Proper) :
    Json.same (tagOf s) (presentTag g) = true ↔ s.HasTag g := by
  unfold ItemStack.HasTag presentTag
  cases hnothing : g.isNothing with
  | true =>
    rw [if_pos rfl, if_pos rfl]
    by_cases hnil : s.compound = []
    · rw [tagOf_of_eq_nil hnil]
      exact iff_of_true rfl hnil
    · rw [tagOf_of_ne_nil hnil]
      exact iff_of_false Bool.false_ne_true hnil
  | false =>
    rw [if_neg Bool.false_ne_true, if_neg Bool.false_ne_true]
    by_cases hnil : s.compound = []
    · rw [tagOf_of_eq_nil hnil, hnil]
      refine iff_of_false (fun hsame => ?_) (not_equal_obj_nil hnothing)
      cases g with
      | null => cases hnothing
      | _ => cases hsame
    · rw [tagOf_of_ne_nil hnil]
      exact Json.same_iff_equal _ _ hs hg

/-- The stack is the item, with the damage and the tag that are asked for. -/
structure Shows (name : Text) (damage : Option ℤ) (tag : Option Json) (s : ItemStack) : Prop where
  item : s.item = ResourceName.normalise name
  damage : ∀ d, damage = some d → s.damage = d
  tag : ∀ g, tag = some g → s.HasTag g

theorem decides_holds_compact (hs : (Json.obj s.compound).Proper)
    (hproper : ∀ g, tag = some g → g.Proper) : Except.Decides
      ((compact (ResourceName.normalise name) damage (tag.map presentTag)).holds s)
      (Shows name damage tag s) := by
  refine ⟨_, rfl, ?_⟩
  have htag : ItemFields.wanted (Json.same (tagOf s)) (tag.map presentTag) = true ↔
      ∀ g, tag = some g → s.HasTag g := by
    cases tag with
    | none => simp [ItemFields.wanted]
    | some g => simpa [ItemFields.wanted] using same_tagOf_iff hs (hproper g rfl)
  rw [Bool.and_eq_true, Bool.and_eq_true, decide_eq_true_iff, htag, ItemFields.wanted_iff]
  simp only [decide_eq_true_iff]
  constructor
  · rintro ⟨⟨hitem, hdamage⟩, htag⟩
    exact ⟨hitem, hdamage, htag⟩
  · rintro ⟨hitem, hdamage, htag⟩
    exact ⟨⟨hitem, hdamage⟩, htag⟩

/-! ### What is refused -/

/-- A damage that is not blank and no integer. -/
def BadDamage (damagePart : Option Text) : Prop :=
  ∃ cs, damagePart = some cs ∧ ¬ cs.all isBlank ∧ Text.integer? cs = none

theorem exists_saysDamage_or_bad (damagePart : Option Text) :
    (∃ damage, SaysDamage damagePart damage) ∨ BadDamage damagePart := by
  cases damagePart with
  | none => exact .inl ⟨none, .absent⟩
  | some cs =>
    by_cases hblank : cs.all isBlank
    · exact .inl ⟨some 0, .blank hblank⟩
    · cases hread : Text.integer? cs with
      | some d => exact .inl ⟨some d, .number hread⟩
      | none => exact .inr ⟨cs, rfl, hblank, hread⟩

def Raises (x : Except Failure ItemTest) (kind : CompileError.Kind) (e : CompileError) : Prop :=
  x = .error (.compile e) ∧ e.kind = kind

/-- What is raised for a text of these parts: first for its name, then for its damage, then for its
tag. -/
structure Refuses (r : Registry) (raw : Json) (name : Text) (damagePart tagPart : Option Text) :
    Prop where
  unknown : ¬ r.hasItem name → Raises (compile r raw) .unknownItem (.unknownItem name)
  badDamage : r.hasItem name → BadDamage damagePart →
    Raises (compile r raw) .malformed (.badDamage (compactText name damagePart tagPart))
  badTag : r.hasItem name → ¬ BadDamage damagePart → ∀ cs, tagPart = some cs → ¬ cs.all isBlank →
    (∀ g, Json.read cs ≠ .ok g) → ¬ Json.OverlongText cs →
      Raises (compile r raw) .malformed (.badTagData (compactText name damagePart tagPart))
  /-- Reading the tag is given up because of an integer in it, be the tag JSON or not. -/
  stopped : r.hasItem name → ¬ BadDamage damagePart → ∀ cs, tagPart = some cs → ¬ cs.all isBlank →
    ∀ digits, Json.read cs = .error (.tooLong digits) →
      compile r raw = .error (.number (.tooLong digits)) ∧ Json.RunOfDigits digits cs

theorem compactDamage_of_bad (hblank : ¬ cs.all isBlank) (hread : Text.integer? cs = none) :
    compactDamage whole cs = .error (.compile (.badDamage whole)) := by
  rw [compactDamage, if_neg hblank, hread]

theorem compactTag_of_malformed {e : Json.SyntaxError} (hblank : ¬ cs.all isBlank)
    (hread : Json.read cs = .error (.malformed e)) :
    compactTag whole cs = .error (.compile (.badTagData whole)) := by
  rw [compactTag, if_neg hblank, hread]

theorem compactTag_of_tooLong {digits : ℕ} (hblank : ¬ cs.all isBlank)
    (hread : Json.read cs = .error (.tooLong digits)) :
    compactTag whole cs = .error (.number (.tooLong digits)) := by
  rw [compactTag, if_neg hblank, hread]

theorem refuses_of_decode (hparted : Parted name damagePart)
    (hdecode : Descriptor.decode raw = .ok (.str (compactText name damagePart tagPart))) :
    Refuses r raw name damagePart tagPart := by
  have hcompile : compile r raw = _ :=
    (compile_of_decode_str hdecode).trans (compileCompact_parts hparted tagPart)
  have hknown (h : r.hasItem name) : knownItem r name = .ok (ResourceName.normalise name) :=
    if_pos h
  refine ⟨fun hname => ?_, fun hname hbad => ?_, fun hname hfine cs hcs hblank hjson hshort => ?_,
    fun hname hfine cs hcs hblank digits hread => ⟨?_, Json.runOfDigits_of_tooLong hread⟩⟩
  · have hunknown : knownItem r name = .error (.compile (.unknownItem name)) := if_neg hname
    rw [hcompile, hunknown]
    exact ⟨rfl, rfl⟩
  · obtain ⟨cs, rfl, hblank, hread⟩ := hbad
    rw [hcompile, hknown hname, Descriptor.onPart, compactDamage_of_bad hblank hread]
    exact ⟨rfl, rfl⟩
  · obtain ⟨damage, hdamage⟩ := (exists_saysDamage_or_bad damagePart).resolve_right hfine
    subst hcs
    rcases hread : Json.read cs with (e | digits) | g
    · rw [hcompile, hknown hname, hdamage.onPart_eq_ok, Descriptor.onPart,
        compactTag_of_malformed hblank hread]
      exact ⟨rfl, rfl⟩
    · exact absurd ⟨digits, hread⟩ hshort
    · exact absurd hread (hjson g)
  · obtain ⟨damage, hdamage⟩ := (exists_saysDamage_or_bad damagePart).resolve_right hfine
    subst hcs
    rw [hcompile, hknown hname, hdamage.onPart_eq_ok, Descriptor.onPart,
      compactTag_of_tooLong hblank hread]
    rfl

/-- A text of plain parts compiles to a test of what they say, and every integer of not too many
digits is said by its text. Every text has parts, and what is raised for it is decided by the first
of them that cannot be read. -/
theorem compile_compactText (r : Registry) :
    (∀ {name damagePart tagPart damage tag}, PlainName r name → SaysDamage damagePart damage →
      SaysTag tagPart tag → ∃ t, compile r (.str (compactText name damagePart tagPart)) = .ok t ∧
        ∀ s : ItemStack, (Json.obj s.compound).Proper →
          Except.Decides (t.holds s) (Shows name damage tag s)) ∧
    (∀ d : ℤ, (Nat.toDigits 10 d.natAbs).length ≤ NumberFault.digitLimit →
      SaysDamage (some (toString d : String)) (some d)) ∧
    (∀ whole, ∃ name damagePart tagPart,
      whole = compactText name damagePart tagPart ∧ Parted name damagePart) ∧
    ∀ {raw name damagePart tagPart}, Parted name damagePart →
      Descriptor.decode raw = .ok (.str (compactText name damagePart tagPart)) →
        Refuses r raw name damagePart tagPart := by
  refine ⟨fun hname hdamage htag => ?_, fun d hlimit => .number (Text.integer?_toString d hlimit),
    exists_parts, refuses_of_decode⟩
  refine ⟨_, compile_of_says hname hdamage htag, fun s hs => ?_⟩
  exact decides_holds_compact hs fun g hg => (hg ▸ htag).proper

theorem compile_compactText_stick :
    PlainName sticks "stick" ∧ SaysDamage (some "5") (some 5) ∧
      SaysTag (some "\x7b\"a/b\": [1]\x7d ") (some (.obj [("a/b", .arr [.int 1])])) ∧
      ∃ t, compile sticks (.str "stick@5/\x7b\"a/b\": [1]\x7d ") = .ok t ∧
        ∀ s : ItemStack, (Json.obj s.compound).Proper → Except.Decides (t.holds s)
          (Shows "stick" (some 5) (some (.obj [("a/b", .arr [.int 1])])) s) := by
  have hname : PlainName sticks "stick" := ⟨by decide, by decide, by decide, by decide⟩
  have hdamage : SaysDamage (some "5") (some 5) := .number (by decide +kernel)
  have htag : SaysTag (some "\x7b\"a/b\": [1]\x7d ") (some (.obj [("a/b", .arr [.int 1])])) :=
    .json (by with_unfolding_all rfl)
  exact ⟨hname, hdamage, htag, (compile_compactText sticks).1 hname hdamage htag⟩

/-- An array that is not closed, of an integer with one digit more than are ever read. -/
def openDigits : Text :=
  .char '[' :: .char '1' :: List.replicate NumberFault.digitLimit (.char '1')

theorem read_openDigits : Json.read openDigits = .error (.tooLong 4301) := by
  have hdigits : ∀ d ∈ CodePoint.char '1' :: List.replicate NumberFault.digitLimit (.char '1'),
      d.isDigit := by
    intro d hd
    rw [← List.replicate_succ, List.mem_replicate] at hd
    rw [hd.2]
    rfl
  have hlength : (CodePoint.char '1' :: List.replicate NumberFault.digitLimit (.char '1')).length =
      4301 := by
    rw [List.length_cons, List.length_replicate, NumberFault.digitLimit]
  have hread := Json.read_openArray_of_digits hdigits (by decide)
    (by rw [List.length_cons, List.length_replicate]; exact Nat.lt_succ_self _)
  rwa [hlength] at hread

/-- It is no JSON, but it is not refused as bad tag data: compiling gives up at the integer. -/
theorem openDigits_stops : (∀ g, Json.read openDigits ≠ .ok g) ∧
    compile sticks (.str (compactText "stick" none (some openDigits))) =
      .error (.number (.tooLong 4301)) := by
  have hplain : ∀ c ∈ compactText "stick" none (some openDigits), isBlank c = false := by
    intro c hc
    simp only [compactText, marked, List.append_nil, List.mem_append, List.mem_cons, openDigits,
      List.mem_replicate] at hc
    rcases hc with hname | rfl | rfl | rfl | ⟨-, rfl⟩
    · revert c
      decide
    all_goals decide
  have hstrip : strip (compactText "stick" none (some openDigits)) =
      compactText "stick" none (some openDigits) :=
    Text.strip_of_not_isBlank (by simp [compactText, marked]) hplain
  have hdecode : Descriptor.decode (.str (compactText "stick" none (some openDigits))) =
      .ok (.str (compactText "stick" none (some openDigits))) :=
    Descriptor.decode_eq_str_iff.2 (.inr ⟨_, rfl, hstrip.symm ▸ rfl, hstrip.symm⟩)
  have hparted : Parted "stick" none := ⟨by decide, by decide, fun _ h => nomatch h⟩
  have hblank : ¬ openDigits.all isBlank := fun hall =>
    absurd (List.all_eq_true.1 hall _ List.mem_cons_self) (by decide)
  have hstops := (refuses_of_decode (r := sticks) hparted hdecode).stopped (by decide)
    (fun ⟨_, h, _, _⟩ => nomatch h) openDigits rfl hblank 4301 read_openDigits
  refine ⟨fun g hg => ?_, hstops.1⟩
  cases read_openDigits.symm.trans hg

end ItemTest
end RuleGate

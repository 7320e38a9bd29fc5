import CommandForge.Command.Model
import CommandForge.Proofs.Command.OptionalText
import CommandForge.Proofs.Text.Trimmed
/-!
# Spellings of types

The texts of the types that a language can express follow a grammar (`FieldType.Spells`): the name
of a scalar in any ASCII case, or an optional spelling around such a text, with blanks around each.
Reading gives such a type exactly for its texts, and a custom type at the bottom for all others
(`parse_spells`). What is read is written in one spelling, and that reads as the same type
(`parse_display`).
-/

namespace CommandForge

open Text (lowerAscii trim)

/-- The field type that a scalar is. -/
def Scalar.type : Scalar → FieldType
  | .string => .string
  | .integer => .integer
  | .boolean => .boolean

/-- The two names of a scalar. -/
def Scalar.names : Scalar → List String
  | .string => ["str", "string"]
  | .integer => ["int", "integer"]
  | .boolean => ["bool", "boolean"]

theorem Scalar.type_injective : Function.Injective Scalar.type := by
  intro b b' h
  cases b <;> cases b' <;> first | rfl | exact absurd h (by decide)

namespace FieldType

/-- A type with `n` optionals around it. -/
def optionals : Nat → FieldType → FieldType
  | 0, ty => ty
  | n + 1, ty => .optional (optionals n ty)

/-- The text spells the scalar `b` with `n` optionals around it. -/
inductive Spells (b : Scalar) : Nat → List Char → Prop
  | scalar {text} (h : String.ofList (lowerAscii (trim text)) ∈ b.names) : Spells b 0 text
  | optional {n text inner} (h : Encloses (trim text) inner) (hinner : Spells b n inner) :
      Spells b (n + 1) text

/-! ## Names -/

/-- A text names one scalar or is kept as it is. -/
theorem ofName_cases (cs : List Char) :
    (∃ b : Scalar, String.ofList (lowerAscii cs) ∈ b.names ∧ ofName cs = b.type) ∨
      (∀ b : Scalar, String.ofList (lowerAscii cs) ∉ b.names) ∧
        ofName cs = .custom (String.ofList cs) := by
  unfold ofName
  split
  · rename_i h
    exact .inl ⟨.string, by simp [h, Scalar.names], rfl⟩
  · rename_i h
    exact .inl ⟨.string, by simp [h, Scalar.names], rfl⟩
  · rename_i h
    exact .inl ⟨.integer, by simp [h, Scalar.names], rfl⟩
  · rename_i h
    exact .inl ⟨.integer, by simp [h, Scalar.names], rfl⟩
  · rename_i h
    exact .inl ⟨.boolean, by simp [h, Scalar.names], rfl⟩
  · rename_i h
    exact .inl ⟨.boolean, by simp [h, Scalar.names], rfl⟩
  · rename_i hstr hstring hint hinteger hbool hboolean
    refine .inr ⟨fun b hmem => ?_, rfl⟩
    cases b with
    | string => exact (List.mem_pair.1 hmem).elim hstr hstring
    | integer => exact (List.mem_pair.1 hmem).elim hint hinteger
    | boolean => exact (List.mem_pair.1 hmem).elim hbool hboolean

theorem eq_of_mem_names {b b' : Scalar} {name : String} (h : name ∈ b.names)
    (h' : name ∈ b'.names) : b = b' := by
  have hdisjoint : ∀ name ∈ b.names, name ∈ b'.names → b = b' := by
    cases b <;> cases b' <;> decide
  exact hdisjoint name h h'

theorem ofName_of_mem_names {b : Scalar} {cs : List Char}
    (h : String.ofList (lowerAscii cs) ∈ b.names) : ofName cs = b.type := by
  rcases ofName_cases cs with ⟨b', hb', htype⟩ | ⟨hnone, -⟩
  · rw [htype, eq_of_mem_names hb' h]
  · exact absurd h (hnone b)

/-- An optional spelling is no name of a scalar. -/
theorem Encloses.notMem_names {cs inner : List Char} (h : Encloses cs inner) (b : Scalar) :
    String.ofList (lowerAscii cs) ∉ b.names := by
  intro hmem
  have hshort : ∀ name ∈ b.names, name.length ≤ 7 := by
    cases b <;> decide
  have hlong := h.length_lt
  have hlength := hshort _ hmem
  rw [String.length_ofList, lowerAscii, List.length_map] at hlength
  omega

/-! ## Reading -/

theorem parseChars_of_encloses {text inner : List Char} (h : Encloses (trim text) inner) :
    parseChars text = .optional (parseChars inner) := by
  rw [parseChars]
  split
  · rename_i part hpart
    rw [optionalInner?_of_encloses h] at hpart
    rw [Option.some.inj hpart]
  · rename_i hnone
    rw [optionalInner?_of_encloses h] at hnone
    cases hnone

theorem parseChars_of_not_encloses {text : List Char} (h : ∀ inner, ¬ Encloses (trim text) inner) :
    parseChars text = ofName (trim text) := by
  rw [parseChars]
  split
  · rename_i part hpart
    exact absurd (optionalInner?_eq_some_iff.1 hpart) (h part)
  · rfl

/-- What a text is read as, by whether it encloses another text, names a scalar, or neither. -/
theorem parseChars_cases (text : List Char) :
    (∃ inner, Encloses (trim text) inner ∧ inner.length < text.length ∧
        parseChars text = .optional (parseChars inner)) ∨
      (∃ b : Scalar, String.ofList (lowerAscii (trim text)) ∈ b.names ∧
        parseChars text = b.type) ∨
      ((∀ inner, ¬ Encloses (trim text) inner) ∧
        (∀ b : Scalar, String.ofList (lowerAscii (trim text)) ∉ b.names) ∧
        parseChars text = .custom (String.ofList (trim text))) := by
  by_cases h : ∃ inner, Encloses (trim text) inner
  · obtain ⟨inner, hinner⟩ := h
    have hshort := length_lt_of_optionalInner? (optionalInner?_of_encloses hinner)
    have htrim := Text.length_trim_le text
    exact .inl ⟨inner, hinner, by omega, parseChars_of_encloses hinner⟩
  · have hnone := not_exists.1 h
    rcases ofName_cases (trim text) with ⟨b, hb, htype⟩ | ⟨hnames, hcustom⟩
    · exact .inr (.inl ⟨b, hb, (parseChars_of_not_encloses hnone).trans htype⟩)
    · exact .inr (.inr ⟨hnone, hnames, (parseChars_of_not_encloses hnone).trans hcustom⟩)

theorem parseChars_of_spells {b : Scalar} {n : Nat} {text : List Char} (h : Spells b n text) :
    parseChars text = optionals n b.type := by
  induction h with
  | scalar h =>
    rw [parseChars_of_not_encloses fun inner hinner => hinner.notMem_names b h,
      ofName_of_mem_names h, optionals]
  | optional h _ ih => rw [parseChars_of_encloses h, ih, optionals]

theorem optional_ne_type (ty : FieldType) (b : Scalar) : FieldType.optional ty ≠ b.type := by
  cases b <;> simp [Scalar.type]

theorem custom_ne_type (name : String) (b : Scalar) : FieldType.custom name ≠ b.type := by
  cases b <;> simp [Scalar.type]

theorem spells_of_parseChars {b : Scalar} {n : Nat} {text : List Char}
    (h : parseChars text = optionals n b.type) : Spells b n text := by
  induction n generalizing text with
  | zero =>
    rw [optionals] at h
    rcases parseChars_cases text with ⟨inner, -, -, hparse⟩ | ⟨b', hb', hparse⟩ | ⟨-, -, hparse⟩
    · exact absurd (hparse.symm.trans h) (optional_ne_type _ b)
    · rw [← Scalar.type_injective (hparse.symm.trans h)]
      exact .scalar hb'
    · exact absurd (hparse.symm.trans h) (custom_ne_type _ b)
  | succ n ih =>
    rw [optionals] at h
    rcases parseChars_cases text with ⟨inner, hinner, -, hparse⟩ | ⟨b', -, hparse⟩ | ⟨-, -, hparse⟩
    · exact .optional hinner (ih (FieldType.optional.inj (hparse.symm.trans h)))
    · exact absurd (h.symm.trans hparse) (optional_ne_type _ b')
    · exact absurd (hparse.symm.trans h) (by simp)

/-- What is read is a scalar or a custom type with some optionals around it. -/
theorem exists_optionals (text : List Char) :
    (∃ (b : Scalar) (n : Nat), parseChars text = optionals n b.type) ∨
      ∃ name n, parseChars text = optionals n (.custom name) := by
  -- The induction is on the length, as that of the text that is enclosed is smaller.
  induction hlength : text.length using Nat.strong_induction_on generalizing text with
  | h k ih =>
    rcases parseChars_cases text with ⟨inner, -, hshort, hparse⟩ | ⟨b, -, hparse⟩ | ⟨-, -, hparse⟩
    · rcases ih inner.length (hlength ▸ hshort) inner rfl with ⟨b, n, h⟩ | ⟨name, n, h⟩
      · exact .inl ⟨b, n + 1, by rw [hparse, h, optionals]⟩
      · exact .inr ⟨name, n + 1, by rw [hparse, h, optionals]⟩
    · exact .inl ⟨b, 0, hparse⟩
    · exact .inr ⟨_, 0, hparse⟩

theorem base_optionals (n : Nat) (ty : FieldType) : (optionals n ty).base = ty.base := by
  induction n with
  | zero => rfl
  | succ n ih => rw [optionals, base, ih]

theorem base_type (b : Scalar) : b.type.base = b.type := by
  cases b <;> rfl

/-- **A type is read exactly from its spellings.** A text is read as `n` optionals around a scalar
just when it spells that; every other text, and no text that spells anything, has a custom type for
its innermost one. -/
theorem parse_spells (s : String) :
    (∀ (b : Scalar) (n : Nat), parse s = optionals n b.type ↔ Spells b n s.toList) ∧
      ((∃ name, (parse s).base = .custom name) ↔
        ∀ (b : Scalar) (n : Nat), ¬ Spells b n s.toList) := by
  refine ⟨fun b n => ⟨spells_of_parseChars, parseChars_of_spells⟩, ?_⟩
  constructor
  · rintro ⟨name, hname⟩ b n hspells
    rw [parse, parseChars_of_spells hspells, base_optionals, base_type] at hname
    exact custom_ne_type name b hname.symm
  · intro hnone
    rcases exists_optionals s.toList with ⟨b, n, h⟩ | ⟨name, n, h⟩
    · exact absurd (spells_of_parseChars h) (hnone b n)
    · exact ⟨name, by rw [parse, h, base_optionals]; rfl⟩

/-! ## Writing -/

/-- The text that is written for an optional encloses that for its inner type, and is trimmed. -/
theorem encloses_display (ty : FieldType) :
    Encloses (trim (optional ty).display.toList) ty.display.toList := by
  have htext : (optional ty).display.toList =
      "optional-of(".toList ++ (ty.display.toList ++ [')']) := by
    rw [display, String.toList_append, String.toList_append, List.append_assoc]
    rfl
  have htrimmed : Text.IsTrimmed (optional ty).display.toList := by
    constructor
    · intro c hc
      rw [htext, show "optional-of(".toList = 'o' :: "ptional-of(".toList from by decide] at hc
      obtain rfl := Option.some.inj hc
      decide
    · intro c hc
      rw [htext, getLast?_close] at hc
      obtain rfl := Option.some.inj hc
      decide
  rw [htrimmed.trim_eq, htext]
  exact .parentheses (by decide)

theorem parse_display_optional (ty : FieldType) :
    parse (optional ty).display = .optional (parse ty.display) :=
  parseChars_of_encloses (encloses_display ty)

theorem parse_display_optionals {ty : FieldType} (h : parse ty.display = ty) (n : Nat) :
    parse (optionals n ty).display = optionals n ty := by
  induction n with
  | zero => exact h
  | succ n ih => rw [optionals, parse_display_optional, ih]

theorem parse_display_type (b : Scalar) : parse b.type.display = b.type := by
  refine parseChars_of_spells (n := 0) (.scalar ?_)
  cases b <;> decide

/-- Blanks around a text do not count. -/
theorem parseChars_trim (text : List Char) : parseChars (trim text) = parseChars text := by
  by_cases h : ∃ inner, Encloses (trim text) inner
  · obtain ⟨inner, hinner⟩ := h
    rw [parseChars_of_encloses hinner, parseChars_of_encloses (by rwa [Text.trim_trim])]
  · have hnone := not_exists.1 h
    rw [parseChars_of_not_encloses hnone, parseChars_of_not_encloses (by rwa [Text.trim_trim]),
      Text.trim_trim]

theorem parse_display_parseChars (text : List Char) :
    parse (parseChars text).display = parseChars text := by
  induction hlength : text.length using Nat.strong_induction_on generalizing text with
  | h k ih =>
    rcases parseChars_cases text with ⟨inner, -, hshort, hparse⟩ | ⟨b, -, hparse⟩ | ⟨-, -, hparse⟩
    · rw [hparse, parse_display_optional, ih inner.length (hlength ▸ hshort) inner rfl]
    · rw [hparse, parse_display_type]
    · -- A custom type is written as its trimmed text, which is the text up to blanks around it.
      rw [hparse, display, parse, String.toList_ofList, parseChars_trim, hparse]

/-- **What is written reads back.** The spelling of a type that was read from any text reads as
that type, and so does the spelling of every type made of a scalar and optionals around it. -/
theorem parse_display :
    (∀ s, parse (parse s).display = parse s) ∧
      ∀ (b : Scalar) (n : Nat), parse (optionals n b.type).display = optionals n b.type :=
  ⟨fun s => parse_display_parseChars s.toList,
    fun b n => parse_display_optionals (parse_display_type b) n⟩

end FieldType

end CommandForge

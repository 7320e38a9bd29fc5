import Mathlib.Tactic.ByContra
import CommandForge.Wire.Codec
/-!
# Kinds of failures

A command error says whether something could not be encoded or could not be decoded. A fault of
the JSON layer that is passed on does not say it, and `CommandError.ofJson` takes it for one of
decoding unless the device failed. That is right where a text is read. Where a type writes its
values it is wrong: `failures_tell_direction_iff` says which failures of encoding are reported as
such, and `exists_misreported_failure` gives one that is not.
-/

namespace CommandForge

namespace CommandError

/-- A command could not be encoded. -/
def IsEncoding (e : CommandError) : Prop := ∃ fault, e = .encode fault

theorem ofJson_of_ne_device {fault : JsonFault} (h : ∀ message, fault ≠ .device message) :
    ofJson fault = .decode (.json fault) := by
  cases fault with
  | device message => exact absurd rfl (h message)
  | _ => rfl

end CommandError

namespace Wire

variable {α : Type} {t : CommandType α}

/-! ## Decoding -/

/-- Why a value is no command of the type. -/
inductive Undecodable (t : CommandType α) : Json → DecodeFault → Prop
  | notObject {v} (hv : ∀ members, v ≠ .object members) :
      Undecodable t v (.notObject t.commandName v)
  | members {members fault} (h : t.ofMembers (foldKeys members) = .error fault) :
      Undecodable t (.object members) (.json fault)

/-- Why a text holds no command of the type. -/
inductive UndecodableText (t : CommandType α) (text : String) : DecodeFault → Prop
  | malformed (h : Json.read? text = none) : UndecodableText t text (.json .malformed)
  | value {v fault} (h : Json.read? text = some v) (hv : Undecodable t v fault) :
      UndecodableText t text fault

theorem decodeValue_eq_error_iff {v : Json} {e : CommandError} :
    decodeValue t v = .error e ↔ ∃ fault, e = .decode fault ∧ Undecodable t v fault := by
  constructor
  · intro h
    unfold decodeValue at h
    split at h
    · split at h
      · rename_i members fault hmembers
        exact ⟨_, (Except.error.inj h).symm, .members hmembers⟩
      · cases h
    · rename_i v hv
      exact ⟨_, (Except.error.inj h).symm, .notObject hv⟩
  · rintro ⟨fault, rfl, h⟩
    cases h with
    | notObject hv =>
      cases v with
      | object members => exact absurd rfl (hv members)
      | _ => rfl
    | members hmembers => rw [decodeValue, hmembers]

theorem decode_eq_error_iff {text : String} {e : CommandError} :
    decode t text = .error e ↔ ∃ fault, e = .decode fault ∧ UndecodableText t text fault := by
  unfold decode
  cases hread : Json.read? text with
  | none =>
    constructor
    · intro h
      exact ⟨_, (Except.error.inj h).symm, .malformed hread⟩
    · rintro ⟨fault, rfl, h⟩
      cases h with
      | malformed => rfl
      | value h => exact absurd (hread.symm.trans h) (by simp)
  | some v =>
    refine decodeValue_eq_error_iff.trans ?_
    constructor
    · rintro ⟨fault, rfl, hv⟩
      exact ⟨fault, rfl, .value hread hv⟩
    · rintro ⟨fault, rfl, h⟩
      cases h with
      | malformed h => exact absurd (hread.symm.trans h) (by simp)
      | value h hv =>
        obtain rfl := Option.some.inj (hread.symm.trans h)
        exact ⟨fault, rfl, hv⟩

/-! ## Encoding -/

/-- The failures of encoding `x`. The last one is reported as a failure of decoding. -/
inductive Unencodable (t : CommandType α) (x : α) : CommandError → Prop
  | notObject {v} (h : t.plain x = .ok v) (hv : ∀ members, v ≠ .object members) :
      Unencodable t x (.encode (.notObject t.commandName))
  | device {message} (h : t.plain x = .error (.device message)) :
      Unencodable t x (.encode (.json (.device message)))
  | refused {fault} (h : t.plain x = .error fault) (hf : ∀ message, fault ≠ .device message) :
      Unencodable t x (.decode (.json fault))

theorem encodeMembers_eq_error_iff {x : α} {e : CommandError} :
    encodeMembers t x = .error e ↔ Unencodable t x e := by
  constructor
  · intro h
    unfold encodeMembers at h
    split at h
    · rename_i fault hfault
      rw [← Except.error.inj h]
      by_cases hf : ∃ message, fault = .device message
      · obtain ⟨message, rfl⟩ := hf
        exact .device hfault
      · have hne := not_exists.1 hf
        rw [CommandError.ofJson_of_ne_device hne]
        exact .refused hfault hne
    · cases h
    · rename_i v hv hplain
      rw [← Except.error.inj h]
      exact .notObject hplain hv
  · intro h
    cases h with
    | notObject hplain hv =>
      rw [encodeMembers, hplain]
      split
      · contradiction
      · rename_i members hobject
        exact absurd (Except.ok.inj hobject) (hv members)
      · rfl
    | device hfault =>
      rw [encodeMembers, hfault]
      rfl
    | refused hfault hf => simp only [encodeMembers, hfault, CommandError.ofJson_of_ne_device hf]

/-- Encoding as a text fails just as encoding as members does: no layout adds a failure. -/
theorem encode_eq_error_iff {layout : Layout} {x : α} {e : CommandError} :
    encode layout t x = .error e ↔ Unencodable t x e := by
  rw [← encodeMembers_eq_error_iff, encode]
  cases encodeMembers t x with
  | error e' => simp only [Except.error.injEq]
  | ok members => simp only [reduceCtorEq]

/-- **When failures tell encoding from decoding.** A value or a text that cannot be decoded fails
as one of decoding. What cannot be encoded fails as one of encoding exactly when the type's own
writing did not fail, or failed for the device; each of its other faults is reported as one of
decoding. -/
theorem failures_tell_direction_iff (t : CommandType α) :
    (∀ v e, decodeValue t v = .error e ↔ ∃ fault, e = .decode fault ∧ Undecodable t v fault) ∧
      (∀ text e, decode t text = .error e ↔
        ∃ fault, e = .decode fault ∧ UndecodableText t text fault) ∧
      ∀ x, (∀ e, encodeMembers t x = .error e ↔ Unencodable t x e) ∧
        (∀ layout e, encode layout t x = .error e ↔ Unencodable t x e) ∧
        ((∀ e, Unencodable t x e → e.IsEncoding) ↔
          ∀ fault, t.plain x = .error fault → ∃ message, fault = .device message) := by
  refine ⟨fun v e => decodeValue_eq_error_iff, fun text e => decode_eq_error_iff, fun x =>
    ⟨fun e => encodeMembers_eq_error_iff, fun layout e => encode_eq_error_iff, ?_⟩⟩
  constructor
  · intro hencoding fault hfault
    by_contra hdevice
    obtain ⟨_, he⟩ := hencoding _ (.refused hfault (not_exists.1 hdevice))
    cases he
  · intro hdevice e h
    cases h with
    | notObject => exact ⟨_, rfl⟩
    | device => exact ⟨_, rfl⟩
    | refused hfault hf =>
      obtain ⟨message, hmessage⟩ := hdevice _ hfault
      exact absurd hmessage (hf message)

/-- A map with lists for keys is no plain form. Writing one fails while it is encoded, and is
reported as a failure of decoding. -/
theorem exists_misreported_failure :
    let t : CommandType (List (List Int × Int)) :=
      ⟨"list_key_command",
        fun entries => if entries.isEmpty then .ok (.object []) else .error .keyNotString,
        fun members => .error (.wrongType (.object members) "a sequence")⟩
    ∃ e, encode .compact t [([1, 2], 3)] = .error e ∧ ¬ e.IsEncoding ∧
      e.message = "decode error: key must be a string" := by
  intro t
  have hencode : encode .compact t [([1, 2], 3)] = .error (.decode (.json .keyNotString)) := rfl
  refine ⟨_, hencode, ?_, rfl⟩
  rintro ⟨fault, hfault⟩
  cases hfault

end Wire

end CommandForge

import CommandForge.Config
import CommandForge.Proofs.Target.Cpp
import CommandForge.Proofs.Target.CSharp
import CommandForge.Proofs.Target.Java
import CommandForge.Proofs.Target.JavaScript
import CommandForge.Proofs.Target.Python
import CommandForge.Proofs.Target.Rust
/-!
# Emission keeps the schema

Every built-in target has a reading, whatever the configuration (`nonempty_reading`), so a source
text tells the type name, the normalized name and the fields of its command: two commands that are
written as one text agree in them (`emit_injective`).
-/

namespace CommandForge.Target

theorem nonempty_reading {language : String} {c : Config} {t : Target}
    (h : builtin? language c = some t) : Nonempty (Reading t) := by
  unfold builtin? at h
  split at h
  · exact Option.some.inj h ▸ ⟨Python.reading⟩
  · exact Option.some.inj h ▸ ⟨JavaScript.reading⟩
  · exact Option.some.inj h ▸ ⟨CSharp.reading c.typeNamespace⟩
  · exact Option.some.inj h ▸ ⟨Cpp.reading c.typeNamespace⟩
  · exact Option.some.inj h ▸ ⟨Java.reading c.javaPackage⟩
  · exact Option.some.inj h ▸ ⟨Rust.reading c.rustCrate⟩
  · simp at h

/-- **Emission loses nothing of the schema.** Resolved commands that a built-in target writes as
one text, whatever the configuration and their documentation, have the same type name, the same
normalized name and, in order, fields of the same wire names and shapes. -/
theorem emit_injective {language : String} {c : Config} {t : Target}
    (ht : builtin? language c = some t) {d e : CommandDef} {m n : CommandModel}
    (hm : CommandModel.resolve d = .ok m) (hn : CommandModel.resolve e = .ok n) {text : String}
    (h : t.emit m = .ok text) (h' : t.emit n = .ok text) :
    m.typeName = n.typeName ∧ m.commandName = n.commandName ∧
      ∃ fields : List (String × Shape),
        m.fields.map (fun f => (f.wireName, f.type.shape?)) =
          fields.map (fun f => (f.1, some f.2)) ∧
        n.fields.map (fun f => (f.wireName, f.type.shape?)) =
          fields.map fun f => (f.1, some f.2) := by
  obtain ⟨r⟩ := nonempty_reading ht
  exact r.eq_of_emit_eq (CommandModel.resolved_of_resolve hm) (CommandModel.resolved_of_resolve hn)
    h h'

/-- A blank documentation is not written: with it or without, a ping is one text. -/
theorem emit_injective_ping :
    let d : CommandDef := ⟨"Ping", none, [⟨"sentAt", .optional .integer, none⟩]⟩
    let e : CommandDef := ⟨"Ping", some " ", [⟨"sentAt", .optional .integer, some ""⟩]⟩
    let m : CommandModel :=
      ⟨"Ping", "ping", none, [⟨"sentAt", "sent_at", .optional .integer, none⟩]⟩
    let n : CommandModel :=
      ⟨"Ping", "ping", some " ", [⟨"sentAt", "sent_at", .optional .integer, some ""⟩]⟩
    let text := sourceText (Rust.render "cmdgen" m
      [⟨⟨"sentAt", "sent_at", .optional .integer, none⟩, ⟨.integer, true⟩, "sent_at"⟩])
    builtin? "rust" {} = some (rust "cmdgen") ∧
      CommandModel.resolve d = .ok m ∧ CommandModel.resolve e = .ok n ∧
      (rust "cmdgen").emit m = .ok text ∧ (rust "cmdgen").emit n = .ok text ∧
      m.typeName = n.typeName ∧ m.commandName = n.commandName ∧
      ∃ fields : List (String × Shape),
        m.fields.map (fun f => (f.wireName, f.type.shape?)) =
          fields.map (fun f => (f.1, some f.2)) ∧
        n.fields.map (fun f => (f.wireName, f.type.shape?)) =
          fields.map fun f => (f.1, some f.2) := by
  intro d e m n text
  have ht : builtin? "rust" {} = some (rust "cmdgen") := rfl
  have hm : CommandModel.resolve d = .ok m := by decide +kernel
  have hn : CommandModel.resolve e = .ok n := by decide +kernel
  have h : (rust "cmdgen").emit m = .ok text := by decide +kernel
  have h' : (rust "cmdgen").emit n = .ok text := by decide +kernel
  exact ⟨ht, hm, hn, h, h', emit_injective ht hm hn h h'⟩

end CommandForge.Target

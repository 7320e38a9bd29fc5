import CommandForge.Config
import CommandForge.Generation.Collision
/-!
# Generators

A generator holds an emitter for each of its languages, sorted by language. Running it on commands
produces each pair of a command and a language on its own and then refuses what collides.
-/

namespace CommandForge

/-- Emitters under their languages, each language once and in order. -/
structure Generator where
  emitters : List (String × Emitter) := []
  sorted : emitters.Pairwise (fun a b => a.1 < b.1) := by simp
  /-- Pairs may be produced side by side. The report does not depend on it. -/
  parallel : Bool := true

namespace Generator

/-- Puts an emitter under its language into a sorted list, in place of one that is there. -/
def insertSorted (language : String) (e : Emitter) :
    List (String × Emitter) → List (String × Emitter)
  | [] => [(language, e)]
  | (l, d) :: rest =>
    if language = l then (language, e) :: rest
    else if language < l then (language, e) :: (l, d) :: rest
    else (l, d) :: insertSorted language e rest

theorem mem_insertSorted {language : String} {e : Emitter} {emitters : List (String × Emitter)}
    {p : String × Emitter} (h : p ∈ insertSorted language e emitters) :
    p = (language, e) ∨ p ∈ emitters := by
  induction emitters with
  | nil => simpa [insertSorted] using h
  | cons q rest ih =>
    simp only [insertSorted] at h
    split at h
    · simp only [List.mem_cons] at h ⊢
      exact h.imp_right .inr
    · split at h
      · simpa using h
      · simp only [List.mem_cons] at h ⊢
        rcases h with h | h
        · exact .inr (.inl h)
        · exact (ih h).imp_right .inr

theorem pairwise_insertSorted (language : String) (e : Emitter)
    {emitters : List (String × Emitter)} (h : emitters.Pairwise (fun a b => a.1 < b.1)) :
    (insertSorted language e emitters).Pairwise (fun a b => a.1 < b.1) := by
  induction emitters with
  | nil => simp [insertSorted]
  | cons q rest ih =>
    obtain ⟨hq, hrest⟩ := List.pairwise_cons.1 h
    simp only [insertSorted]
    split
    · rename_i heq
      exact List.pairwise_cons.2 ⟨fun p hp => heq ▸ hq p hp, hrest⟩
    · rename_i hne
      split
      · rename_i hlt
        refine List.pairwise_cons.2 ⟨fun p hp => ?_, h⟩
        rcases List.mem_cons.1 hp with rfl | hp
        · exact hlt
        · exact String.lt_trans hlt (hq p hp)
      · rename_i hlt
        refine List.pairwise_cons.2 ⟨fun p hp => ?_, ih hrest⟩
        rcases mem_insertSorted hp with rfl | hp
        · exact Std.lt_of_le_of_ne (String.not_lt.1 hlt) (Ne.symm hne)
        · exact hq p hp

/-- The languages, sorted. -/
def languages (g : Generator) : List String := g.emitters.map (·.1)

/-- The emitter for a language. -/
def emitter? (g : Generator) (language : String) : Option Emitter := g.emitters.lookup language

/-- The generator with an emitter for `language`, in place of the one it may have had. -/
def register (g : Generator) (language : String) (e : Emitter) : Generator where
  emitters := insertSorted language e g.emitters
  sorted := pairwise_insertSorted language e g.sorted
  parallel := g.parallel

/-- Registers the built-in targets for languages; one that is not built in is passed over. -/
def registerBuiltin (c : Config) (g : Generator) (language : String) : Generator :=
  match Target.builtin? language c with
  | some t => g.register language t.emitter
  | none => g

/-- The generator that a configuration asks for. -/
def ofConfig (c : Config) : Except ConfigFault Generator :=
  match c.check with
  | .error fault => .error fault
  | .ok () =>
    .ok (c.languages.foldl (registerBuiltin c) (Generator.mk [] List.Pairwise.nil c.parallel))

/-- Produces one pair. -/
def outcome (d : CommandDef) (language : String) (e : Emitter) : Outcome :=
  match CommandModel.resolve d with
  | .error error => .error ⟨d.name, language, error⟩
  | .ok m =>
    match e.emit m with
    | .error error => .error ⟨d.name, language, error⟩
    | .ok content => .ok ⟨language, m.typeName, m.commandName, e.fileName m, m.members, content⟩

/-- The outcomes of all pairs before collisions are looked at, command by command. -/
def outcomes (g : Generator) (commands : List CommandDef) : List Outcome :=
  commands.flatMap fun d => g.emitters.map fun (language, e) => outcome d language e

/-- The support files of all languages. -/
def supportFiles (g : Generator) : List SupportArtifact :=
  g.emitters.flatMap fun (language, e) => e.supportFiles.map fun file => ⟨language, file⟩

/-- The report on every pair of a command and a language. -/
def run (g : Generator) (commands : List CommandDef) : Report :=
  .ofOutcomes (Collision.reject (g.outcomes commands) g.supportFiles) g.supportFiles

/-- What the generator holds, on one line. -/
def describe (g : Generator) : String :=
  "Generator \x7b languages: [" ++ ", ".intercalate (g.languages.map Text.quoted)
    ++ "], parallel: " ++ (if g.parallel then "true" else "false") ++ " \x7d"

end Generator

end CommandForge

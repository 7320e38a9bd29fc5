import CommandForge.Proofs.Json.Written
import CommandForge.Proofs.Lists
import CommandForge.Schema.Load
/-!
# What a loaded schema defines

The commands of a source have different names (`nodup_names_of_load`), so a command that is defined
in two files is refused. Inside one file it is not: of members with one key only the last is left
when the text is read. So the commands and their fields are those that are written in the files
exactly when no key is repeated in an object (`load_declares_iff`).
-/

namespace CommandForge

namespace Schema

open Json (Written IsSpelling ofWritten)
open Json.Written (memberValues)

variable {files : FileTree} {source : String} {ds : List CommandDef}

/-! ## Files -/

theorem repeated?_eq_none_iff {seen : List String} : repeated? seen ds = none ↔
    (∀ d ∈ ds, d.name ∉ seen) ∧ (ds.map (·.name)).Nodup := by
  induction ds generalizing seen with
  | nil => simp [repeated?]
  | cons d ds ih =>
    rw [repeated?]
    by_cases hd : d.name ∈ seen
    · rw [if_pos (List.contains_iff_mem.2 hd)]
      simp [hd]
    · rw [if_neg fun h => hd (List.contains_iff_mem.1 h), ih]
      simp only [List.mem_append, List.mem_singleton, not_or, List.forall_mem_cons, List.map_cons,
        List.nodup_cons, List.mem_map, not_exists, not_and, forall_and]
      constructor
      · rintro ⟨⟨hseen, hne⟩, hn⟩
        exact ⟨⟨hd, hseen⟩, hne, hn⟩
      · rintro ⟨⟨-, hseen⟩, hne, hn⟩
        exact ⟨⟨hseen, hne⟩, hn⟩

/-- The commands of files are those of each file, under different names. -/
theorem loadFiles_eq_ok {loaded : List CommandDef} {paths : List String}
    (h : loadFiles files loaded paths = .ok ds) (hn : (loaded.map (·.name)).Nodup) :
    ∃ parts, List.Forall₂ (fun path part => loadFile files path = .ok part) paths parts ∧
      ds = loaded ++ parts.flatten ∧ (ds.map (·.name)).Nodup := by
  induction paths generalizing loaded with
  | nil =>
    obtain rfl := Except.ok.inj h
    exact ⟨[], .nil, by simp, hn⟩
  | cons path paths ih =>
    rw [loadFiles] at h
    split at h
    · contradiction
    · rename_i part hpart
      split at h
      · contradiction
      · rename_i hnone
        obtain ⟨hnew, hdistinct⟩ := repeated?_eq_none_iff.1 hnone
        have hboth : ((loaded ++ part).map (·.name)).Nodup := by
          rw [List.map_append, List.nodup_append]
          refine ⟨hn, hdistinct, ?_⟩
          rintro name hname _ hname' rfl
          obtain ⟨d, hd, rfl⟩ := List.mem_map.1 hname'
          exact hnew d hd hname
        obtain ⟨parts, hparts, rfl, hall⟩ := ih h hboth
        exact ⟨part :: parts, .cons hpart hparts, by simp, hall⟩

theorem load_eq_ok (h : load files source = .ok ds) :
    ∃ paths parts, sourceFiles files source = .ok paths ∧
      List.Forall₂ (fun path part => loadFile files path = .ok part) paths parts ∧
      ds = parts.flatten ∧ (ds.map (·.name)).Nodup := by
  rw [load] at h
  split at h
  · contradiction
  · rename_i paths hpaths
    obtain ⟨parts, hparts, rfl, hn⟩ := loadFiles_eq_ok h List.nodup_nil
    exact ⟨paths, parts, hpaths, hparts, rfl, hn⟩

theorem nodup_names_of_load (h : load files source = .ok ds) : (ds.map (·.name)).Nodup := by
  obtain ⟨-, -, -, -, -, hn⟩ := load_eq_ok h
  exact hn

/-! ## Members -/

theorem commands_eq_ok {members : List (String × Json)} (h : commands members = .ok ds) :
    List.Forall₂ (fun m d => command m.1 m.2 = .ok d) members ds := by
  induction members generalizing ds with
  | nil =>
    obtain rfl := Except.ok.inj h
    exact .nil
  | cons m members ih =>
    rw [commands] at h
    split at h
    · contradiction
    · rename_i d hd
      split at h
      · contradiction
      · rename_i ds' hds
        obtain rfl := Except.ok.inj h
        exact .cons hd (ih hds)

/-- The members of a body that stand for fields. -/
def fieldMembers {α : Type} (body : List (String × α)) : List (String × α) :=
  body.filter (·.1 ≠ aboutKey)

theorem fields_eq_ok {name : String} {entries : List (Option String)}
    {body : List (String × Json)} {fs : List FieldDef} (h : fields name entries body = .ok fs) :
    List.Forall₂ (fun m f => f.name = m.1 ∧ ∃ type, m.2 = .string type ∧
      f.type = FieldType.parse type) (fieldMembers body) fs := by
  induction body generalizing entries fs with
  | nil =>
    obtain rfl := Except.ok.inj h
    exact .nil
  | cons m body ih =>
    unfold fields at h
    split at h
    · rename_i hm
      rw [fieldMembers, List.filter_cons_of_neg (by simpa using hm)]
      exact ih h
    · rename_i hm
      rw [fieldMembers, List.filter_cons_of_pos (by simpa using hm)]
      split at h
      · rename_i type htype
        split at h
        · contradiction
        · rename_i fs' hfs
          obtain rfl := Except.ok.inj h
          exact .cons ⟨rfl, type, htype, rfl⟩ (ih hfs)
      · contradiction

theorem command_eq_ok {name : String} {v : Json} {d : CommandDef} (h : command name v = .ok d) :
    d.name = name ∧ ∃ body entries, v = .object body ∧ fields name entries body = .ok d.fields := by
  unfold command at h
  split at h
  · rename_i body
    split at h
    · contradiction
    · rename_i entries _
      split at h
      · contradiction
      · rename_i fs hfs
        obtain rfl := Except.ok.inj h
        exact ⟨rfl, body, entries.drop 1, rfl, hfs⟩
  · contradiction

/-! ## Definitions as they are written -/

/-- The member of a body is the definition of the field. -/
def DeclaresField (m : String × Written) (f : FieldDef) : Prop :=
  f.name = m.1 ∧ ∃ type, m.2.value = .string type ∧ f.type = FieldType.parse type

/-- The member of a schema is the definition of the command, and those of its body other than the
documentation are the definitions of the fields, in order. -/
def Declares (m : String × Written) (d : CommandDef) : Prop :=
  d.name = m.1 ∧ ∃ body, m.2 = .object body ∧
    List.Forall₂ DeclaresField (fieldMembers body) d.fields

/-- The file is one object, written with these members. -/
def Holds (files : FileTree) (path : String) (written : List (String × Written)) : Prop :=
  ∃ text, files.readText path = .ok text ∧ IsSpelling text (.object written)

/-- The commands are those of the object that the members make up. -/
def Gives (written : List (String × Written)) (part : List CommandDef) : Prop :=
  List.Forall₂ (fun m d => command m.1 m.2 = .ok d) (ofWritten (memberValues written)) part

/-- No key is repeated in the object, and in the bodies in it none but that of the documentation. -/
structure NothingRepeated (written : List (String × Written)) : Prop where
  commands : (written.map (·.1)).Nodup
  fields : ∀ m ∈ written, ∀ body, m.2 = .object body → ((fieldMembers body).map (·.1)).Nodup

variable {written : List (String × Written)} {part : List CommandDef} {path : String}

theorem map_fst_memberValues : (memberValues written).map (·.1) = written.map (·.1) := by
  rw [Json.Written.memberValues_eq_map, List.map_map]
  rfl

/-- The commands come from the object that the file is. -/
theorem loadFile_eq_ok (h : loadFile files path = .ok part) :
    ∃ written, Holds files path written ∧ Gives written part := by
  unfold loadFile at h
  split at h
  · contradiction
  · rename_i text htext
    split at h
    · contradiction
    · rename_i ds hparse
      obtain rfl := Except.ok.inj h
      unfold parse at hparse
      split at hparse
      · contradiction
      · rename_i members hread
        obtain ⟨w, hw, hvalue⟩ := Json.isSpelling_of_read? hread
        obtain ⟨written, rfl, rfl⟩ := Json.Written.exists_of_value_eq_object hvalue
        exact ⟨written, ⟨text, htext, hw⟩, commands_eq_ok hparse⟩
      · contradiction

theorem Holds.unique {written' : List (String × Written)} (h : Holds files path written)
    (h' : Holds files path written') : written = written' := by
  obtain ⟨text, htext, hw⟩ := h
  obtain ⟨text', htext', hw'⟩ := h'
  obtain rfl := Except.ok.inj (htext.symm.trans htext')
  exact Json.Written.object.inj (hw.unique hw')

/-! ## One file -/

theorem Gives.mem_names_iff (hpart : Gives written part) {name : String} :
    name ∈ part.map (·.name) ↔ name ∈ written.map (·.1) := by
  have hnames : part.map (·.name) = (ofWritten (memberValues written)).map (·.1) :=
    map_eq_of_forall₂ hpart fun _ _ h => (command_eq_ok h).1
  rw [hnames, Json.mem_keys_ofWritten, map_fst_memberValues]

/-- Every command is one that is written in the file. -/
theorem Gives.exists_member (hpart : Gives written part) {d : CommandDef} (hd : d ∈ part) :
    ∃ m ∈ written, command m.1 m.2.value = .ok d := by
  obtain ⟨m, hm, hcommand⟩ := exists_left_of_forall₂ hpart hd
  have hwritten := Json.mem_of_mem_ofWritten hm
  rw [Json.Written.memberValues_eq_map] at hwritten
  obtain ⟨m', hm', rfl⟩ := List.mem_map.1 hwritten
  exact ⟨m', hm', hcommand⟩

theorem fieldMembers_memberValues (body : List (String × Written)) :
    fieldMembers (memberValues body) = (fieldMembers body).map fun m => (m.1, m.2.value) := by
  rw [Json.Written.memberValues_eq_map, fieldMembers, List.filter_map]
  rfl

section Command

variable {m : String × Written} {d : CommandDef} (h : command m.1 m.2.value = .ok d)

include h

/-- The fields of a command have different names. -/
theorem nodup_fieldNames : (d.fields.map (·.name)).Nodup := by
  obtain ⟨-, _, entries, hvalue, hfields⟩ := command_eq_ok h
  obtain ⟨body, -, rfl⟩ := Json.Written.exists_of_value_eq_object hvalue
  rw [map_eq_of_forall₂ (fields_eq_ok hfields) fun _ _ hf => hf.1]
  exact (List.filter_sublist.map _).nodup (Json.nodup_keys_ofWritten _)

theorem declares_of_nodup
    (hn : ∀ body, m.2 = .object body → ((fieldMembers body).map (·.1)).Nodup) : Declares m d := by
  obtain ⟨hname, _, entries, hvalue, hfields⟩ := command_eq_ok h
  obtain ⟨body, hbody, rfl⟩ := Json.Written.exists_of_value_eq_object hvalue
  refine ⟨hname, body, hbody, ?_⟩
  have hmembers : fieldMembers (ofWritten (memberValues body)) =
      (fieldMembers body).map fun m => (m.1, m.2.value) := by
    -- The documentation may be repeated; it is left out before the rest makes up an object.
    rw [← fieldMembers_memberValues, fieldMembers, Json.filter_ofWritten, ← fieldMembers]
    refine Json.ofWritten_of_nodup ?_
    rw [fieldMembers_memberValues, List.map_map]
    exact hn body hbody
  have hdeclares := fields_eq_ok hfields
  rw [hmembers, List.forall₂_map_left_iff] at hdeclares
  exact hdeclares

end Command

theorem Gives.declares (hpart : Gives written part) (h : NothingRepeated written) :
    List.Forall₂ Declares written part := by
  have hkeys : ((memberValues written).map (·.1)).Nodup := map_fst_memberValues ▸ h.commands
  rw [Gives, Json.ofWritten_of_nodup hkeys, Json.Written.memberValues_eq_map,
    List.forall₂_map_left_iff] at hpart
  have hboth := (List.forall₂_and_left _ _).2 ⟨h.fields, hpart⟩
  exact hboth.imp fun _ _ ⟨hfields, hcommand⟩ => declares_of_nodup hcommand hfields

/-! ## All files -/

section Files

variable {paths : List String} {parts : List (List CommandDef)}
  {writtens : List (List (String × Written))}

theorem exists_holds
    (h : List.Forall₂ (fun path part => loadFile files path = .ok part) paths parts) :
    ∃ writtens, List.Forall₂ (Holds files) paths writtens ∧ List.Forall₂ Gives writtens parts := by
  induction h with
  | nil => exact ⟨[], .nil, .nil⟩
  | cons hpart _ ih =>
    obtain ⟨written, hholds, hgives⟩ := loadFile_eq_ok hpart
    obtain ⟨writtens, hholds', hgives'⟩ := ih
    exact ⟨written :: writtens, .cons hholds hholds', .cons hgives hgives'⟩

/-- The names of the commands are the keys that are written. -/
theorem mem_names_flatten_iff (h : List.Forall₂ Gives writtens parts) {name : String} :
    name ∈ parts.flatten.map (·.name) ↔ name ∈ writtens.flatten.map (·.1) := by
  induction h with
  | nil => rfl
  | cons hpart _ ih =>
    rw [List.flatten_cons, List.flatten_cons, List.map_append, List.map_append, List.mem_append,
      List.mem_append, hpart.mem_names_iff, ih]

theorem pairwise_keys_ne (h : List.Forall₂ Gives writtens parts)
    (hn : (parts.flatten.map (·.name)).Nodup) :
    writtens.Pairwise fun ms ms' => ∀ m ∈ ms, ∀ m' ∈ ms', m.1 ≠ m'.1 := by
  induction h with
  | nil => exact .nil
  | cons hpart hrest ih =>
    rw [List.flatten_cons, List.map_append, List.nodup_append] at hn
    refine .cons (fun ms' hms' m hm m' hm' => ?_) (ih hn.2.1)
    refine hn.2.2 m.1 (hpart.mem_names_iff.2 (List.mem_map_of_mem hm)) m'.1 ?_
    rw [mem_names_flatten_iff hrest]
    exact List.mem_map_of_mem (List.mem_flatten_of_mem hms' hm')

theorem nothingRepeated_of_declares (h : List.Forall₂ Gives writtens parts)
    (hn : (parts.flatten.map (·.name)).Nodup)
    (hdeclares : List.Forall₂ Declares writtens.flatten parts.flatten)
    (hwritten : written ∈ writtens) : NothingRepeated written := by
  constructor
  · rw [map_eq_of_forall₂ hdeclares fun _ _ hd => hd.1] at hn
    exact ((List.sublist_flatten_of_mem hwritten).map _).nodup hn
  · intro m hm body hbody
    obtain ⟨d, hd, -, body', hbody', hfields⟩ :=
      exists_right_of_forall₂ hdeclares (List.mem_flatten_of_mem hwritten hm)
    obtain rfl := Written.object.inj (hbody.symm.trans hbody')
    -- What is loaded has each field once, so the body that declares it repeats none.
    obtain ⟨part, hpart, hmem⟩ := List.mem_flatten.1 hd
    obtain ⟨_, -, hgives⟩ := exists_left_of_forall₂ h hpart
    obtain ⟨_, -, hcommand⟩ := hgives.exists_member hmem
    rw [← map_eq_of_forall₂ hfields fun _ _ hf => hf.1]
    exact nodup_fieldNames hcommand

theorem declares_of_nothingRepeated (h : List.Forall₂ Gives writtens parts)
    (hnothing : ∀ written ∈ writtens, NothingRepeated written) :
    List.Forall₂ Declares writtens.flatten parts.flatten := by
  have hboth := (List.forall₂_and_left _ _).2 ⟨hnothing, h⟩
  exact List.rel_flatten (hboth.imp fun _ _ ⟨hwritten, hgives⟩ => hgives.declares hwritten)

end Files

/-- **The commands of a source are those that are written in its files** exactly when no key is
repeated, in the object of a file or among the fields in a body. In any case the files define
different commands, and the names of all of them are loaded. -/
theorem load_declares_iff (h : load files source = .ok ds) :
    ∃ paths writtens, sourceFiles files source = .ok paths ∧
      List.Forall₂ (Holds files) paths writtens ∧
      (∀ others, List.Forall₂ (Holds files) paths others → others = writtens) ∧
      writtens.Pairwise (fun ms ms' => ∀ m ∈ ms, ∀ m' ∈ ms', m.1 ≠ m'.1) ∧
      (∀ name, name ∈ ds.map (·.name) ↔ name ∈ writtens.flatten.map (·.1)) ∧
      (List.Forall₂ Declares writtens.flatten ds ↔
        ∀ written ∈ writtens, NothingRepeated written) := by
  obtain ⟨paths, parts, hpaths, hparts, rfl, hn⟩ := load_eq_ok h
  obtain ⟨writtens, hholds, hgives⟩ := exists_holds hparts
  have hunique : Relator.RightUnique (Holds files) := fun _ _ _ h h' => h.unique h'
  refine ⟨paths, writtens, hpaths, hholds, fun others hothers => ?_, pairwise_keys_ne hgives hn,
    fun _ => mem_names_flatten_iff hgives, ?_, declares_of_nothingRepeated hgives⟩
  · exact hunique.forall₂ hothers hholds
  · exact fun hdeclares _ => nothingRepeated_of_declares hgives hn hdeclares

/-- Two files of a directory, one with documentation. -/
theorem load_declares_iff_pingPong :
    let ping := "\x7b\"Ping\": \x7b\"ABOUT\": [\"Are you there?\"], \"id\": \"int\"\x7d\x7d"
    let pong := "\x7b\"Pong\": \x7b\x7d\x7d"
    let files : FileTree := ⟨[(["schema"], .directory),
      (["schema", "ping.json"], .file (.text ping)),
      (["schema", "pong.json"], .file (.text pong))], []⟩
    let ds : List CommandDef := [⟨"Ping", some "Are you there?", [⟨"id", .integer, none⟩]⟩,
      ⟨"Pong", some "Pong command.", []⟩]
    load files "schema" = .ok ds ∧
      ∃ paths writtens, sourceFiles files "schema" = .ok paths ∧
        List.Forall₂ (Holds files) paths writtens ∧
        (∀ others, List.Forall₂ (Holds files) paths others → others = writtens) ∧
        writtens.Pairwise (fun ms ms' => ∀ m ∈ ms, ∀ m' ∈ ms', m.1 ≠ m'.1) ∧
        (∀ name, name ∈ ds.map (·.name) ↔ name ∈ writtens.flatten.map (·.1)) ∧
        (List.Forall₂ Declares writtens.flatten ds ↔
          ∀ written ∈ writtens, NothingRepeated written) := by
  intro ping pong files ds
  have hnames : (files.list "schema").filter isSchemaName = ["ping.json", "pong.json"] := by
    decide +kernel
  have hsorted : sortedTexts ["ping.json", "pong.json"] = ["ping.json", "pong.json"] :=
    List.mergeSort_of_pairwise (by decide +kernel)
  have hpaths : (["ping.json", "pong.json"].map (Path.join "schema")).filter files.isFile =
      ["schema/ping.json", "schema/pong.json"] := by
    decide +kernel
  have hsource : sourceFiles files "schema" = .ok ["schema/ping.json", "schema/pong.json"] := by
    rw [sourceFiles, if_pos (by decide +kernel), filesIn, hnames, hsorted, hpaths]
  have hload : load files "schema" = .ok ds := by
    rw [load, hsource]
    decide +kernel
  exact ⟨hload, load_declares_iff hload⟩

/-- A command that is defined twice in one file is loaded, with the last of the definitions. -/
theorem exists_lost_definition :
    let text := "\x7b\"Ping\":\x7b\"a\":\"str\"\x7d,\"Ping\":\x7b\"b\":\"int\"\x7d\x7d"
    let files : FileTree := ⟨[(["s.json"], .file (.text text))], []⟩
    ∃ written ds, Holds files "s.json" written ∧ written.map (·.1) = ["Ping", "Ping"] ∧
      load files "s.json" = .ok ds ∧
      ds = [⟨"Ping", some "Ping command.", [⟨"b", .integer, none⟩]⟩] ∧
      ¬ List.Forall₂ Declares written ds := by
  intro text files
  have hread : (Json.readWritten? text).map (·.map (·.1)) = some ["Ping", "Ping"] := by
    decide +kernel
  obtain ⟨members, hmembers, hkeys⟩ := Option.map_eq_some_iff.1 hread
  obtain ⟨written, hspelling, rfl⟩ := Json.isSpelling_of_readWritten? hmembers
  rw [map_fst_memberValues] at hkeys
  refine ⟨written, _, ⟨text, by decide +kernel, hspelling⟩, hkeys, by decide +kernel, rfl, ?_⟩
  intro hdeclares
  have hlength := hdeclares.length_eq
  rw [← List.length_map, hkeys] at hlength
  contradiction

end Schema

end CommandForge

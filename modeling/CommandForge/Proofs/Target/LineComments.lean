import CommandForge.Config
import CommandForge.Proofs.Target.Accepted
import CommandForge.Proofs.Target.DocLines
/-!
# Documentation in line comments

Four languages write documentation as line comments, each behind its own sign and each with its own
notion of what ends a line. A comment holds an end of line exactly when the documentation line does
that is written in it. Without one, the lines of code of a source, as the language cuts it, are
those of the source without the documentation (`LineComments.Writes`): documentation is then never
read as code. A documentation line never holds a line feed, so in Rust this is always so; in the
other languages a carriage return or a separator inside a line breaks out (`exists_broken_comment`).
-/

namespace CommandForge

/-- A replacement keeps the characters that it neither looks for nor puts in. -/
theorem Text.mem_replaceAll_iff {d p : Char} {pat with_ cs : List Char} (hp : d ∉ p :: pat)
    (hw : d ∉ with_) : d ∈ replaceAll p pat with_ cs ↔ d ∈ cs := by
  constructor
  · intro h
    by_contra hnot
    exact notMem_replaceAll hw hnot h
  · intro h
    fun_induction replaceAll p pat with_ cs with
    | case1 => exact h
    | case2 c cs rest hrest ih =>
      rw [eq_append_of_dropPattern? hrest, List.mem_append] at h
      exact List.mem_append_right _ (ih (h.resolve_left hp))
    | case3 c cs hnone ih =>
      rcases List.mem_cons.1 h with rfl | h
      · exact List.mem_cons_self
      · exact List.mem_cons_of_mem c (ih h)

/-! ## Commands without documentation -/

/-- The field without its documentation. -/
def FieldModel.silent (f : FieldModel) : FieldModel := { f with docs := none }

/-- The member without the documentation of its field. -/
def Member.silent (x : Member) : Member := { x with field := x.field.silent }

namespace Target

variable {t : Target}

theorem member_silent {typeName : String} {f : FieldModel} {x : Member}
    (h : t.member typeName f = .ok x) : t.member typeName f.silent = .ok x.silent := by
  have hshape : f.silent.shape t.language = f.shape t.language := rfl
  unfold member at h ⊢
  rw [hshape]
  cases hs : f.shape t.language with
  | error e => simp [hs] at h
  | ok shape =>
    simp only [hs] at h ⊢
    split at h
    · simp at h
    · rename_i hfree
      obtain rfl := Except.ok.inj h
      exact if_neg hfree

theorem memberList_silent {typeName : String} {fields : List FieldModel} {xs : List Member}
    (h : t.memberList typeName fields = .ok xs) :
    t.memberList typeName (fields.map FieldModel.silent) = .ok (xs.map Member.silent) := by
  induction fields generalizing xs with
  | nil =>
    obtain rfl := Except.ok.inj h
    rfl
  | cons f fields ih =>
    simp only [memberList] at h
    split at h
    · simp at h
    · rename_i x hx
      split at h
      · simp at h
      · rename_i rest hrest
        obtain rfl := Except.ok.inj h
        simp only [List.map_cons, memberList, member_silent hx, ih hrest]

/-! ## Comments -/

/-- How a language writes documentation in line comments. -/
structure LineComments where
  /-- What starts a comment. -/
  sign : List Char
  /-- What is written behind the sign for a documentation line. -/
  text : List Char → List Char
  /-- The characters that end a line. -/
  ends : List Char
  /-- The indentation of the comments for a command, if its documentation stands in such. -/
  commandIndent? : Option Nat
  /-- The indentation of the comments for a field. -/
  fieldIndent : Nat
  sign_ne_nil : sign ≠ [] := by decide
  sign_plain : ∀ c ∈ sign, c ≠ ' ' ∧ c ∉ ends := by simp
  newline_mem : '\n' ∈ ends := by simp
  blank_notMem : ' ' ∉ ends := by simp
  /-- What is written holds an end of line just when the documentation line does. -/
  text_iff : ∀ line, (∀ c ∈ text line, c ∉ ends) ↔ ∀ c ∈ line, c ∉ ends

namespace LineComments

variable (k : LineComments)

/-- A documentation as lines of comments. -/
def lines (indent : Nat) (docs : Option String) : List String :=
  (docLines docs).map fun line => lineAt indent (k.sign ++ k.text line)

/-- No line of the documentation holds what ends a line in the language. -/
def Fits (docs : Option String) : Prop := ∀ line ∈ docLines docs, ∀ c ∈ line, c ∉ k.ends

/-- The documentations of a command that are written as line comments, with their indentations. -/
def places (m : CommandModel) : List (Nat × Option String) :=
  (k.commandIndent?.map (·, m.docs)).toList ++ m.fields.map fun f => (k.fieldIndent, f.docs)

/-- The command without the documentations that are written as line comments. -/
def silence (m : CommandModel) : CommandModel :=
  { m with
    docs := if k.commandIndent?.isSome then none else m.docs
    fields := m.fields.map FieldModel.silent }

/-- The line is a comment behind blanks. -/
def isComment (line : List Char) : Bool := k.sign.isPrefixOf (line.dropWhile (· == ' '))

/-- The lines of a source that are not comments, where the language ends them. -/
def code (source : List Char) : List (List Char) :=
  (source.splitOnP k.ends.contains).filter (!k.isComment ·)

/-- The lines of code among written lines. -/
def codeOf (lines : List String) : List (List Char) := lines.flatMap fun line => k.code line.toList

/-! ## Lines of code -/

variable {k}

theorem code_append_newline (as bs : List Char) :
    k.code (as ++ '\n' :: bs) = k.code as ++ k.code bs := by
  have hnewline : k.ends.contains '\n' = true := by simpa using k.newline_mem
  rw [code, List.splitOnP_append_cons as bs hnewline, List.filter_append, code, code]

theorem code_sourceText (lines : List String) :
    k.code (sourceText lines).toList = k.codeOf lines ++ k.code [] := by
  induction lines with
  | nil => simp [sourceText, codeOf]
  | cons line lines ih =>
    rw [toList_sourceText_cons, code_append_newline, ih, codeOf, codeOf, List.flatMap_cons,
      List.append_assoc]

@[simp]
theorem codeOf_append (as bs : List String) : k.codeOf (as ++ bs) = k.codeOf as ++ k.codeOf bs :=
  List.flatMap_append

theorem codeOf_singleton (line : String) : k.codeOf [line] = k.code line.toList :=
  List.flatMap_singleton ..

/-- A comment that holds no end of line is no code. -/
theorem code_comment (indent : Nat) {text : List Char} (h : ∀ c ∈ text, c ∉ k.ends) :
    k.code (lineAt indent (k.sign ++ text)).toList = [] := by
  have hends : ∀ c ∈ (lineAt indent (k.sign ++ text)).toList, k.ends.contains c = false := by
    intro c hc
    rw [toList_lineAt, List.mem_append, List.mem_append] at hc
    have hnot : c ∉ k.ends := by
      rcases hc with hc | hc | hc
      · exact List.eq_of_mem_replicate hc ▸ k.blank_notMem
      · exact (k.sign_plain c hc).2
      · exact h c hc
    simpa using hnot
  have hcomment : k.isComment (lineAt indent (k.sign ++ text)).toList = true := by
    obtain ⟨c, rest, hs⟩ := List.exists_cons_of_ne_nil k.sign_ne_nil
    have hc : c ≠ ' ' := (k.sign_plain c (hs ▸ List.mem_cons_self)).1
    rw [isComment, hs, List.cons_append, dropWhile_lineAt indent hc, List.isPrefixOf_iff_prefix]
    exact List.prefix_append (c :: rest) text
  rw [code, List.splitOnP_eq_singleton hends,
    List.filter_cons_of_neg (by simp only [hcomment]; decide), List.filter_nil]

theorem codeOf_lines {docs : Option String} (h : k.Fits docs) (indent : Nat) :
    k.codeOf (k.lines indent docs) = [] := by
  rw [codeOf, List.flatMap_eq_nil_iff]
  intro line hl
  obtain ⟨doc, hdoc, rfl⟩ := List.mem_map.1 hl
  exact code_comment indent ((k.text_iff doc).2 (h doc hdoc))

/-- Blocks of lines for members have the code that they have without documentation when each of
them does. -/
theorem codeOf_flatMap {xs : List Member} {f : Member → List String}
    (h : ∀ x ∈ xs, k.codeOf (f x) = k.codeOf (f x.silent)) :
    k.codeOf (xs.flatMap f) = k.codeOf ((xs.map Member.silent).flatMap f) := by
  induction xs with
  | nil => rfl
  | cons x xs ih =>
    rw [List.flatMap_cons, codeOf_append, h x List.mem_cons_self,
      ih fun y hy => h y (List.mem_cons_of_mem x hy), List.map_cons, List.flatMap_cons,
      codeOf_append]

/-- What a target does that writes its line comments as `k` says: they are part of the file, and
when no end of line stands in them, its code is that of the file without them. -/
structure Writes (k : LineComments) (t : Target) : Prop where
  infix_render : ∀ {m : CommandModel} {xs : List Member}, xs.map (·.field) = m.fields →
    ∀ p ∈ k.places m, k.lines p.1 p.2 <:+: t.render m xs
  codeOf_render : ∀ {m : CommandModel} {xs : List Member}, xs.map (·.field) = m.fields →
    (∀ p ∈ k.places m, k.Fits p.2) →
      k.codeOf (t.render m xs) = k.codeOf (t.render (k.silence m) (xs.map Member.silent))

theorem fits_none : k.Fits none := fun line hl => by simp [docLines] at hl

theorem fits_silent (x : Member) : k.Fits x.silent.field.docs := fits_none

section

variable {m : CommandModel} {xs : List Member} (hxs : xs.map (·.field) = m.fields)

include hxs

theorem fits_field (h : ∀ p ∈ k.places m, k.Fits p.2) {x : Member} (hx : x ∈ xs) :
    k.Fits x.field.docs := by
  have hf : x.field ∈ m.fields := hxs ▸ List.mem_map.2 ⟨x, hx, rfl⟩
  exact h _ (List.mem_append_right _ (List.mem_map.2 ⟨x.field, hf, rfl⟩))

/-- The comments of a command are part of the file when they are in the file for a command and in
the blocks of lines for its members. -/
theorem infix_of_infix_flatMap {file : List String} {f : Member → List String}
    (hcommand : ∀ indent ∈ k.commandIndent?, k.lines indent m.docs <:+: file)
    (hfield : ∀ x, k.lines k.fieldIndent x.field.docs <:+: f x) (hfile : xs.flatMap f <:+: file) :
    ∀ p ∈ k.places m, k.lines p.1 p.2 <:+: file := by
  intro p hp
  rcases List.mem_append.1 hp with hp | hp
  · obtain ⟨indent, hi, rfl⟩ := Option.map_eq_some_iff.1 (Option.mem_toList.1 hp)
    exact hcommand indent hi
  · obtain ⟨g, hg, rfl⟩ := List.mem_map.1 hp
    obtain ⟨x, hx, rfl⟩ := List.mem_map.1 (hxs ▸ hg)
    obtain ⟨before, after, rfl⟩ := List.append_of_mem hx
    have hblock : f x <:+: (before ++ x :: after).flatMap f :=
      ⟨before.flatMap f, after.flatMap f, by simp⟩
    exact ((hfield x).trans hblock).trans hfile

end

end LineComments

open LineComments (Writes code_comment codeOf_singleton codeOf_append codeOf_lines codeOf_flatMap
  fits_none fits_silent fits_field infix_of_infix_flatMap)

/-! ## Python -/

namespace Python

/-- The comments of Python attributes. -/
def lineComments : LineComments where
  sign := ['#']
  text := (' ' :: ·)
  ends := ['\n', '\r']
  commandIndent? := none
  fieldIndent := 4
  text_iff := by simp

theorem comments_eq (docs : Option String) : comments docs = lineComments.lines 4 docs := by
  have hmark : "    # " = lineAt 4 ['#', ' '] := rfl
  refine List.map_congr_left fun line _ => ?_
  rw [hmark, lineAt_append]
  rfl

theorem writes_lineComments : Writes lineComments python where
  infix_render := fun {m xs} hxs => by
    refine infix_of_infix_flatMap hxs (fun _ h => by simp [lineComments] at h) (fun x => ?_)
      (List.suffix_append _ _).isInfix
    rw [attributeLines, comments_eq]
    exact (List.prefix_append _ _).isInfix
  codeOf_render := fun {m xs} hxs h => by
    have hattribute : ∀ x ∈ xs, lineComments.codeOf (attributeLines x) =
        lineComments.codeOf (attributeLines x.silent) := by
      intro x hx
      rw [attributeLines, attributeLines, comments_eq, comments_eq, codeOf_append,
        codeOf_append, codeOf_lines (fits_field hxs h hx), codeOf_lines (fits_silent x)]
      rfl
    have himport : typingImport (lineComments.silence m) = typingImport m := by
      simp [typingImport, CommandModel.hasOptionalFields, LineComments.silence, List.any_map,
        Function.comp_def, FieldModel.silent]
    simp only [python, render, codeOf_append, codeOf_flatMap hattribute, himport,
      List.isEmpty_map]
    rfl

end Python

/-! ## JavaScript -/

namespace JavaScript

/-- The comments of JavaScript properties. -/
def lineComments : LineComments where
  sign := ['/', '/']
  text := (' ' :: ·)
  ends := ['\n', '\r', '\u2028', '\u2029']
  commandIndent? := none
  fieldIndent := 8
  text_iff := by simp

theorem comments_eq (docs : Option String) : comments docs = lineComments.lines 8 docs := by
  have hmark : "        // " = lineAt 8 ['/', '/', ' '] := rfl
  refine List.map_congr_left fun line _ => ?_
  rw [hmark, lineAt_append]
  rfl

theorem writes_lineComments : Writes lineComments javaScript where
  infix_render := fun {m xs} hxs => by
    refine infix_of_infix_flatMap hxs (fun _ h => by simp [lineComments] at h) (fun x => ?_)
      ⟨_, _, rfl⟩
    rw [property, comments_eq]
    exact (List.prefix_append _ _).isInfix
  codeOf_render := fun {m xs} hxs h => by
    have hproperty : ∀ x ∈ xs,
        lineComments.codeOf (property x) = lineComments.codeOf (property x.silent) := by
      intro x hx
      rw [property, property, comments_eq, comments_eq, codeOf_append, codeOf_append,
        codeOf_lines (fits_field hxs h hx), codeOf_lines (fits_silent x)]
      rfl
    have htable : fieldTable (xs.map Member.silent) = fieldTable xs := by
      simp only [fieldTable, List.isEmpty_map, List.map_map]
      rfl
    simp only [javaScript, render, codeOf_append, codeOf_flatMap hproperty, htable,
      List.isEmpty_map]
    rfl

end JavaScript

/-! ## C# -/

namespace CSharp

/-- The signs of XML and the letters of their escapes. -/
def xmlSigns : List Char := ['&', '<', '>', 'a', 'm', 'p', ';', 'l', 'g', 't']

theorem mem_xmlText_iff {c : Char} (hc : c ∉ xmlSigns) {line : List Char} :
    c ∈ xmlText line ↔ c ∈ line := by
  simp only [xmlSigns, List.mem_cons, List.not_mem_nil, or_false, not_or] at hc
  have hamp : c ∉ "&amp;".toList := by rw [toList_lit rfl]; simp [hc]
  have hless : c ∉ "&lt;".toList := by rw [toList_lit rfl]; simp [hc]
  have hgreater : c ∉ "&gt;".toList := by rw [toList_lit rfl]; simp [hc]
  unfold xmlText
  rw [Text.mem_replaceAll_iff (by simp [hc]) hgreater, Text.mem_replaceAll_iff (by simp [hc]) hless,
    Text.mem_replaceAll_iff (by simp [hc]) hamp]

/-- The comments of C# classes and properties. -/
def lineComments : LineComments where
  sign := ['/', '/', '/']
  text line := ' ' :: xmlText line
  ends := ['\n', '\r', '\u0085', '\u2028', '\u2029']
  commandIndent? := some 4
  fieldIndent := 8
  text_iff line := by
    have hends : ∀ c ∈ ['\n', '\r', '\u0085', '\u2028', '\u2029'], c ∉ xmlSigns := by
      simp [xmlSigns]
    constructor
    · intro h c hc hmem
      exact h c (List.mem_cons_of_mem ' ' ((mem_xmlText_iff (hends c hmem)).2 hc)) hmem
    · intro h c hc hmem
      rcases List.mem_cons.1 hc with rfl | hc
      · simp at hmem
      · exact h c ((mem_xmlText_iff (hends c hmem)).1 hc) hmem

/-- The tag that opens a summary. -/
def openTag : List Char := [' ', '<', 's', 'u', 'm', 'm', 'a', 'r', 'y', '>']

/-- The tag that closes a summary. -/
def closeTag : List Char := [' ', '<', '/', 's', 'u', 'm', 'm', 'a', 'r', 'y', '>']

theorem summary_eq {s : String} {cs : List Char} {indent : Nat} (hs : s = String.ofList cs)
    (hcs : cs = List.replicate indent ' ') (docs : Option String) :
    summary s docs = if docLines docs = [] then []
      else [lineAt indent (lineComments.sign ++ openTag)] ++ lineComments.lines indent docs
        ++ [lineAt indent (lineComments.sign ++ closeTag)] := by
  have hopen : s ++ "/// <summary>" = lineAt indent (lineComments.sign ++ openTag) :=
    append_eq_lineAt hs hcs rfl
  have hclose : s ++ "/// </summary>" = lineAt indent (lineComments.sign ++ closeTag) :=
    append_eq_lineAt hs hcs rfl
  have hmark : s ++ "/// " = lineAt indent (lineComments.sign ++ [' ']) :=
    append_eq_lineAt hs hcs rfl
  unfold summary
  split
  · rename_i h
    rw [if_pos h]
  · rename_i hne
    rw [if_neg hne, hopen, hclose, hmark]
    simp only [lineAt_append]
    rfl

theorem codeOf_summary (indent : Nat) {s : String} {cs : List Char} (hs : s = String.ofList cs)
    (hcs : cs = List.replicate indent ' ') {docs : Option String} (h : lineComments.Fits docs) :
    lineComments.codeOf (summary s docs) = [] := by
  rw [summary_eq hs hcs]
  split
  · rfl
  · have hopen : ∀ c ∈ openTag, c ∉ lineComments.ends := by simp [openTag, lineComments]
    have hclose : ∀ c ∈ closeTag, c ∉ lineComments.ends := by simp [closeTag, lineComments]
    rw [codeOf_append, codeOf_append, codeOf_lines h, codeOf_singleton, codeOf_singleton,
      code_comment indent hopen, code_comment indent hclose]
    rfl

theorem lines_infix_summary (docs : Option String) {s : String} {cs : List Char} {indent : Nat}
    (hs : s = String.ofList cs) (hcs : cs = List.replicate indent ' ') :
    lineComments.lines indent docs <:+: summary s docs := by
  rw [summary_eq hs hcs]
  split
  · rename_i h
    rw [LineComments.lines, h]
    exact List.nil_infix
  · exact List.infix_append _ _ _

theorem writes_lineComments (ns : String) : Writes lineComments (cSharp ns) where
  infix_render := fun {m xs} hxs => by
    refine infix_of_infix_flatMap hxs (fun indent h => ?_) (fun x => ?_) (List.infix_append _ _ _)
    · obtain rfl : 4 = indent := Option.some.inj h
      have hsummary : summary "    " m.docs <:+: (cSharp ns).render m xs :=
        List.infix_append_of_infix_left (List.infix_append_of_infix_left
          (List.infix_append_of_infix_left List.infix_append_right))
      have hlines : lineComments.lines 4 m.docs <:+: summary "    " m.docs :=
        lines_infix_summary m.docs rfl rfl
      exact hlines.trans hsummary
    · have hlines : lineComments.lines 8 x.field.docs <:+: summary "        " x.field.docs :=
        lines_infix_summary x.field.docs rfl rfl
      exact hlines.trans (List.infix_append _ _ _)
  codeOf_render := fun {m xs} hxs h => by
    have hsummary : ∀ docs, lineComments.Fits docs →
        lineComments.codeOf (summary "        " docs) = [] :=
      fun _ => codeOf_summary 8 rfl rfl
    have hproperty : ∀ x ∈ xs,
        lineComments.codeOf (property x) = lineComments.codeOf (property x.silent) := by
      intro x hx
      rw [property, property, codeOf_append, codeOf_append, codeOf_append, codeOf_append,
        hsummary _ (fits_field hxs h hx), hsummary _ (fits_silent x)]
      rfl
    have hdocs : lineComments.Fits m.docs :=
      h (4, m.docs) (List.mem_append_left _ List.mem_cons_self)
    have hcommand : lineComments.codeOf (summary "    " m.docs) = [] :=
      codeOf_summary 4 rfl rfl hdocs
    simp only [cSharp, render, codeOf_append, codeOf_flatMap hproperty, List.isEmpty_map, hcommand]
    rfl

end CSharp

/-! ## Rust -/

namespace Rust

/-- The comments of Rust structs and fields. -/
def lineComments : LineComments where
  sign := ['/', '/', '/']
  text := spaced
  ends := ['\n']
  commandIndent? := some 0
  fieldIndent := 4
  text_iff line := by
    cases line <;> simp [spaced]

theorem docComments_eq (docs : Option String) {s : String} {cs : List Char} {indent : Nat}
    (hs : s = String.ofList cs) (hcs : cs = List.replicate indent ' ') :
    docComments s docs = lineComments.lines indent docs := by
  exact List.map_congr_left fun line _ => marked_eq_lineAt hs hcs rfl line

theorem flatMap_infix_structLines (name : String) (xs : List Member) :
    xs.flatMap fieldLines <:+: structLines name xs := by
  unfold structLines
  split
  · rename_i hempty
    rw [List.isEmpty_iff.1 hempty]
    exact List.nil_infix
  · exact List.infix_append _ _ _

theorem writes_lineComments (runtimeCrate : String) :
    Writes lineComments (rust runtimeCrate) where
  infix_render := fun {m xs} hxs => by
    have hstruct : xs.flatMap fieldLines <:+: (rust runtimeCrate).render m xs :=
      List.infix_append_of_infix_left (List.infix_append_of_infix_right
        (flatMap_infix_structLines m.typeName xs))
    refine infix_of_infix_flatMap hxs (fun indent h => ?_) (fun x => ?_) hstruct
    · obtain rfl : 0 = indent := Option.some.inj h
      have hlines : docComments "" m.docs = lineComments.lines 0 m.docs :=
        docComments_eq _ String.ofList_nil.symm rfl
      rw [← hlines]
      exact List.infix_append_of_infix_left (List.infix_append_of_infix_left
        (List.infix_append_of_infix_left List.infix_append_right))
    · have hlines : docComments "    " x.field.docs = lineComments.lines 4 x.field.docs :=
        docComments_eq _ rfl rfl
      rw [fieldLines, List.append_assoc, hlines]
      exact (List.prefix_append _ _).isInfix
  codeOf_render := fun {m xs} hxs h => by
    have hcomments : ∀ docs, lineComments.Fits docs →
        lineComments.codeOf (docComments "    " docs) = [] := by
      intro docs hfits
      have hlines : docComments "    " docs = lineComments.lines 4 docs := docComments_eq _ rfl rfl
      rw [hlines, codeOf_lines hfits]
    have hfield : ∀ x ∈ xs,
        lineComments.codeOf (fieldLines x) = lineComments.codeOf (fieldLines x.silent) := by
      intro x hx
      rw [fieldLines, fieldLines, codeOf_append, codeOf_append, codeOf_append, codeOf_append,
        hcomments _ (fits_field hxs h hx), hcomments _ (fits_silent x)]
      rfl
    have hstruct : lineComments.codeOf (structLines m.typeName xs) =
        lineComments.codeOf (structLines m.typeName (xs.map Member.silent)) := by
      simp only [structLines, List.isEmpty_map]
      split
      · rfl
      · simp only [codeOf_append, codeOf_flatMap hfield]
    have hcommand : lineComments.codeOf (docComments "" m.docs) = [] := by
      have hlines : docComments "" m.docs = lineComments.lines 0 m.docs :=
        docComments_eq _ String.ofList_nil.symm rfl
      rw [hlines, codeOf_lines (h (0, m.docs) (List.mem_append_left _ List.mem_cons_self))]
    simp only [rust, render, codeOf_append, hstruct, hcommand]
    rfl

end Rust

/-! ## Built-in languages -/

/-- The line comments of a built-in language. -/
def lineComments? (language : String) : Option LineComments :=
  match language with
  | "python" => some Python.lineComments
  | "javascript" => some JavaScript.lineComments
  | "csharp" => some CSharp.lineComments
  | "rust" => some Rust.lineComments
  | _ => none

theorem writes_of_builtin? {language : String} {c : Config} {t : Target} {k : LineComments}
    (ht : builtin? language c = some t) (hk : lineComments? language = some k) : Writes k t := by
  unfold lineComments? at hk
  split at hk
  · obtain rfl := Option.some.inj ht
    obtain rfl := Option.some.inj hk
    exact Python.writes_lineComments
  · obtain rfl := Option.some.inj ht
    obtain rfl := Option.some.inj hk
    exact JavaScript.writes_lineComments
  · obtain rfl := Option.some.inj ht
    obtain rfl := Option.some.inj hk
    exact CSharp.writes_lineComments c.typeNamespace
  · obtain rfl := Option.some.inj ht
    obtain rfl := Option.some.inj hk
    exact Rust.writes_lineComments c.rustCrate
  · simp at hk

/-- A documentation line never holds a line feed, which is all that ends a line in Rust. -/
theorem Rust.fits (docs : Option String) : lineComments.Fits docs := by
  intro line hl c hc hend
  obtain rfl := List.mem_singleton.1 hend
  exact newline_notMem_of_mem_docLines hl hc

/-- A command that is emitted is emitted without documentation too. -/
theorem emit_silence {t : Target} {m : CommandModel} {text : String} (h : t.emit m = .ok text)
    (k : LineComments) :
    ∃ members, t.memberList m.typeName m.fields = .ok members ∧
      text = sourceText (t.render m members) ∧
      t.emit (k.silence m) =
        .ok (sourceText (t.render (k.silence m) (members.map Member.silent))) := by
  obtain ⟨hfree, members, hmembers, htext⟩ := emit_eq_ok_iff.1 h
  exact ⟨members, hmembers, htext,
    emit_eq_ok_iff.2 ⟨hfree, members.map Member.silent, memberList_silent hmembers, rfl⟩⟩

/-- **When documentation stays in its line comments.** The documentations that a built-in language
writes in line comments stand in the file as such. Their text holds no character that ends a line in
the language just when no documentation line does, as is always so in Rust; and then the lines of
code of the file, as the language cuts it, are those of the command without them. -/
theorem lineComments_hold_iff {language : String} {c : Config} {t : Target} {k : LineComments}
    (ht : builtin? language c = some t) (hk : lineComments? language = some k) {m : CommandModel}
    {text : String} (h : t.emit m = .ok text) :
    (∃ members, t.memberList m.typeName m.fields = .ok members ∧
      text = sourceText (t.render m members) ∧
      ∀ p ∈ k.places m, k.lines p.1 p.2 <:+: t.render m members) ∧
    (∀ p ∈ k.places m,
      (∀ line ∈ docLines p.2, ∀ c ∈ k.text line, c ∉ k.ends) ↔ k.Fits p.2) ∧
    (language = "rust" → ∀ p ∈ k.places m, k.Fits p.2) ∧
    ((∀ p ∈ k.places m, k.Fits p.2) →
      ∃ bare, t.emit (k.silence m) = .ok bare ∧ k.code text.toList = k.code bare.toList) := by
  have hw := writes_of_builtin? ht hk
  obtain ⟨members, hmembers, rfl, hsilent⟩ := emit_silence h k
  have hfields := (memberList_eq_ok hmembers).1
  refine ⟨⟨members, hmembers, rfl, hw.infix_render hfields⟩, ?_, ?_, ?_⟩
  · exact fun p _ => forall₂_congr fun line _ => k.text_iff line
  · rintro rfl p -
    obtain rfl := Option.some.inj hk
    exact Rust.fits p.2
  · intro hfits
    refine ⟨_, hsilent, ?_⟩
    rw [LineComments.code_sourceText, LineComments.code_sourceText, hw.codeOf_render hfields hfits]

/-- A carriage return at the end of a documentation line is trimmed. -/
theorem lineComments_hold_iff_ping :
    let f : FieldModel := ⟨"delay", "delay", .integer, some "in ms\r\n or s"⟩
    let m : CommandModel := ⟨"Ping", "ping", none, [f]⟩
    let k := Python.lineComments
    let text := sourceText (python.render m [⟨f, ⟨.integer, false⟩, "delay"⟩])
    builtin? "python" {} = some python ∧ lineComments? "python" = some k ∧
      python.emit m = .ok text ∧
      (∃ members, python.memberList m.typeName m.fields = .ok members ∧
        text = sourceText (python.render m members) ∧
        ∀ p ∈ k.places m, k.lines p.1 p.2 <:+: python.render m members) ∧
      (∀ p ∈ k.places m, (∀ line ∈ docLines p.2, ∀ c ∈ k.text line, c ∉ k.ends) ↔ k.Fits p.2) ∧
      ∃ bare, python.emit (k.silence m) = .ok bare ∧
        k.code text.toList = k.code bare.toList := by
  intro f m k text
  have ht : builtin? "python" {} = some python := rfl
  have hk : lineComments? "python" = some k := rfl
  have h : python.emit m = .ok text :=
    emit_eq_ok_iff.2 ⟨by decide +kernel, _, by decide +kernel, rfl⟩
  have hdocs : docLines f.docs = [['i', 'n', ' ', 'm', 's'], ['o', 'r', ' ', 's']] := by
    decide +kernel
  have hfits : ∀ p ∈ k.places m, k.Fits p.2 := by
    intro p hp line hl
    obtain rfl : p = (4, f.docs) := List.mem_singleton.1 hp
    rw [hdocs] at hl
    rcases List.mem_pair.1 hl with rfl | rfl <;> simp [k, Python.lineComments]
  obtain ⟨hplaces, hiff, -, hcode⟩ := lineComments_hold_iff ht hk h
  exact ⟨ht, hk, h, hplaces, hiff, hcode hfits⟩

/-- The command is emitted with an end of line within one of its comments, and `piece` as code. -/
def Spills (t : Target) (k : LineComments) (d : CommandDef) (piece : String) : Prop :=
  ∃ m text, CommandModel.resolve d = .ok m ∧ t.emit m = .ok text ∧
    (∃ p ∈ k.places m, ∃ line ∈ docLines p.2, ∃ c ∈ k.text line, c ∈ k.ends) ∧
    piece.toList ∈ k.code text.toList

/-- What follows an end of line within a documentation line is code: of Python behind a carriage
return, of JavaScript behind a line separator, of C# behind a next-line character. -/
theorem exists_broken_comment :
    python.Spills Python.lineComments
      ⟨"Ping", none, [⟨"delay", .integer, some "in ms\rraise SystemExit"⟩]⟩ "raise SystemExit" ∧
    javaScript.Spills JavaScript.lineComments
      ⟨"Ping", none, [⟨"delay", .integer, some "in ms\u2028throw new Error();"⟩]⟩
      "throw new Error();" ∧
    (cSharp "GeneratedCommands").Spills CSharp.lineComments
      ⟨"Ping", none, [⟨"delay", .integer, some "in ms\u0085#error in s"⟩]⟩ "#error in s" := by
  refine ⟨?_, ?_, ?_⟩
  · let f : FieldModel := ⟨"delay", "delay", .integer, some "in ms\rraise SystemExit"⟩
    have hdocs : docLines f.docs = ["in ms\rraise SystemExit".toList] := by decide +kernel
    refine ⟨⟨"Ping", "ping", none, [f]⟩, _, by decide +kernel,
      emit_eq_ok_iff.2
        ⟨by decide +kernel, [⟨f, ⟨.integer, false⟩, "delay"⟩], by decide +kernel, rfl⟩,
      ⟨(4, f.docs), List.mem_cons_self, _, hdocs ▸ List.mem_cons_self, '\r', ?_, ?_⟩, ?_⟩
    · decide +kernel
    · decide
    · rw [LineComments.code_sourceText]
      exact List.mem_append_left _ (by decide +kernel)
  · let f : FieldModel := ⟨"delay", "delay", .integer, some "in ms\u2028throw new Error();"⟩
    have hdocs : docLines f.docs = ["in ms\u2028throw new Error();".toList] := by decide +kernel
    refine ⟨⟨"Ping", "ping", none, [f]⟩, _, by decide +kernel,
      emit_eq_ok_iff.2
        ⟨by decide +kernel, [⟨f, ⟨.integer, false⟩, "delay"⟩], by decide +kernel, rfl⟩,
      ⟨(8, f.docs), List.mem_cons_self, _, hdocs ▸ List.mem_cons_self, '\u2028', ?_, ?_⟩, ?_⟩
    · decide +kernel
    · decide
    · rw [LineComments.code_sourceText]
      exact List.mem_append_left _ (by decide +kernel)
  · let f : FieldModel := ⟨"delay", "delay", .integer, some "in ms\u0085#error in s"⟩
    have hdocs : docLines f.docs = ["in ms\u0085#error in s".toList] := by decide +kernel
    refine ⟨⟨"Ping", "ping", none, [f]⟩, _, by decide +kernel,
      emit_eq_ok_iff.2
        ⟨by decide +kernel, [⟨f, ⟨.integer, false⟩, "Delay"⟩], by decide +kernel, rfl⟩,
      ⟨(8, f.docs), List.mem_cons_of_mem _ List.mem_cons_self, _, hdocs ▸ List.mem_cons_self,
        '\u0085', ?_, ?_⟩, ?_⟩
    · decide +kernel
    · decide
    · rw [LineComments.code_sourceText]
      exact List.mem_append_left _ (by decide +kernel)

end Target

end CommandForge

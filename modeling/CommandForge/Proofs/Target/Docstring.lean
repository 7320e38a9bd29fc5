import CommandForge.Proofs.Target.Python
import CommandForge.Proofs.Text.Trimmed
/-!
# Docstrings

A long string of Python is read by two rules (`readLong`): a backslash takes the next character
with it, and the first three quotes in a row of which none is taken end the string. The docstring
of a class is written so that these rules give back the documentation, line by line, and end where
the docstring was closed (`docstring_reads`).
-/

namespace CommandForge.Target.Python

open Identifier (IsName)

/-! ## Long strings -/

/-- What a backslash and the character behind it stand for. Escapes that are spelled out further,
by digits or by a name, are not read. -/
def escapeValue? (c : Char) : Option (List Char) :=
  match c with
  | '\n' => some []
  | '\\' => some ['\\']
  | '\'' => some ['\'']
  | '"' => some ['"']
  | 'a' => some ['\x07']
  | 'b' => some ['\x08']
  | 'f' => some ['\x0c']
  | 'n' => some ['\n']
  | 'r' => some ['\r']
  | 't' => some ['\t']
  | 'v' => some ['\x0b']
  | c =>
    if ['0', '1', '2', '3', '4', '5', '6', '7', 'x', 'u', 'U', 'N'].contains c then none
    else some ['\\', c]

/-- Reads a long string from behind its opening quotes: what it says, and what follows the quotes
that end it. -/
def readLong : List Char → Option (List Char × List Char)
  | [] => none
  | '"' :: '"' :: '"' :: after => some ([], after)
  | '\\' :: c :: rest =>
    (escapeValue? c).bind fun value => (readLong rest).map fun r => (value ++ r.1, r.2)
  | c :: rest => (readLong rest).map fun r => (c :: r.1, r.2)

/-- Reads the first string of a source text, a long one. -/
def readFirst (source : List Char) : Option (List Char × List Char) :=
  match source.dropWhile (· ≠ '"') with
  | '"' :: '"' :: '"' :: rest => readLong rest
  | _ => none

theorem readLong_plain {c : Char} {rest : List Char} (hc : c ≠ '\\')
    (hq : ¬ ['"', '"', '"'] <+: c :: rest) :
    readLong (c :: rest) = (readLong rest).map fun r => (c :: r.1, r.2) := by
  rw [readLong]
  · rintro after rfl rfl
    exact hq (List.prefix_append ['"', '"', '"'] after)
  · rintro d more rfl _
    exact hc rfl

theorem readLong_unmarked {cs : List Char} (h : ∀ c ∈ cs, c ≠ '\\' ∧ c ≠ '"') (rest : List Char) :
    readLong (cs ++ rest) = (readLong rest).map fun r => (cs ++ r.1, r.2) := by
  induction cs with
  | nil => simp
  | cons c cs ih =>
    obtain ⟨hc, hcs⟩ := List.forall_mem_cons.1 h
    rw [List.cons_append, readLong_plain hc.1, ih hcs, Option.map_map]
    · rfl
    · intro hq
      exact hc.2 (List.cons_prefix_cons.1 hq).1.symm

/-! ## Escaped lines -/

/-- The pieces in which a line is escaped: a backslash, three quotes in a row, or one character. -/
inductive Escaped : List Char → List Char → Prop
  | nil : Escaped [] []
  | backslash {cs ws} (h : Escaped cs ws) : Escaped ('\\' :: cs) ('\\' :: '\\' :: ws)
  | quotes {cs ws} (h : Escaped cs ws) :
      Escaped ('"' :: '"' :: '"' :: cs) ('\\' :: '"' :: '\\' :: '"' :: '\\' :: '"' :: ws)
  | plain {c cs ws} (hc : c ≠ '\\') (hq : ¬ ['"', '"', '"'] <+: c :: cs) (h : Escaped cs ws) :
      Escaped (c :: cs) (c :: ws)

theorem replaceAll_cons_of_none {p c : Char} {pat with_ cs : List Char}
    (h : Text.dropPattern? (p :: pat) (c :: cs) = none) :
    Text.replaceAll p pat with_ (c :: cs) = c :: Text.replaceAll p pat with_ cs := by
  rw [Text.replaceAll]
  split
  · rename_i rest hrest
    rw [h] at hrest
    cases hrest
  · rfl

theorem replaceAll_backslash_of_ne {c : Char} (hc : c ≠ '\\') (cs : List Char) :
    Text.replaceAll '\\' [] ['\\', '\\'] (c :: cs) =
      c :: Text.replaceAll '\\' [] ['\\', '\\'] cs :=
  replaceAll_cons_of_none (by rw [Text.dropPattern?, if_neg (Ne.symm hc)])

theorem docstringText_backslash (cs : List Char) :
    docstringText ('\\' :: cs) = '\\' :: '\\' :: docstringText cs := by
  have hdoubled : Text.replaceAll '\\' [] ['\\', '\\'] ('\\' :: cs) =
      '\\' :: '\\' :: Text.replaceAll '\\' [] ['\\', '\\'] cs := by
    rw [Text.replaceAll]
    rfl
  rw [docstringText, hdoubled, replaceAll_cons_of_none rfl, replaceAll_cons_of_none rfl]
  rfl

theorem docstringText_quotes (cs : List Char) :
    docstringText ('"' :: '"' :: '"' :: cs) =
      '\\' :: '"' :: '\\' :: '"' :: '\\' :: '"' :: docstringText cs := by
  have hquote : ('"' : Char) ≠ '\\' := by decide
  rw [docstringText, replaceAll_backslash_of_ne hquote, replaceAll_backslash_of_ne hquote,
    replaceAll_backslash_of_ne hquote, Text.replaceAll]
  rfl

/-- Doubling backslashes brings no quotes together. -/
theorem eq_cons_of_replaceAll_backslash {cs ds : List Char}
    (h : Text.replaceAll '\\' [] ['\\', '\\'] cs = '"' :: ds) :
    ∃ rest, cs = '"' :: rest ∧ Text.replaceAll '\\' [] ['\\', '\\'] rest = ds :=
  (Text.eq_cons_of_replaceAll (by decide) h).2

theorem docstringText_plain {c : Char} {cs : List Char} (hc : c ≠ '\\')
    (hq : ¬ ['"', '"', '"'] <+: c :: cs) : docstringText (c :: cs) = c :: docstringText cs := by
  rw [docstringText, replaceAll_backslash_of_ne hc, replaceAll_cons_of_none]
  · rfl
  · rw [Option.eq_none_iff_forall_ne_some]
    intro rest hrest
    have hquotes := Text.eq_append_of_dropPattern? hrest
    obtain ⟨rfl, htail⟩ := List.cons.inj hquotes
    obtain ⟨ds, rfl, hds⟩ := eq_cons_of_replaceAll_backslash htail
    obtain ⟨es, rfl, -⟩ := eq_cons_of_replaceAll_backslash hds
    exact hq (List.prefix_append ['"', '"', '"'] es)

theorem escaped_docstringText (line : List Char) : Escaped line (docstringText line) := by
  induction hlength : line.length using Nat.strong_induction_on generalizing line with
  | h n ih =>
    cases line with
    | nil =>
      rw [docstringText, Text.replaceAll, Text.replaceAll]
      exact .nil
    | cons c cs =>
      rw [List.length_cons] at hlength
      by_cases hc : c = '\\'
      · subst hc
        rw [docstringText_backslash]
        exact .backslash (ih cs.length (by omega) cs rfl)
      by_cases hq : ['"', '"', '"'] <+: c :: cs
      · obtain ⟨rest, hrest⟩ := hq
        have hshort := congrArg List.length hrest
        simp only [List.cons_append, List.nil_append, List.length_cons] at hrest hshort
        rw [← hrest, docstringText_quotes]
        exact .quotes (ih rest.length (by omega) rest rfl)
      · rw [docstringText_plain hc hq]
        exact .plain hc hq (ih cs.length (by omega) cs rfl)

/-- A quote that is written without a backslash is one of the line itself. -/
theorem Escaped.of_quote {cs ws : List Char} (h : Escaped cs ('"' :: ws)) :
    ∃ rest, cs = '"' :: rest ∧ Escaped rest ws := by
  cases h with
  | plain _ _ h => exact ⟨_, rfl, h⟩

/-- An escaped line reads as the line, whatever is read behind it. -/
theorem Escaped.readLong {line ws rest : List Char} (h : Escaped line ws)
    (hrest : rest.head? ≠ some '"') :
    readLong (ws ++ rest) = (readLong rest).map fun r => (line ++ r.1, r.2) := by
  induction h with
  | nil => simp
  | backslash h ih =>
    rw [List.cons_append, List.cons_append, Python.readLong, ih, escapeValue?, Option.bind_some,
      Option.map_map]
    rfl
  | quotes h ih =>
    simp only [List.cons_append]
    rw [Python.readLong, Python.readLong, Python.readLong, ih]
    simp only [escapeValue?, Option.bind_some, Option.map_map]
    rfl
  | @plain c cs ws hc hq h ih =>
    rw [List.cons_append, readLong_plain hc, ih, Option.map_map]
    · rfl
    · -- Three quotes in a row would be three of the line: what follows it starts with no quote.
      intro hquotes
      obtain ⟨rfl, htwo⟩ := List.cons_prefix_cons.1 hquotes
      cases ws with
      | nil =>
        obtain ⟨after, rfl⟩ : ['"', '"'] <+: rest := htwo
        exact hrest rfl
      | cons w ws =>
        obtain ⟨rfl, hone⟩ := List.cons_prefix_cons.1 htwo
        obtain ⟨ds, rfl, hds⟩ := h.of_quote
        cases ws with
        | nil =>
          obtain ⟨after, rfl⟩ : ['"'] <+: rest := hone
          exact hrest rfl
        | cons w ws =>
          obtain ⟨rfl, -⟩ := List.cons_prefix_cons.1 hone
          obtain ⟨es, rfl, -⟩ := hds.of_quote
          exact hq (List.prefix_append ['"', '"', '"'] es)

/-! ## Docstrings as they are written -/

/-- The blanks before each line of a class. -/
def indent : List Char := [' ', ' ', ' ', ' ']

/-- A line of a docstring. -/
def docstringLine (line : List Char) : String := "    " ++ String.ofList (docstringText line)

/-- The lines of a class behind its docstring and the blank line. -/
def classBody (m : CommandModel) (members : List Member) : List String :=
  ["    COMMAND_NAME: ClassVar[str] = \"" ++ m.commandName ++ "\""]
    ++ (if members.isEmpty then [] else [""]) ++ members.flatMap attributeLines

theorem render_eq {m : CommandModel} (members : List Member) (hdocs : docLines m.docs ≠ []) :
    render m members = (preamble m ++ "    \"\"\"" :: (docLines m.docs).map docstringLine ++
      ["    \"\"\""]) ++ "" :: classBody m members := by
  have hdocstring : docstring m.docs =
      "    \"\"\"" :: (docLines m.docs).map docstringLine ++ ["    \"\"\"", ""] := by
    rw [docstring]
    split
    · rename_i hnil
      exact absurd hnil hdocs
    · rfl
  rw [render, hdocstring, preamble, classBody]
  simp only [List.append_assoc, List.cons_append, List.nil_append]

/-- The lines of a docstring read as they are in the documentation, behind their blanks. -/
theorem readLong_lines (lines : List (List Char)) (rest : List Char) :
    readLong ((sourceText (lines.map docstringLine)).toList ++ rest) =
      (readLong rest).map fun r =>
        ((lines.flatMap fun line => indent ++ line ++ ['\n']) ++ r.1, r.2) := by
  induction lines with
  | nil => simp [sourceText]
  | cons line lines ih =>
    have hline : (docstringLine line).toList = indent ++ docstringText line := by
      rw [docstringLine, String.toList_append, toList_lit rfl, String.toList_ofList, indent]
    have hnewline : ∀ more : List Char,
        readLong ('\n' :: more) = (readLong more).map fun r => ('\n' :: r.1, r.2) := by
      intro more
      exact readLong_plain (by decide) fun hq => absurd (List.cons_prefix_cons.1 hq).1 (by decide)
    have hindent : ∀ c ∈ indent, c ≠ '\\' ∧ c ≠ '"' := by simp [indent]
    rw [List.map_cons, toList_sourceText_cons, hline, List.append_assoc, List.append_assoc,
      readLong_unmarked hindent, List.cons_append,
      (escaped_docstringText line).readLong (by simp), hnewline, ih]
    simp only [Option.map_map, List.flatMap_cons, List.append_assoc, List.cons_append,
      List.nil_append]
    rfl

theorem quote_notMem_preamble {m : CommandModel} (h : IsName m.typeName) :
    '"' ∉ (sourceText (preamble m)).toList := by
  have htyping : '"' ∉ (typingImport m).toList := by
    unfold typingImport
    split <;> exact notMem_lit rfl rfl
  have hnotice : '"' ∉ ("# " ++ generatedNotice).toList := by
    rw [String.toList_append, List.mem_append, not_or]
    exact ⟨notMem_lit rfl rfl, notMem_lit rfl rfl⟩
  have hclass : '"' ∉ ("class " ++ m.typeName ++ "(Command):").toList :=
    notMem_around (notMem_lit rfl rfl) (h.notMem (by decide)) (notMem_lit rfl rfl)
  apply notMem_sourceText (by decide)
  intro line hl
  unfold preamble at hl
  simp only [List.mem_cons, List.not_mem_nil, or_false] at hl
  rcases hl with rfl | rfl | rfl | rfl | rfl | rfl | rfl | rfl | rfl
  · exact hnotice
  · exact notMem_lit rfl rfl
  · exact htyping
  · exact notMem_lit rfl rfl
  · exact notMem_lit rfl rfl
  · exact notMem_lit rfl rfl
  · exact notMem_lit rfl rfl
  · exact notMem_lit rfl rfl
  · exact hclass

/-- A line with ink is not dropped. -/
theorem docLines_ne_nil {docs : String} {line : List Char} (hline : line ∈ Text.lines docs.toList)
    {c : Char} (hc : c ∈ line) (hink : Text.isBlank c = false) : docLines (some docs) ≠ [] := by
  have hsolid : Text.trim line ≠ [] := by
    intro hnil
    have hall := Text.isEmpty_trim line
    rw [hnil, List.isEmpty_nil] at hall
    rw [List.all_eq_true.1 hall.symm c hc] at hink
    cases hink
  have hmem := Text.mem_dropEmptyEnds (List.mem_map_of_mem (f := Text.trim) hline) hsolid
  exact List.ne_nil_of_mem hmem

/-- What is read from the opening quotes on. -/
theorem readLong_docstring (lines : List (List Char)) (after : List Char) :
    readLong ('\n' :: (sourceText (lines.map docstringLine)).toList ++
        (indent ++ '"' :: '"' :: '"' :: after)) =
      some ('\n' :: (lines.flatMap fun line => indent ++ line ++ ['\n']) ++ indent, after) := by
  have hindent : ∀ c ∈ indent, c ≠ '\\' ∧ c ≠ '"' := by simp [indent]
  have hnewline : ∀ c ∈ ['\n'], c ≠ '\\' ∧ c ≠ '"' := by simp
  have hclose : readLong ('"' :: '"' :: '"' :: after) = some ([], after) := by
    rw [readLong]
  have hread := readLong_unmarked hnewline
    ((sourceText (lines.map docstringLine)).toList ++ (indent ++ '"' :: '"' :: '"' :: after))
  rw [readLong_lines, readLong_unmarked hindent, hclose] at hread
  simpa using hread

/-- **A docstring says what the documentation says.** Of a command with a line of documentation
that is not blank, the first string of the emitted file starts at the quotes that open the
docstring. Read by the rules of the language, it ends at the line that closes the docstring, and
says exactly the lines of the documentation, each behind four blanks. -/
theorem docstring_reads {d : CommandDef} {m : CommandModel} (hm : CommandModel.resolve d = .ok m)
    {text : String} (h : python.emit m = .ok text) {docs : String} (hdocs : m.docs = some docs)
    {line : List Char} (hline : line ∈ Text.lines docs.toList) {c : Char} (hc : c ∈ line)
    (hink : Text.isBlank c = false) :
    ∃ members, python.memberList m.typeName m.fields = .ok members ∧
      text = sourceText (preamble m ++ "    \"\"\"" :: (docLines m.docs).map docstringLine ++
        ["    \"\"\""]) ++ sourceText ("" :: classBody m members) ∧
      '"' ∉ (sourceText (preamble m)).toList ∧
      readFirst text.toList =
        some ('\n' :: ((docLines m.docs).flatMap fun line => indent ++ line ++ ['\n']) ++ indent,
          '\n' :: (sourceText ("" :: classBody m members)).toList) := by
  obtain ⟨-, members, hmembers, htext⟩ := emit_eq_ok_iff.1 h
  have hname : IsName m.typeName :=
    (accepts_of_memberList (t := python) (fun _ hs => hs) (CommandModel.resolved_of_resolve hm)
      hmembers).isName_typeName
  have hlines : docLines m.docs ≠ [] := hdocs ▸ docLines_ne_nil hline hc hink
  have hpreamble := quote_notMem_preamble hname
  have hrendered : text = sourceText (preamble m ++ "    \"\"\"" ::
      (docLines m.docs).map docstringLine ++ ["    \"\"\""]) ++
        sourceText ("" :: classBody m members) := by
    have hrender : python.render m members = render m members := rfl
    rw [htext, hrender, render_eq members hlines, ← String.toList_inj, toList_sourceText_append,
      String.toList_append]
  refine ⟨members, hmembers, hrendered, hpreamble, ?_⟩
  have hquotes : "    \"\"\"".toList = indent ++ ['"', '"', '"'] := toList_lit rfl
  have hchars : text.toList = (sourceText (preamble m)).toList ++ indent ++ '"' :: '"' :: '"' ::
      ('\n' :: (sourceText ((docLines m.docs).map docstringLine)).toList ++
        (indent ++ '"' :: '"' :: '"' :: '\n' ::
          (sourceText ("" :: classBody m members)).toList)) := by
    have hnil : (sourceText []).toList = [] := rfl
    rw [hrendered, String.toList_append, toList_sourceText_append, toList_sourceText_append,
      toList_sourceText_cons, toList_sourceText_cons, hquotes, hnil]
    simp only [List.append_assoc, List.cons_append, List.nil_append]
  have hbefore : ∀ c ∈ (sourceText (preamble m)).toList ++ indent, decide (c ≠ '"') = true := by
    intro c hcs
    rw [decide_eq_true_eq]
    rintro rfl
    rcases List.mem_append.1 hcs with hcs | hcs
    · exact hpreamble hcs
    · exact absurd hcs (by simp [indent])
  rw [readFirst, hchars, List.dropWhile_append_of_pos hbefore,
    List.dropWhile_cons_of_neg (by simp)]
  exact readLong_docstring (docLines m.docs) _

/-- Four quotes at the end of a line, an escape spelled in the documentation, and a backslash where
the line ends. -/
theorem docstring_reads_ping :
    let docs := "\n say \"\"\"\"\r\n\n \\\"\"\" \\n in C:\\ \n"
    let d : CommandDef := ⟨"Ping", some docs, []⟩
    let m : CommandModel := ⟨"Ping", "ping", some docs, []⟩
    let text := sourceText (render m [])
    let line := " say \"\"\"\"".toList
    CommandModel.resolve d = .ok m ∧ python.emit m = .ok text ∧ line ∈ Text.lines docs.toList ∧
      '"' ∈ line ∧ Text.isBlank '"' = false ∧
      ∃ members, python.memberList m.typeName m.fields = .ok members ∧
        text = sourceText (preamble m ++ "    \"\"\"" :: (docLines m.docs).map docstringLine ++
          ["    \"\"\""]) ++ sourceText ("" :: classBody m members) ∧
        '"' ∉ (sourceText (preamble m)).toList ∧
        readFirst text.toList =
          some ('\n' :: ((docLines m.docs).flatMap fun line => indent ++ line ++ ['\n']) ++ indent,
            '\n' :: (sourceText ("" :: classBody m members)).toList) := by
  intro docs d m text line
  have hm : CommandModel.resolve d = .ok m := by decide +kernel
  have h : python.emit m = .ok text := emit_eq_ok_iff.2 ⟨by decide +kernel, [], rfl, rfl⟩
  have hline : line ∈ Text.lines docs.toList := by decide +kernel
  have hc : '"' ∈ line := by decide +kernel
  have hink : Text.isBlank '"' = false := by decide
  exact ⟨hm, h, hline, hc, hink, docstring_reads hm h rfl hline hc hink⟩

end CommandForge.Target.Python

import CommandForge.Proofs.Target.Accepted
import CommandForge.Proofs.Target.DocLines
import CommandForge.Target.Cpp
/-!
# Reading C++ headers

The class stands at its own depth, and at that of its members only the command name and the data
members end in a semicolon: functions do not, their bodies are deeper, and a comment goes on with a
blank. A data member tells its type up to the first blank and its name up to its initializer.
-/

namespace CommandForge.Target.Cpp

open Identifier (IsName)

/-- The row starts at the depth of the members. -/
def atMembers (row : List Char) : Bool :=
  (List.replicate 8 ' ').isPrefixOf row && row[8]? != some ' '

/-- The row declares the class, the command name or a data member. -/
def declares (row : List Char) : Bool :=
  opens 4 'c' row || (atMembers row && endsIn ';' row)

variable {ns : String}

section

variable {s t : String} {cs : List Char}

theorem declares_append (hs : atMembers (s ++ t).toList = true) (ht : t = String.ofList cs)
    (hne : cs.isEmpty = false) (hend : endsIn ';' cs = true) :
    declares (s ++ t).toList = true := by
  rw [declares, hs, endsIn_append ht hne hend, Bool.and_self, Bool.or_true]

/-- A row without a semicolon at its end is no declaration, at whatever depth. -/
theorem declares_append_eq_false (hs : opens 4 'c' (s ++ t).toList = false)
    (ht : t = String.ofList cs) (hne : cs.isEmpty = false) (hend : endsIn ';' cs = false) :
    declares (s ++ t).toList = false := by
  rw [declares, hs, endsIn_append ht hne hend, Bool.and_false, Bool.or_self]

end

/-! ## Comments -/

/-- No comment passes when what its lines start with does not. -/
theorem kept_brief {indent : String} {cs : List Char} (h : indent = String.ofList cs)
    (hc : cs.contains '\n' = false) (hopen : declares (cs ++ ['/', '*', '*']) = false)
    (hline : ∀ rest, declares (cs ++ ' ' :: '*' :: rest) = false) (docs : Option String) :
    kept declares (brief indent docs) = [] := by
  have hi : IsLine indent := isLine_lit h hc
  have hmark : ∀ rest, declares (cs ++ [' ', '*'] ++ rest) = false := by
    intro rest
    rw [List.append_assoc]
    exact hline rest
  unfold brief
  split
  · rfl
  · rename_i first rest hdocs
    have hdoc : ∀ doc ∈ first :: rest, '\n' ∉ blockCommentText doc := by
      intro doc hd
      exact newline_notMem_blockCommentText (newline_notMem_of_mem_docLines (hdocs ▸ hd))
    refine kept_eq_nil fun line hl => ?_
    simp only [List.mem_append, List.mem_cons, List.not_mem_nil, or_false, List.mem_map] at hl
    rcases hl with ((rfl | rfl) | ⟨doc, hd, rfl⟩) | rfl
    · exact ⟨isLine_append.2 ⟨hi, isLine_lit rfl rfl⟩, test_lit (lit_append h rfl) hopen⟩
    · have hn := hdoc first List.mem_cons_self
      refine ⟨isLine_append_ofList (isLine_append.2 ⟨hi, isLine_lit rfl rfl⟩) hn, ?_⟩
      refine test_append (lit_append h rfl) fun rest => ?_
      rw [List.append_assoc]
      exact hline _
    · have hn := hdoc doc (List.mem_cons_of_mem first hd)
      exact ⟨isLine_marked (isLine_append.2 ⟨hi, isLine_lit rfl rfl⟩) hn,
        test_marked (lit_append h rfl) hmark⟩
    · exact ⟨isLine_append.2 ⟨hi, isLine_lit rfl rfl⟩, test_lit (lit_append h rfl) (hline _)⟩

/-! ## Data members and functions -/

/-- The row of a data member. -/
def memberRow (x : Member) : List Char :=
  ("        " ++ typeName x.shape ++ " " ++ x.name ++ initializer x.shape ++ ";").toList

/-- A type does not start with a blank. -/
theorem head_typeName (shape : Shape) :
    ∃ c rest, (typeName shape).toList = c :: rest ∧ c ≠ ' ' := by
  unfold typeName
  split
  · rw [String.append_assoc, String.toList_append, toList_lit rfl]
    exact ⟨_, _, rfl, by decide⟩
  · cases shape.scalar <;> exact ⟨_, _, toList_lit rfl, by decide⟩

theorem declares_memberRow (x : Member) : declares (memberRow x) = true := by
  obtain ⟨c, rest, htype, hc⟩ := head_typeName x.shape
  refine declares_append ?_ rfl rfl rfl
  simp only [String.append_assoc]
  rw [String.toList_append, toList_lit rfl, String.toList_append, htype]
  simp [atMembers, hc]

theorem isLine_typeName (shape : Shape) : IsLine (typeName shape) := by
  have hscalar : IsLine (scalarType shape.scalar) := by
    cases shape.scalar <;> exact isLine_lit rfl rfl
  exact notMem_optional (isLine_lit rfl rfl) hscalar (isLine_lit rfl rfl)

theorem kept_dataMember {x : Member} (h : (cpp ns).WellNamed x) :
    kept declares (dataMember x) = [memberRow x] := by
  have hname := isLine_of_isName h.isName_name
  have htype := isLine_typeName x.shape
  have hinit : IsLine (initializer x.shape) := by
    rcases x.shape with ⟨_ | _ | _, _ | _⟩ <;> exact isLine_lit rfl rfl
  unfold dataMember
  rw [kept_append, kept_brief rfl rfl rfl fun _ => rfl, kept_cons_of_pos]
  · rfl
  · refine isLine_around (isLine_append.2 ⟨?_, hname⟩) hinit (isLine_lit rfl rfl)
    exact isLine_around (isLine_lit rfl rfl) htype (isLine_lit rfl rfl)
  · exact declares_memberRow x

theorem kept_writeBody {xs : List Member} (h : ∀ x ∈ xs, (cpp ns).WellNamed x) :
    kept declares (writeBody xs) = [] := by
  unfold writeBody
  split
  · exact kept_lits (.cons rfl .nil) rfl
  · refine kept_eq_nil fun line hl => ?_
    simp only [List.mem_append, List.mem_singleton, List.mem_map] at hl
    rcases hl with (rfl | ⟨x, hx, rfl⟩) | rfl
    · exact ⟨isLine_lit rfl rfl, test_lit rfl rfl⟩
    · have hname := isLine_of_isName (h x hx).isName_name
      refine ⟨isLine_around ?_ hname (isLine_lit rfl rfl), ?_⟩
      · exact isLine_around (isLine_lit rfl rfl) hname (isLine_lit rfl rfl)
      · simp only [String.append_assoc]
        exact test_append rfl fun _ => rfl
    · exact ⟨isLine_lit rfl rfl, test_lit rfl rfl⟩

theorem kept_readBody {name : String} (hn : IsName name) {xs : List Member}
    (h : ∀ x ∈ xs, (cpp ns).WellNamed x) : kept declares (readBody name xs) = [] := by
  have hline : IsLine name := isLine_of_isName hn
  unfold readBody
  split
  · refine kept_eq_nil fun line hl => ?_
    simp only [List.mem_cons, List.not_mem_nil, or_false] at hl
    rcases hl with rfl | rfl
    · exact ⟨isLine_lit rfl rfl, test_lit rfl rfl⟩
    · exact ⟨isLine_around (isLine_lit rfl rfl) hline (isLine_lit rfl rfl),
        test_around rfl fun _ => rfl⟩
  · refine kept_eq_nil fun line hl => ?_
    simp only [List.mem_append, List.mem_cons, List.not_mem_nil, or_false, List.mem_map] at hl
    rcases hl with ((rfl | rfl) | ⟨x, hx, rfl⟩) | rfl
    · exact ⟨isLine_lit rfl rfl, test_lit rfl rfl⟩
    · exact ⟨isLine_around (isLine_lit rfl rfl) hline (isLine_lit rfl rfl),
        test_around rfl fun _ => rfl⟩
    · have hname := isLine_of_isName (h x hx).isName_name
      refine ⟨isLine_around ?_ hname (isLine_lit rfl rfl), ?_⟩
      · exact isLine_around (isLine_lit rfl rfl) hname (isLine_lit rfl rfl)
      · simp only [String.append_assoc]
        exact test_append rfl fun _ => rfl
    · exact ⟨isLine_lit rfl rfl, test_lit rfl rfl⟩

/-! ## The file -/

/-- The rows kept of what stands above the documentation, where the namespace is named. -/
def preamble (ns : String) : List (List Char) :=
  kept declares ["// " ++ generatedNotice, "#pragma once", "", "#include <cstdint>",
    "#include <optional>", "#include <string>", "", "#include \"base_command.hpp\"", "",
    "namespace " ++ ns, "\x7b"]

/-- The rows of the class and its command name. -/
def heading (m : CommandModel) : List (List Char) :=
  [("    class " ++ m.typeName ++ " : public Command").toList,
    ("        static constexpr const char *kCommandName = \"" ++ m.commandName ++ "\";").toList]

theorem kept_heading {m : CommandModel} {xs : List Member} (h : (cpp ns).Accepts m xs) :
    kept declares ["    class " ++ m.typeName ++ " : public Command",
      "    \x7b",
      "    public:",
      "        static constexpr const char *kCommandName = \"" ++ m.commandName ++ "\";",
      "",
      "        " ++ m.typeName ++ "() : Command(kCommandName) \x7b\x7d"] = heading m := by
  rw [kept_cons_of_pos, kept_cons_of_neg, kept_cons_of_neg, kept_cons_of_pos, kept_cons_of_neg,
    kept_cons_of_neg]
  · rfl
  · exact isLine_named (isLine_lit rfl rfl) h.isName_typeName (isLine_lit rfl rfl)
  · exact declares_append_eq_false (test_around rfl fun _ => rfl) rfl rfl rfl
  · exact isLine_lit rfl rfl
  · exact test_lit rfl rfl
  · exact isLine_named (isLine_lit rfl rfl) h.isName_commandName (isLine_lit rfl rfl)
  · exact declares_append (test_around rfl fun _ => rfl) rfl rfl rfl
  · exact isLine_lit rfl rfl
  · exact test_lit rfl rfl
  · exact isLine_lit rfl rfl
  · exact test_lit rfl rfl
  · exact isLine_named (isLine_lit rfl rfl) h.isName_typeName (isLine_lit rfl rfl)
  · exact test_around rfl fun _ => rfl

theorem kept_decoder {m : CommandModel} {xs : List Member} (h : (cpp ns).Accepts m xs) :
    kept declares ["        \x7d",
      "",
      "        static " ++ m.typeName ++ " from_json(const std::string &text)",
      "        \x7b"] = [] := by
  refine kept_eq_nil fun line hl => ?_
  simp only [List.mem_cons, List.not_mem_nil, or_false] at hl
  rcases hl with rfl | rfl | rfl | rfl
  · exact ⟨isLine_lit rfl rfl, test_lit rfl rfl⟩
  · exact ⟨isLine_lit rfl rfl, test_lit rfl rfl⟩
  · exact ⟨isLine_named (isLine_lit rfl rfl) h.isName_typeName (isLine_lit rfl rfl),
      declares_append_eq_false (test_around rfl fun _ => rfl) rfl rfl rfl⟩
  · exact ⟨isLine_lit rfl rfl, test_lit rfl rfl⟩

theorem kept_render {m : CommandModel} {xs : List Member} (h : (cpp ns).Accepts m xs) :
    kept declares (render (nested ns) m xs) =
      preamble (nested ns) ++ heading m ++ xs.flatMap fun x => [memberRow x] := by
  have hblank : kept declares (if xs.isEmpty then [] else [""]) = [] := by
    split
    · rfl
    · exact kept_lits (.cons rfl .nil) rfl
  have hencoder : kept declares ["", "        nlohmann::json to_json() const override",
      "        \x7b"] = [] := kept_lits (.cons rfl (.cons rfl (.cons rfl .nil))) rfl
  have hclose : kept declares ["        \x7d", "    \x7d;", "\x7d"] = [] :=
    kept_lits (.cons rfl (.cons rfl (.cons rfl .nil))) rfl
  unfold render
  rw [kept_append, kept_append, kept_append, kept_append, kept_append, kept_append, kept_append,
    kept_append, kept_append, kept_brief rfl rfl rfl fun _ => rfl, kept_heading h, hblank,
    kept_flatMap fun x hx => kept_dataMember (h.wellNamed x hx), hencoder,
    kept_writeBody h.wellNamed, kept_decoder h, kept_readBody h.isName_typeName h.wellNamed, hclose]
  simp only [List.append_nil]
  rfl

/-! ## What the rows tell -/

theorem heading_inj {m n : CommandModel} (h : heading m = heading n) :
    m.typeName = n.typeName ∧ m.commandName = n.commandName := by
  obtain ⟨hclass, hrest⟩ := List.cons.inj h
  exact ⟨around_inj hclass, around_inj (List.cons.inj hrest).1⟩

theorem blank_notMem_typeName (shape : Shape) : ' ' ∉ (typeName shape).toList := by
  have hscalar : ' ' ∉ (scalarType shape.scalar).toList := by
    cases shape.scalar <;> exact notMem_lit rfl rfl
  exact notMem_optional (notMem_lit rfl rfl) hscalar (notMem_lit rfl rfl)

theorem memberRow_inj {x y : Member} (h : memberRow x = memberRow y) :
    x.name = y.name ∧ x.shape = y.shape := by
  unfold memberRow at h
  simp only [String.toList_append, List.append_assoc] at h
  obtain ⟨htype, hrest⟩ := append_cons_inj (s := ' ') (blank_notMem_typeName x.shape)
    (blank_notMem_typeName y.shape) (List.append_cancel_left h)
  have hshape : x.shape = y.shape :=
    Shape.eq_of_nodup (f := typeName) (by decide) (String.toList_inj.1 htype)
  rw [hshape] at hrest
  exact ⟨String.toList_inj.1 (List.append_cancel_right hrest), hshape⟩

theorem member_inj {x y : Member} (hx : (cpp ns).WellNamed x) (hy : (cpp ns).WellNamed y)
    (h : memberRow x = memberRow y) : x.field.wireName = y.field.wireName ∧ x.shape = y.shape := by
  obtain ⟨hname, hshape⟩ := memberRow_inj h
  rw [hx.name_eq, hy.name_eq] at hname
  exact ⟨hname, hshape⟩

/-- How C++ headers are read. -/
def reading (ns : String) : Reading (cpp ns) where
  read rows := rows.filter declares
  front m := preamble (nested ns) ++ heading m
  back _ := []
  declaration x := [memberRow x]
  width := 1
  width_pos := Nat.one_pos
  length_heading _ _ := by simp [heading]
  length_declaration _ := rfl
  isName_memberName _ h := h
  read_render h := by rw [List.append_nil]; exact kept_render h
  names_eq _ _ h _ := heading_inj (List.append_cancel_left h)
  member_eq hx hy h := member_inj hx hy (List.cons.inj h).1

end CommandForge.Target.Cpp

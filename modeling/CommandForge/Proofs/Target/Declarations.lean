import CommandForge.Proofs.Identifier.NameChars
import CommandForge.Proofs.Target.DocLines
/-!
# Declarations of a class

The languages with braces declare a member of a class on a line of its own, at the depth of the
members: the name is the last word before the first sign of what follows it, and a function is told
by its parameters. `declarations` reads them off the lines of a file. A comment starts with another
sign than a word and a body stands deeper, so neither declares anything (`opensNothing`).
-/

namespace CommandForge

open Identifier (IsName isNameChar)

namespace Target

/-! ## Reading a line -/

/-- The name that a line declares, and whether it is that of a function. -/
structure Declaration where
  name : String
  isFunction : Bool
  deriving DecidableEq, Repr

/-- What a line is indented with. -/
def isBlank (c : Char) : Bool := c == ' '

/-- A sign that follows a declared name: parameters, a body, a value, or nothing more. -/
def endsName (c : Char) : Bool := c == '(' || c == '\x7b' || c == '=' || c == ';'

/-- The name characters in front of the blanks that the text ends in. -/
def lastWord (cs : List Char) : List Char :=
  ((cs.reverse.dropWhile isBlank).takeWhile isNameChar).reverse

/-- What a line declares that starts with a word behind `depth` blanks. -/
def declaration? (depth : ℕ) (line : List Char) : Option Declaration :=
  let code := line.dropWhile isBlank
  if (line.takeWhile isBlank).length = depth ∧ code.head?.any isNameChar then
    (code.find? endsName).map fun sign =>
      ⟨String.ofList (lastWord (code.takeWhile (!endsName ·))), sign == '('⟩
  else none

/-- What the lines of a file declare at `depth`. -/
def declarations (depth : ℕ) (lines : List String) : List Declaration :=
  lines.filterMap fun line => declaration? depth line.toList

@[simp]
theorem declarations_nil (depth : ℕ) : declarations depth [] = [] := rfl

@[simp]
theorem declarations_append (depth : ℕ) (as bs : List String) :
    declarations depth (as ++ bs) = declarations depth as ++ declarations depth bs :=
  List.filterMap_append

variable {depth : ℕ} {s t x : String}

theorem declarations_cons_of_some {line : String} {d : Declaration}
    (h : declaration? depth line.toList = some d) (lines : List String) :
    declarations depth (line :: lines) = d :: declarations depth lines :=
  List.filterMap_cons_some h

theorem declarations_cons_of_none {line : String} (h : declaration? depth line.toList = none)
    (lines : List String) : declarations depth (line :: lines) = declarations depth lines :=
  List.filterMap_cons_none h

theorem declarations_map_eq_nil {α : Type} {xs : List α} {f : α → String}
    (h : ∀ x, declaration? depth (f x).toList = none) : declarations depth (xs.map f) = [] := by
  rw [declarations, List.filterMap_map]
  exact List.filterMap_eq_nil_iff.2 fun x _ => h x

/-- Literal lines are read by their characters. -/
theorem declarations_lits {lines : List String} {css : List (List Char)} {ds : List Declaration}
    (h : List.Forall₂ (fun line cs => line = String.ofList cs) lines css)
    (hds : css.filterMap (declaration? depth) = ds) : declarations depth lines = ds := by
  rw [← hds]
  clear hds
  induction h with
  | nil => rfl
  | cons hline _ ih => rw [declarations, List.filterMap_cons, toList_lit hline,
      List.filterMap_cons, ← ih, declarations]

/-- What is declared by blocks of lines for some items, from what each block declares. -/
theorem declarations_flatMap {α : Type} {xs : List α} {f : α → List String}
    {g : α → List Declaration} (h : ∀ x ∈ xs, declarations depth (f x) = g x) :
    declarations depth (xs.flatMap f) = xs.flatMap g := by
  induction xs with
  | nil => rfl
  | cons x xs ih =>
    rw [List.flatMap_cons, declarations_append, h x List.mem_cons_self,
      ih fun y hy => h y (List.mem_cons_of_mem x hy), List.flatMap_cons]

/-! ## Indentation -/

theorem isBlank_eq_false_of_isNameChar {c : Char} (h : isNameChar c = true) : isBlank c = false := by
  rw [isBlank, beq_eq_false_iff_ne]
  rintro rfl
  exact absurd h (by decide)

theorem endsName_eq_false_of_isNameChar {c : Char} (h : isNameChar c = true) :
    endsName c = false := by
  cases he : endsName c with
  | false => rfl
  | true =>
    simp only [endsName, Bool.or_eq_true, beq_iff_eq] at he
    rcases he with ((rfl | rfl) | rfl) | rfl <;> exact absurd h (by decide)

theorem endsName_eq_false_of_isBlank {c : Char} (h : isBlank c = true) : endsName c = false := by
  rw [eq_of_beq h]
  decide

theorem isBlank_of_mem_takeWhile {cs : List Char} : ∀ c ∈ cs.takeWhile isBlank, isBlank c = true :=
  fun _ hc => List.mem_takeWhile_imp hc

/-- Blanks in front of something else are the indentation. -/
theorem indentation_append {blanks code : List Char} (hb : ∀ c ∈ blanks, isBlank c = true)
    (hc : code.head?.all (!isBlank ·) = true) :
    (blanks ++ code).takeWhile isBlank = blanks ∧ (blanks ++ code).dropWhile isBlank = code := by
  rw [List.takeWhile_append_of_pos hb, List.dropWhile_append_of_pos hb]
  cases code with
  | nil => exact ⟨List.append_nil blanks, rfl⟩
  | cons c code =>
    have hnot : ¬ isBlank c = true := by simpa using hc
    rw [List.takeWhile_cons_of_neg hnot, List.dropWhile_cons_of_neg hnot]
    exact ⟨List.append_nil blanks, rfl⟩

theorem head?_dropWhile_isBlank (cs : List Char) :
    (cs.dropWhile isBlank).head?.all (!isBlank ·) = true := by
  cases hcode : cs.dropWhile isBlank with
  | nil => rfl
  | cons c code =>
    have hnot := List.head_dropWhile_not isBlank (l := cs) (by simp [hcode])
    simpa [hcode] using hnot

/-! ## Lines that declare nothing -/

/-- No line that starts like this declares anything at `depth`: it is indented further, or its
first sign is at another depth or no part of a name. -/
def opensNothing (depth : ℕ) (cs : List Char) : Bool :=
  let indent := (cs.takeWhile isBlank).length
  match cs.dropWhile isBlank with
  | [] => depth < indent
  | c :: _ => indent != depth || !isNameChar c

theorem declaration?_eq_none {cs : List Char} (h : opensNothing depth cs = true)
    (rest : List Char) : declaration? depth (cs ++ rest) = none := by
  have hsplit : cs = cs.takeWhile isBlank ++ cs.dropWhile isBlank :=
    List.takeWhile_append_dropWhile.symm
  have hfirst := head?_dropWhile_isBlank cs
  unfold opensNothing at h
  cases hcode : cs.dropWhile isBlank with
  | nil =>
    -- All of it is blank, and more than `depth`.
    rw [hcode] at hsplit h
    have hlong : depth < (cs.takeWhile isBlank).length := by simpa using h
    rw [declaration?, if_neg]
    rintro ⟨hdepth, -⟩
    rw [hsplit, List.append_nil, List.takeWhile_append_of_pos isBlank_of_mem_takeWhile,
      List.length_append] at hdepth
    omega
  | cons c code =>
    rw [hcode] at hsplit h hfirst
    have hblanks : ∀ d ∈ cs.takeWhile isBlank, isBlank d = true := isBlank_of_mem_takeWhile
    have hfirst : (c :: code ++ rest).head?.all (!isBlank ·) = true := hfirst
    obtain ⟨hindent, hrest⟩ := indentation_append hblanks hfirst
    rw [hsplit, List.append_assoc, declaration?, hindent, hrest, if_neg]
    rintro ⟨hdepth, hname⟩
    rw [List.cons_append, List.head?_cons, Option.any_some] at hname
    simp [hdepth, hname] at h

section

variable {cs : List Char} (h : s = String.ofList cs) (hs : opensNothing depth cs = true)

include h hs

theorem declaration?_append_eq_none : declaration? depth (s ++ t).toList = none := by
  rw [String.toList_append, toList_lit h, declaration?_eq_none hs]

theorem declaration?_around_eq_none : declaration? depth (s ++ x ++ t).toList = none := by
  rw [String.append_assoc, declaration?_append_eq_none h hs]

theorem declaration?_marked_eq_none (text : List Char) :
    declaration? depth (marked s text).toList = none := by
  unfold marked
  split
  · have hnone := declaration?_eq_none hs []
    rwa [List.append_nil, ← toList_lit h] at hnone
  · rw [String.append_assoc, declaration?_append_eq_none h hs]

theorem declarations_cons_append (lines : List String) :
    declarations depth ((s ++ t) :: lines) = declarations depth lines :=
  declarations_cons_of_none (declaration?_append_eq_none h hs) lines

theorem declarations_cons_around (lines : List String) :
    declarations depth ((s ++ x ++ t) :: lines) = declarations depth lines :=
  declarations_cons_of_none (declaration?_around_eq_none h hs) lines

end

/-- The mark of a comment may be longer than what decides. -/
theorem declaration?_mark_eq_none {cs ds : List Char} {l : String} (h : s = String.ofList cs)
    (hl : l = x ++ t) (hx : x = String.ofList ds)
    (hopens : opensNothing depth (cs ++ ds) = true) : declaration? depth (s ++ l).toList = none := by
  rw [hl, ← String.append_assoc, declaration?_append_eq_none (lit_append h hx) hopens]

theorem declarations_cons_lit {cs : List Char} (h : s = String.ofList cs)
    (hs : declaration? depth cs = none) (lines : List String) :
    declarations depth (s :: lines) = declarations depth lines :=
  declarations_cons_of_none (by rw [toList_lit h, hs]) lines

/-! ## Lines that declare a name -/

/-- A declared name may stand behind this: `depth` blanks, and then nothing or words and signs none
of which ends a name, the last of them no part of one. -/
def opensDeclaration (depth : ℕ) (cs : List Char) : Bool :=
  let code := cs.dropWhile isBlank
  (cs.takeWhile isBlank).length == depth && code.head?.all isNameChar
    && code.all (!endsName ·) && code.getLast?.all (!isNameChar ·)

/-- A line that declares a name behind such a text starts with a word. -/
theorem exists_head_of_opens {code : List Char} (h : code.head?.all isNameChar = true)
    (hx : IsName x) (hne : x ≠ "") :
    ∃ c rest, code ++ x.toList = c :: rest ∧ isNameChar c = true := by
  cases code with
  | nil =>
    have hx' : x.toList ≠ [] := fun he => hne (String.toList_inj.1 (by simpa using he))
    obtain ⟨c, rest, hcons⟩ := List.exists_cons_of_ne_nil hx'
    exact ⟨c, rest, hcons, hx c (hcons ▸ List.mem_cons_self)⟩
  | cons c code => exact ⟨c, code ++ x.toList, rfl, by simpa using h⟩

/-- The type of a declaration may hold a name. -/
theorem opensDeclaration_around (hs : opensDeclaration depth s.toList = true) (hx : IsName x)
    (hne : x ≠ "") (ht : t.toList.all (!endsName ·) = true)
    (hlast : t.toList.getLast?.any (!isNameChar ·) = true) :
    opensDeclaration depth (s ++ x ++ t).toList = true := by
  simp only [opensDeclaration, Bool.and_eq_true, beq_iff_eq] at hs
  obtain ⟨⟨⟨hdepth, hhead⟩, hsilent⟩, -⟩ := hs
  obtain ⟨c, rest, hcons, hc⟩ := exists_head_of_opens hhead hx hne
  have hline : (s ++ x ++ t).toList = s.toList.takeWhile isBlank ++
      (s.toList.dropWhile isBlank ++ x.toList ++ t.toList) := by
    rw [String.toList_append, String.toList_append, List.append_assoc, List.append_assoc,
      ← List.append_assoc (s.toList.takeWhile isBlank), List.takeWhile_append_dropWhile]
  have hfirst : (s.toList.dropWhile isBlank ++ x.toList ++ t.toList).head?.all (!isBlank ·) =
      true := by
    rw [hcons]
    simp [isBlank_eq_false_of_isNameChar hc]
  obtain ⟨hindent, hcode⟩ := indentation_append isBlank_of_mem_takeWhile hfirst
  have hne' : t.toList ≠ [] := by
    intro hnil
    simp [hnil] at hlast
  rw [opensDeclaration, hline, hindent, hcode]
  simp only [Bool.and_eq_true, beq_iff_eq]
  refine ⟨⟨⟨hdepth, by rw [hcons]; simpa using hc⟩, ?_⟩, ?_⟩
  · rw [List.all_append, List.all_append, hsilent, ht, Bool.and_true, Bool.true_and]
    exact List.all_eq_true.2 fun d hd => by simp [endsName_eq_false_of_isNameChar (hx d hd)]
  · rw [List.getLast?_append_of_ne_nil _ hne']
    obtain ⟨d, hd⟩ := Option.ne_none_iff_exists'.1 (mt List.getLast?_eq_none_iff.1 hne')
    rw [hd] at hlast ⊢
    simpa using hlast

/-- A declared name may stand before this: blanks, and then a sign that ends it. -/
def closesDeclaration (isFunction : Bool) (cs : List Char) : Bool :=
  (cs.dropWhile isBlank).head?.any fun sign => endsName sign && (sign == '(') == isFunction

variable {isFunction : Bool}

theorem exists_of_closesDeclaration {cs : List Char} (h : closesDeclaration isFunction cs = true) :
    ∃ sign tail, cs.dropWhile isBlank = sign :: tail ∧ endsName sign = true ∧
      (sign == '(') = isFunction := by
  unfold closesDeclaration at h
  cases hcs : cs.dropWhile isBlank with
  | nil => simp [hcs] at h
  | cons sign tail =>
    rw [hcs, List.head?_cons, Option.any_some, Bool.and_eq_true] at h
    exact ⟨sign, tail, rfl, h.1, eq_of_beq h.2⟩

theorem closesDeclaration_append (h : closesDeclaration isFunction s.toList = true) :
    closesDeclaration isFunction (s ++ t).toList = true := by
  obtain ⟨sign, tail, htail, -, -⟩ := exists_of_closesDeclaration h
  have happend : (s ++ t).toList.dropWhile isBlank = s.toList.dropWhile isBlank ++ t.toList := by
    rw [String.toList_append, List.dropWhile_append, if_neg (by simp [htail])]
  rw [closesDeclaration, happend, htail]
  rw [closesDeclaration, htail] at h
  exact h

theorem lastWord_append {before word blanks : List Char} (hw : word ≠ [])
    (hword : ∀ c ∈ word, isNameChar c = true) (hblanks : ∀ c ∈ blanks, isBlank c = true)
    (hbefore : before.getLast?.all (!isNameChar ·) = true) :
    lastWord (before ++ word ++ blanks) = word := by
  have hstart : (word.reverse ++ before.reverse).dropWhile isBlank =
      word.reverse ++ before.reverse := by
    obtain ⟨c, rest, hrev⟩ := List.exists_cons_of_ne_nil (List.reverse_ne_nil_iff.2 hw)
    have hc : isNameChar c = true := hword c (List.mem_reverse.1 (hrev ▸ List.mem_cons_self))
    rw [hrev, List.cons_append,
      List.dropWhile_cons_of_neg (by simp [isBlank_eq_false_of_isNameChar hc])]
  have hstop : before.reverse.takeWhile isNameChar = [] := by
    rw [← List.head?_reverse] at hbefore
    cases hrev : before.reverse with
    | nil => rfl
    | cons c rest =>
      rw [hrev] at hbefore
      exact List.takeWhile_cons_of_neg (by simpa using hbefore)
  rw [lastWord, List.reverse_append, List.reverse_append,
    List.dropWhile_append_of_pos (by simpa using hblanks), hstart,
    List.takeWhile_append_of_pos (by simpa using hword), hstop, List.append_nil,
    List.reverse_reverse]

theorem declaration?_eq_some (hs : opensDeclaration depth s.toList = true) (hx : IsName x)
    (hne : x ≠ "") (ht : closesDeclaration isFunction t.toList = true) :
    declaration? depth (s ++ x ++ t).toList = some ⟨x, isFunction⟩ := by
  simp only [opensDeclaration, Bool.and_eq_true, beq_iff_eq] at hs
  obtain ⟨⟨⟨hdepth, hhead⟩, hsilent⟩, hlast⟩ := hs
  obtain ⟨sign, tail, htail, hends, hsign⟩ := exists_of_closesDeclaration ht
  -- The line is its indentation, what opens the declaration, the name, blanks, and the sign.
  let before := s.toList.dropWhile isBlank
  let blanks := t.toList.takeWhile isBlank
  have hline : (s ++ x ++ t).toList =
      s.toList.takeWhile isBlank ++ (before ++ x.toList ++ blanks ++ sign :: tail) := by
    have hs : s.toList.takeWhile isBlank ++ before = s.toList := List.takeWhile_append_dropWhile
    have ht : blanks ++ sign :: tail = t.toList := by
      rw [← htail]
      exact List.takeWhile_append_dropWhile
    calc (s ++ x ++ t).toList = s.toList ++ x.toList ++ t.toList := by
          rw [String.toList_append, String.toList_append]
      _ = s.toList.takeWhile isBlank ++ before ++ x.toList ++ (blanks ++ sign :: tail) := by
          rw [hs, ht]
      _ = _ := by simp only [List.append_assoc]
  obtain ⟨c, rest, hcons, hc⟩ : ∃ c rest, before ++ x.toList = c :: rest ∧ isNameChar c = true :=
    exists_head_of_opens hhead hx hne
  have hx' : x.toList ≠ [] := fun he => hne (String.toList_inj.1 (by simpa using he))
  have hbody : ∀ c ∈ before ++ x.toList ++ blanks, endsName c = false := by
    intro c hc
    rw [List.mem_append, List.mem_append] at hc
    rcases hc with (hc | hc) | hc
    · simpa using List.all_eq_true.1 hsilent c hc
    · exact endsName_eq_false_of_isNameChar (hx c hc)
    · exact endsName_eq_false_of_isBlank (isBlank_of_mem_takeWhile c hc)
  have hname : (before ++ x.toList ++ blanks ++ sign :: tail).head?.any isNameChar = true := by
    rw [hcons]
    exact hc
  have hfirst : (before ++ x.toList ++ blanks ++ sign :: tail).head?.all (!isBlank ·) = true := by
    rw [hcons]
    simp [isBlank_eq_false_of_isNameChar hc]
  obtain ⟨hindent, hcode⟩ := indentation_append isBlank_of_mem_takeWhile hfirst
  have hfind : (before ++ x.toList ++ blanks ++ sign :: tail).find? endsName = some sign := by
    rw [List.find?_eq_some_iff_append]
    exact ⟨hends, _, _, rfl, by simpa using hbody⟩
  rw [hline, declaration?, hindent, hcode, if_pos ⟨hdepth, hname⟩, hfind, Option.map_some,
    List.takeWhile_append_of_pos (by simpa using hbody),
    List.takeWhile_cons_of_neg (by simp [hends]), List.append_nil,
    lastWord_append hx' hx isBlank_of_mem_takeWhile hlast, String.ofList_toList, hsign]

/-- A declaration whose name stands in the literal that the line starts with. -/
theorem declaration?_literal {l u : String} (hl : l = s ++ x ++ t)
    (hs : opensDeclaration depth s.toList = true) (hx : IsName x) (hne : x ≠ "")
    (ht : closesDeclaration isFunction t.toList = true) :
    declaration? depth (l ++ u).toList = some ⟨x, isFunction⟩ := by
  have hline : l ++ u = s ++ x ++ (t ++ u) := by rw [hl, String.append_assoc]
  rw [hline]
  exact declaration?_eq_some hs hx hne (closesDeclaration_append ht)

/-- A declaration whose name stands in the literal behind its type `u`. -/
theorem declaration?_behind {l r u : String} (hr : r = s ++ x ++ t)
    (hl : opensDeclaration depth l.toList = true) (hu : IsName u) (hue : u ≠ "")
    (hs : s.toList.all (!endsName ·) = true) (hlast : s.toList.getLast?.any (!isNameChar ·) = true)
    (hx : IsName x) (hne : x ≠ "") (ht : closesDeclaration isFunction t.toList = true) :
    declaration? depth (l ++ u ++ r).toList = some ⟨x, isFunction⟩ := by
  have hline : l ++ u ++ r = l ++ u ++ s ++ x ++ t := by
    rw [hr]
    simp only [String.append_assoc]
  rw [hline]
  exact declaration?_eq_some (opensDeclaration_around hl hu hue hs hlast) hx hne ht

/-! ## Declared names -/

/-- The names of declarations that are no functions. -/
def dataNames (ds : List Declaration) : List String :=
  (ds.filter fun d => !d.isFunction).map (·.name)

/-- The names of declared functions, constructors among them. -/
def functionNames (ds : List Declaration) : List String :=
  (ds.filter (·.isFunction)).map (·.name)

@[simp]
theorem dataNames_append (ds es : List Declaration) :
    dataNames (ds ++ es) = dataNames ds ++ dataNames es := by
  simp [dataNames]

@[simp]
theorem functionNames_append (ds es : List Declaration) :
    functionNames (ds ++ es) = functionNames ds ++ functionNames es := by
  simp [functionNames]

@[simp]
theorem dataNames_data {α : Type} (f : α → String) (xs : List α) :
    dataNames (xs.map fun x => ⟨f x, false⟩) = xs.map f := by
  simp [dataNames, List.filter_map, Function.comp_def]

@[simp]
theorem functionNames_data {α : Type} (f : α → String) (xs : List α) :
    functionNames (xs.map fun x => ⟨f x, false⟩) = [] := by
  simp [functionNames]

@[simp]
theorem dataNames_functions {α : Type} (f : α → List String) (xs : List α) :
    dataNames (xs.flatMap fun x => (f x).map fun n => ⟨n, true⟩) = [] := by
  simp [dataNames, List.filter_flatMap]

@[simp]
theorem functionNames_functions {α : Type} (f : α → List String) (xs : List α) :
    functionNames (xs.flatMap fun x => (f x).map fun n => ⟨n, true⟩) = xs.flatMap f := by
  simp [functionNames, List.filter_flatMap, List.map_flatMap, List.filter_map, Function.comp_def]

/-- What is declared once is declared on one line. -/
theorem eq_of_count_eq_one {lines : List String} {d : Declaration}
    (hd : (declarations depth lines).count d = 1) {line line' : String} (hl : line ∈ lines)
    (hl' : line' ∈ lines) (h : declaration? depth line.toList = some d)
    (h' : declaration? depth line'.toList = some d) : line = line' := by
  rw [declarations, List.count_filterMap, List.countP_eq_length_filter,
    List.length_eq_one_iff] at hd
  obtain ⟨only, honly⟩ := hd
  have hmem : ∀ {l}, l ∈ lines → declaration? depth l.toList = some d → l = only := by
    intro l hl h
    have hkept : l ∈ lines.filter (fun l => declaration? depth l.toList == some d) :=
      List.mem_filter.2 ⟨hl, beq_iff_eq.2 h⟩
    rw [honly] at hkept
    exact List.mem_singleton.1 hkept
  exact (hmem hl h).trans (hmem hl' h').symm

end Target

end CommandForge

import Mathlib.Data.List.DropRight
import CommandForge.Proofs.Json.Members
import CommandForge.Json.Reader
/-!
# Texts and what is written in them

A value as it is written keeps the repeated members of its objects, at every depth (`Written`); the
value that is read has lost them (`Written.value`). Whatever the reader takes is spelled by one
written value, and what it gives is the value of that one (`isSpelling_of_read?`,
`IsSpelling.unique`).
-/

namespace CommandForge.Json

/-- Neither an array nor an object. -/
def IsAtomic : Json → Prop
  | .null | .bool _ | .number _ | .string _ => True
  | .array _ | .object _ => False

/-- A value as it is written. Objects have their members in order, repetitions included. -/
inductive Written where
  | leaf (v : Json) (hv : v.IsAtomic)
  | array (items : List Written)
  | object (members : List (String × Written))

namespace Written

mutual

/-- The value that is written. -/
def value : Written → Json
  | .leaf v _ => v
  | .array items => .array (values items)
  | .object members => .object (ofWritten (memberValues members))

/-- The values of items. -/
def values : List Written → List Json
  | [] => []
  | w :: ws => w.value :: values ws

/-- The values of members under their keys. -/
def memberValues : List (String × Written) → List (String × Json)
  | [] => []
  | (key, w) :: ms => (key, w.value) :: memberValues ms

end

theorem memberValues_eq_map (ms : List (String × Written)) :
    memberValues ms = ms.map fun m => (m.1, m.2.value) := by
  induction ms with
  | nil => rfl
  | cons m ms ih => rw [memberValues, ih, List.map_cons]

/-- Only an object is written as one. -/
theorem exists_of_value_eq_object {w : Written} {ms : List (String × Json)}
    (h : w.value = .object ms) :
    ∃ written, w = .object written ∧ ofWritten (memberValues written) = ms := by
  cases w with
  | leaf v hv =>
    rw [value] at h
    exact (h ▸ hv : IsAtomic (.object ms)).elim
  | array items =>
    rw [value] at h
    contradiction
  | object written =>
    rw [value] at h
    exact ⟨written, rfl, Json.object.inj h⟩

end Written

/-! ## Spelling -/

/-- The key of a member at the start, and what follows its colon. -/
def readKey (cs : List Char) : Option (String × List Char) :=
  match skipSpace cs with
  | '"' :: rest =>
    match readChars rest with
    | none => none
    | some (key, rest) =>
      match skipSpace rest with
      | ':' :: rest => some (String.ofList key, rest)
      | _ => none
  | _ => none

/-- A part of a text. -/
inductive Part where
  | value (w : Written)
  /-- The items of an array, at least one, up to its closing bracket. -/
  | items (ws : List Written)
  /-- What follows the opening brace of an object. -/
  | body (ms : List (String × Written))
  /-- The members of an object, at least one, up to its closing brace. -/
  | members (ms : List (String × Written))

/-- The part stands at the start of the characters, in front of the rest. -/
inductive Spells : Part → List Char → List Char → Prop
  -- Without any depth the reader takes what holds no other values.
  | leaf {cs rest v} {hv : v.IsAtomic} (hread : readValue 1 0 cs = some (v, rest)) :
      Spells (.value (.leaf v hv)) cs rest
  | emptyArray {cs inner rest} (hopen : skipSpace cs = '[' :: inner)
      (hclose : skipSpace inner = ']' :: rest) : Spells (.value (.array [])) cs rest
  | array {cs inner rest ws} (hopen : skipSpace cs = '[' :: inner)
      (hitems : Spells (.items ws) (skipSpace inner) rest) : Spells (.value (.array ws)) cs rest
  | object {cs inner rest ms} (hopen : skipSpace cs = '{' :: inner)
      (hbody : Spells (.body ms) inner rest) : Spells (.value (.object ms)) cs rest
  | lastItem {cs behind rest w} (hw : Spells (.value w) cs behind)
      (hclose : skipSpace behind = ']' :: rest) : Spells (.items [w]) cs rest
  | item {cs behind next rest w ws} (hw : Spells (.value w) cs behind)
      (hcomma : skipSpace behind = ',' :: next) (hws : Spells (.items ws) next rest) :
      Spells (.items (w :: ws)) cs rest
  | emptyBody {cs rest} (hclose : skipSpace cs = '}' :: rest) : Spells (.body []) cs rest
  | body {cs rest ms} (hms : Spells (.members ms) (skipSpace cs) rest) : Spells (.body ms) cs rest
  | lastMember {cs inner behind rest key w} (hkey : readKey cs = some (key, inner))
      (hw : Spells (.value w) inner behind) (hclose : skipSpace behind = '}' :: rest) :
      Spells (.members [(key, w)]) cs rest
  | member {cs inner behind next rest key w ms} (hkey : readKey cs = some (key, inner))
      (hw : Spells (.value w) inner behind) (hcomma : skipSpace behind = ',' :: next)
      (hms : Spells (.members ms) next rest) : Spells (.members ((key, w) :: ms)) cs rest

/-- The text is the written value, with white space around it. -/
def IsSpelling (text : String) (w : Written) : Prop :=
  ∃ rest, Spells (.value w) text.toList rest ∧ skipSpace rest = []

/-! ## What the reader takes -/

variable {cs inner behind next rest : List Char} {fuel depth : Nat}

/-- What is no array and no object needs neither fuel nor depth. -/
theorem readValue_eq_leaf (harray : ∀ inner, skipSpace cs ≠ '[' :: inner)
    (hobject : ∀ inner, skipSpace cs ≠ '{' :: inner) :
    readValue (fuel + 1) depth cs = readValue 1 0 cs := by
  rw [readValue, readValue]
  split
  case h_5 heq => exact absurd heq (harray _)
  case h_6 heq => exact absurd heq (hobject _)
  all_goals rfl

theorem isAtomic_of_readValue {v : Json} (h : readValue 1 0 cs = some (v, rest)) : v.IsAtomic := by
  rw [readValue] at h
  split at h
  case h_4 | h_7 =>
    obtain ⟨p, -, he⟩ := Option.map_eq_some_iff.1 h
    obtain ⟨rfl, -⟩ := Prod.mk.inj he
    trivial
  case h_5 => contradiction
  case h_6 => simp [readMembers] at h
  all_goals
    obtain ⟨rfl, -⟩ := Prod.mk.inj (Option.some.inj h)
    trivial

theorem readKey_eq_some {quoted chars behind inner : List Char}
    (hquote : skipSpace cs = '"' :: quoted) (hchars : readChars quoted = some (chars, behind))
    (hcolon : skipSpace behind = ':' :: inner) :
    readKey cs = some (String.ofList chars, inner) := by
  simp only [readKey, hquote, hchars, hcolon]

/-- What is read with so much fuel is spelled by something that has the value read. -/
structure Reads (fuel : Nat) : Prop where
  value : ∀ {depth cs v rest}, readValue fuel depth cs = some (v, rest) →
    ∃ w : Written, Spells (.value w) cs rest ∧ w.value = v
  items : ∀ {depth cs vs rest}, readItems fuel depth cs = some (vs, rest) →
    ∃ ws, Spells (.items ws) cs rest ∧ Written.values ws = vs
  body : ∀ {depth cs ms rest}, readMembers fuel depth cs = some (ms, rest) →
    ∃ ws, Spells (.body ws) cs rest ∧ Written.memberValues ws = ms
  members : ∀ {depth cs ms rest}, readPairs fuel depth cs = some (ms, rest) →
    ∃ ws, Spells (.members ws) cs rest ∧ Written.memberValues ws = ms

namespace Reads

theorem zero : Reads 0 := by
  constructor <;> intro _ _ _ _ h
  · rw [readValue] at h
    contradiction
  · rw [readItems] at h
    contradiction
  · rw [readMembers] at h
    contradiction
  · rw [readPairs] at h
    contradiction

theorem value_succ (hr : Reads fuel) {v : Json}
    (h : readValue (fuel + 1) depth cs = some (v, rest)) :
    ∃ w : Written, Spells (.value w) cs rest ∧ w.value = v := by
  -- The first character tells an array and an object; all else is a leaf.
  by_cases harray : ∃ inner, skipSpace cs = '[' :: inner
  · obtain ⟨inner, hopen⟩ := harray
    rw [readValue, hopen] at h
    cases depth with
    | zero => contradiction
    | succ depth =>
      simp only at h
      split at h
      · rename_i hclose
        obtain ⟨rfl, rfl⟩ := Prod.mk.inj (Option.some.inj h)
        exact ⟨.array [], .emptyArray hopen hclose, rfl⟩
      · obtain ⟨⟨vs, rest'⟩, hitems, he⟩ := Option.map_eq_some_iff.1 h
        obtain ⟨rfl, rfl⟩ := Prod.mk.inj he
        obtain ⟨ws, hspells, rfl⟩ := hr.items hitems
        exact ⟨.array ws, .array hopen hspells, rfl⟩
  · by_cases hobject : ∃ inner, skipSpace cs = '{' :: inner
    · obtain ⟨inner, hopen⟩ := hobject
      rw [readValue, hopen] at h
      obtain ⟨⟨ms, rest'⟩, hbody, he⟩ := Option.map_eq_some_iff.1 h
      obtain ⟨rfl, rfl⟩ := Prod.mk.inj he
      obtain ⟨ws, hspells, rfl⟩ := hr.body hbody
      exact ⟨.object ws, .object hopen hspells, rfl⟩
    · rw [readValue_eq_leaf (not_exists.1 harray) (not_exists.1 hobject)] at h
      exact ⟨.leaf v (isAtomic_of_readValue h), .leaf h, rfl⟩

theorem items_succ (hr : Reads fuel) {vs : List Json}
    (h : readItems (fuel + 1) depth cs = some (vs, rest)) :
    ∃ ws, Spells (.items ws) cs rest ∧ Written.values ws = vs := by
  rw [readItems] at h
  split at h
  · contradiction
  · rename_i hv
    obtain ⟨w, hw, rfl⟩ := hr.value hv
    split at h
    · rename_i hclose
      obtain ⟨rfl, rfl⟩ := Prod.mk.inj (Option.some.inj h)
      exact ⟨[w], .lastItem hw hclose, rfl⟩
    · rename_i hcomma
      obtain ⟨⟨vs', rest'⟩, hitems, he⟩ := Option.map_eq_some_iff.1 h
      obtain ⟨rfl, rfl⟩ := Prod.mk.inj he
      obtain ⟨ws, hws, rfl⟩ := hr.items hitems
      exact ⟨w :: ws, .item hw hcomma hws, rfl⟩
    · contradiction

theorem body_succ (hr : Reads fuel) {ms : List (String × Json)}
    (h : readMembers (fuel + 1) depth cs = some (ms, rest)) :
    ∃ ws, Spells (.body ws) cs rest ∧ Written.memberValues ws = ms := by
  cases depth with
  | zero =>
    rw [readMembers] at h
    contradiction
  | succ depth =>
    rw [readMembers] at h
    split at h
    · rename_i hclose
      obtain ⟨rfl, rfl⟩ := Prod.mk.inj (Option.some.inj h)
      exact ⟨[], .emptyBody hclose, rfl⟩
    · obtain ⟨ws, hws, rfl⟩ := hr.members h
      exact ⟨ws, .body hws, rfl⟩

theorem members_succ (hr : Reads fuel) {ms : List (String × Json)}
    (h : readPairs (fuel + 1) depth cs = some (ms, rest)) :
    ∃ ws, Spells (.members ws) cs rest ∧ Written.memberValues ws = ms := by
  rw [readPairs] at h
  split at h
  · rename_i hquote
    split at h
    · contradiction
    · rename_i chars behind hchars
      split at h
      · rename_i hcolon
        have hkey := readKey_eq_some hquote hchars hcolon
        split at h
        · contradiction
        · rename_i hv
          obtain ⟨w, hw, rfl⟩ := hr.value hv
          split at h
          · rename_i hclose
            obtain ⟨rfl, rfl⟩ := Prod.mk.inj (Option.some.inj h)
            exact ⟨[(String.ofList chars, w)], .lastMember hkey hw hclose, rfl⟩
          · rename_i hcomma
            obtain ⟨⟨ms', rest'⟩, hpairs, he⟩ := Option.map_eq_some_iff.1 h
            obtain ⟨rfl, rfl⟩ := Prod.mk.inj he
            obtain ⟨ws, hws, rfl⟩ := hr.members hpairs
            exact ⟨(String.ofList chars, w) :: ws, .member hkey hw hcomma hws, rfl⟩
          · contradiction
      · contradiction
  · contradiction

end Reads

theorem reads (fuel : Nat) : Reads fuel := by
  induction fuel with
  | zero => exact .zero
  | succ fuel ih => exact ⟨ih.value_succ, ih.items_succ, ih.body_succ, ih.members_succ⟩

/-- What is read from a text is the value of something that is written there. -/
theorem isSpelling_of_read? {text : String} {v : Json} (h : read? text = some v) :
    ∃ w, IsSpelling text w ∧ w.value = v := by
  rw [read?, readChars?] at h
  split at h
  · rename_i v' rest hv
    split at h
    · rename_i hrest
      obtain rfl := Option.some.inj h
      obtain ⟨w, hw, rfl⟩ := (reads _).value hv
      exact ⟨w, ⟨rest, hw, List.isEmpty_iff.1 hrest⟩, rfl⟩
    · contradiction
  · contradiction

theorem isSpelling_of_readWritten? {text : String} {ms : List (String × Json)}
    (h : readWritten? text = some ms) :
    ∃ written, IsSpelling text (.object written) ∧ Written.memberValues written = ms := by
  rw [readWritten?] at h
  split at h
  · rename_i inner hopen
    split at h
    · rename_i ms' rest hbody
      split at h
      · rename_i hrest
        obtain rfl := Option.some.inj h
        obtain ⟨written, hwritten, rfl⟩ := (reads _).body hbody
        exact ⟨written, ⟨rest, .object hopen hwritten, List.isEmpty_iff.1 hrest⟩, rfl⟩
      · contradiction
    · contradiction
  · contradiction

/-! ## Only one thing is written in a text -/

/-- No other part of the kind stands at the start of the characters. -/
def Only (cs rest : List Char) : Part → Prop
  | .value w => ∀ {w' rest'}, Spells (.value w') cs rest' → w' = w ∧ rest' = rest
  | .items ws => ∀ {ws' rest'}, Spells (.items ws') cs rest' → ws' = ws ∧ rest' = rest
  | .body ms => ∀ {ms' rest'}, Spells (.body ms') cs rest' → ms' = ms ∧ rest' = rest
  | .members ms => ∀ {ms' rest'}, Spells (.members ms') cs rest' → ms' = ms ∧ rest' = rest

theorem skipSpace_of_leaf {v : Json} (h : readValue 1 0 cs = some (v, rest)) (inner : List Char) :
    skipSpace cs ≠ '[' :: inner ∧ skipSpace cs ≠ '{' :: inner ∧ skipSpace cs ≠ ']' :: inner := by
  refine ⟨?_, ?_, ?_⟩ <;> intro hopen <;> rw [readValue, hopen] at h
  · contradiction
  · simp [readMembers] at h
  · simp [readNumber, readWhole, spanDigits] at h

/-- A value does not start with a closing bracket. -/
theorem Spells.ne_bracket {w : Written} (h : Spells (.value w) cs rest) (inner : List Char) :
    skipSpace cs ≠ ']' :: inner := by
  cases h with
  | leaf hread => exact (skipSpace_of_leaf hread inner).2.2
  | emptyArray hopen => simp [hopen]
  | array hopen => simp [hopen]
  | object hopen => simp [hopen]

theorem Spells.items_ne_bracket {ws : List Written} (h : Spells (.items ws) cs rest)
    (inner : List Char) : skipSpace cs ≠ ']' :: inner := by
  cases h with
  | lastItem hw => exact hw.ne_bracket inner
  | item hw => exact hw.ne_bracket inner

theorem readKey_ne_brace {key : String} {inner : List Char} (h : readKey cs = some (key, inner))
    (rest : List Char) : skipSpace cs ≠ '}' :: rest := by
  intro hclose
  simp [readKey, hclose] at h

theorem Spells.members_ne_brace {ms : List (String × Written)} (h : Spells (.members ms) cs rest)
    (inner : List Char) : skipSpace cs ≠ '}' :: inner := by
  cases h with
  | lastMember hkey => exact readKey_ne_brace hkey inner
  | member hkey => exact readKey_ne_brace hkey inner

/-- The next token is followed by one text only. -/
theorem next_eq {c : Char} {next next' : List Char} (h : skipSpace cs = c :: next)
    (h' : skipSpace cs = c :: next') : next = next' :=
  (List.cons.inj (h.symm.trans h')).2

theorem skipSpace_skipSpace (cs : List Char) : skipSpace (skipSpace cs) = skipSpace cs :=
  List.dropWhile_idempotent _ cs

theorem only_leaf {v : Json} {hv : v.IsAtomic} (hread : readValue 1 0 cs = some (v, rest)) :
    Only cs rest (.value (.leaf v hv)) := by
  intro w' rest' h'
  cases h' with
  | leaf hread' =>
    obtain ⟨rfl, rfl⟩ := Prod.mk.inj (Option.some.inj (hread'.symm.trans hread))
    exact ⟨rfl, rfl⟩
  | emptyArray hopen => exact absurd hopen (skipSpace_of_leaf hread _).1
  | array hopen => exact absurd hopen (skipSpace_of_leaf hread _).1
  | object hopen => exact absurd hopen (skipSpace_of_leaf hread _).2.1

theorem only_emptyArray (hopen : skipSpace cs = '[' :: inner)
    (hclose : skipSpace inner = ']' :: rest) : Only cs rest (.value (.array [])) := by
  intro w' rest' h'
  cases h' with
  | leaf hread => exact absurd hopen (skipSpace_of_leaf hread _).1
  | emptyArray hopen' hclose' =>
    obtain rfl := next_eq hopen' hopen
    exact ⟨rfl, next_eq hclose' hclose⟩
  | array hopen' hitems =>
    -- The first item would have to start with the closing bracket.
    obtain rfl := next_eq hopen' hopen
    exact absurd ((skipSpace_skipSpace _).trans hclose) (hitems.items_ne_bracket _)
  | object hopen' => cases hopen'.symm.trans hopen

theorem only_array {ws : List Written} (hopen : skipSpace cs = '[' :: inner)
    (hitems : Spells (.items ws) (skipSpace inner) rest)
    (hws : Only (skipSpace inner) rest (.items ws)) : Only cs rest (.value (.array ws)) := by
  intro w' rest' h'
  cases h' with
  | leaf hread => exact absurd hopen (skipSpace_of_leaf hread _).1
  | emptyArray hopen' hclose =>
    obtain rfl := next_eq hopen' hopen
    exact absurd ((skipSpace_skipSpace _).trans hclose) (hitems.items_ne_bracket _)
  | array hopen' hitems' =>
    obtain rfl := next_eq hopen' hopen
    exact (hws hitems').imp_left (congrArg Written.array)
  | object hopen' => cases hopen'.symm.trans hopen

theorem only_object {ms : List (String × Written)} (hopen : skipSpace cs = '{' :: inner)
    (hms : Only inner rest (.body ms)) : Only cs rest (.value (.object ms)) := by
  intro w' rest' h'
  cases h' with
  | leaf hread => exact absurd hopen (skipSpace_of_leaf hread _).2.1
  | emptyArray hopen' => cases hopen'.symm.trans hopen
  | array hopen' => cases hopen'.symm.trans hopen
  | object hopen' hbody =>
    obtain rfl := next_eq hopen' hopen
    exact (hms hbody).imp_left (congrArg Written.object)

theorem only_lastItem {w : Written} (hw : Only cs behind (.value w))
    (hclose : skipSpace behind = ']' :: rest) : Only cs rest (.items [w]) := by
  intro ws' rest' h'
  cases h' with
  | lastItem hw' hclose' =>
    obtain ⟨rfl, rfl⟩ := hw hw'
    exact ⟨rfl, next_eq hclose' hclose⟩
  | item hw' hcomma =>
    obtain ⟨rfl, rfl⟩ := hw hw'
    cases hcomma.symm.trans hclose

theorem only_item {w : Written} {ws : List Written} (hw : Only cs behind (.value w))
    (hcomma : skipSpace behind = ',' :: next) (hws : Only next rest (.items ws)) :
    Only cs rest (.items (w :: ws)) := by
  intro ws' rest' h'
  cases h' with
  | lastItem hw' hclose =>
    obtain ⟨rfl, rfl⟩ := hw hw'
    cases hclose.symm.trans hcomma
  | item hw' hcomma' hws' =>
    obtain ⟨rfl, rfl⟩ := hw hw'
    obtain rfl := next_eq hcomma' hcomma
    exact (hws hws').imp_left (congrArg (_ :: ·))

theorem only_emptyBody (hclose : skipSpace cs = '}' :: rest) : Only cs rest (.body []) := by
  intro ms' rest' h'
  cases h' with
  | emptyBody hclose' => exact ⟨rfl, next_eq hclose' hclose⟩
  | body hms => exact absurd ((skipSpace_skipSpace _).trans hclose) (hms.members_ne_brace _)

theorem only_body {ms : List (String × Written)}
    (hspells : Spells (.members ms) (skipSpace cs) rest)
    (hms : Only (skipSpace cs) rest (.members ms)) : Only cs rest (.body ms) := by
  intro ms' rest' h'
  cases h' with
  | emptyBody hclose =>
    exact absurd ((skipSpace_skipSpace _).trans hclose) (hspells.members_ne_brace _)
  | body hspells' => exact hms hspells'

theorem only_lastMember {key : String} {w : Written} (hkey : readKey cs = some (key, inner))
    (hw : Only inner behind (.value w)) (hclose : skipSpace behind = '}' :: rest) :
    Only cs rest (.members [(key, w)]) := by
  intro ms' rest' h'
  cases h' with
  | lastMember hkey' hw' hclose' =>
    obtain ⟨rfl, rfl⟩ := Prod.mk.inj (Option.some.inj (hkey'.symm.trans hkey))
    obtain ⟨rfl, rfl⟩ := hw hw'
    exact ⟨rfl, next_eq hclose' hclose⟩
  | member hkey' hw' hcomma =>
    obtain ⟨rfl, rfl⟩ := Prod.mk.inj (Option.some.inj (hkey'.symm.trans hkey))
    obtain ⟨rfl, rfl⟩ := hw hw'
    cases hcomma.symm.trans hclose

theorem only_member {key : String} {w : Written} {ms : List (String × Written)}
    (hkey : readKey cs = some (key, inner)) (hw : Only inner behind (.value w))
    (hcomma : skipSpace behind = ',' :: next) (hms : Only next rest (.members ms)) :
    Only cs rest (.members ((key, w) :: ms)) := by
  intro ms' rest' h'
  cases h' with
  | lastMember hkey' hw' hclose =>
    obtain ⟨rfl, rfl⟩ := Prod.mk.inj (Option.some.inj (hkey'.symm.trans hkey))
    obtain ⟨rfl, rfl⟩ := hw hw'
    cases hclose.symm.trans hcomma
  | member hkey' hw' hcomma' hms' =>
    obtain ⟨rfl, rfl⟩ := Prod.mk.inj (Option.some.inj (hkey'.symm.trans hkey))
    obtain ⟨rfl, rfl⟩ := hw hw'
    obtain rfl := next_eq hcomma' hcomma
    exact (hms hms').imp_left (congrArg (_ :: ·))

theorem Spells.only {p : Part} (h : Spells p cs rest) : Only cs rest p := by
  induction h with
  | leaf hread => exact only_leaf hread
  | emptyArray hopen hclose => exact only_emptyArray hopen hclose
  | array hopen hitems ih => exact only_array hopen hitems ih
  | object hopen _ ih => exact only_object hopen ih
  | lastItem _ hclose ih => exact only_lastItem ih hclose
  | item _ hcomma _ ihw ihws => exact only_item ihw hcomma ihws
  | emptyBody hclose => exact only_emptyBody hclose
  | body hms ih => exact only_body hms ih
  | lastMember hkey _ hclose ih => exact only_lastMember hkey ih hclose
  | member hkey _ hcomma _ ihw ihms => exact only_member hkey ihw hcomma ihms

/-- Nothing else is written in a text. -/
theorem IsSpelling.unique {text : String} {w w' : Written} (h : IsSpelling text w)
    (h' : IsSpelling text w') : w = w' := by
  obtain ⟨rest, hw, -⟩ := h
  obtain ⟨rest', hw', -⟩ := h'
  exact (hw'.only hw).1

end CommandForge.Json

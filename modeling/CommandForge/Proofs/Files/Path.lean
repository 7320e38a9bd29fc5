import CommandForge.Files.Path
/-!
# Paths of files in a directory

A name that a directory can list (`IsEntryName`) is one component and one piece of a path, and
joining it to a directory adds that piece behind those of the directory, however the directory is
written (`pieces_join`).
-/

namespace CommandForge.Path

/-- The text can name an entry of a directory. -/
structure IsEntryName (s : String) : Prop where
  ne_nil : s.toList ≠ []
  ne_dot : s.toList ≠ ['.']
  ne_dots : s.toList ≠ ['.', '.']
  slash_notMem : '/' ∉ s.toList

instance (s : String) : Decidable (IsEntryName s) :=
  decidable_of_iff (s.toList ≠ [] ∧ s.toList ≠ ['.'] ∧ s.toList ≠ ['.', '.'] ∧ '/' ∉ s.toList)
    ⟨fun ⟨h, h', h'', h'''⟩ => ⟨h, h', h'', h'''⟩, fun ⟨h, h', h'', h'''⟩ => ⟨h, h', h'', h'''⟩⟩

/-- The pieces of a path that are not empty. -/
def pieces (path : String) : List (List Char) := (segments path).filter (· ≠ [])

variable {base rel s t : String}

theorem isAbsolute_of_isEntryName (h : IsEntryName s) : isAbsolute s = false := by
  cases hs : s.toList with
  | nil => exact absurd hs h.ne_nil
  | cons c cs =>
    have hc : c ≠ '/' := by
      rintro rfl
      exact h.slash_notMem (hs ▸ List.mem_cons_self)
    simp [isAbsolute, hs, hc]

theorem segments_of_isEntryName (h : IsEntryName s) : segments s = [s.toList] :=
  Text.split_of_notMem h.slash_notMem

theorem pieces_of_isEntryName (h : IsEntryName s) : pieces s = [s.toList] := by
  simp [pieces, segments_of_isEntryName h, h.ne_nil]

/-! ## Joined paths -/

/-- A path that ends in a slash is joined as it is, any other with a slash behind it. -/
theorem join_cases (hrel : isAbsolute rel = false) :
    (base.toList = [] ∧ join base rel = rel) ∨
      ∃ front, (base.toList = front ∨ base.toList = front ++ ['/']) ∧ base.toList ≠ [] ∧
        (join base rel).toList = front ++ '/' :: rel.toList := by
  cases hlast : base.toList.getLast? with
  | none =>
    rw [List.getLast?_eq_none_iff] at hlast
    exact .inl ⟨hlast, by simp [join, hrel, hlast]⟩
  | some c =>
    obtain ⟨front, hfront⟩ := List.getLast?_eq_some_iff.1 hlast
    have hne : base.toList ≠ [] := by simp [hfront]
    by_cases hc : c = '/'
    · subst hc
      refine .inr ⟨front, .inr hfront, hne, ?_⟩
      simp [join, hrel, hfront]
    · refine .inr ⟨base.toList, .inl rfl, hne, ?_⟩
      have hjoin : join base rel = base ++ "/" ++ rel := by
        rw [join, hrel, hlast]
        split
        · contradiction
        · split
          · contradiction
          · rename_i heq
            exact absurd (Option.some.inj heq) hc
          · rfl
      simp [hjoin]

theorem segments_append_slash {path : String} {front rest : List Char}
    (h : path.toList = front ++ '/' :: rest) :
    segments path = Text.split '/' front ++ Text.split '/' rest := by
  rw [segments, h, Text.split_append_cons]

/-- Joining puts the pieces of the one path behind those of the other. -/
theorem pieces_join (hrel : isAbsolute rel = false) :
    pieces (join base rel) = pieces base ++ pieces rel := by
  rcases join_cases hrel with ⟨hbase, hjoin⟩ | ⟨front, hfront, -, hjoin⟩
  · rw [hjoin]
    simp [pieces, segments, hbase, Text.split]
  · have hpieces : pieces base = (Text.split '/' front).filter (· ≠ []) := by
      rcases hfront with hbase | hbase
      · rw [pieces, segments, hbase]
      · rw [pieces, segments_append_slash hbase, List.filter_append]
        simp [Text.split]
    rw [pieces, segments_append_slash hjoin, List.filter_append, hpieces]
    rfl

theorem isAbsolute_join (hrel : isAbsolute rel = false) :
    isAbsolute (join base rel) = isAbsolute base := by
  rcases join_cases hrel with ⟨hbase, hjoin⟩ | ⟨front, hfront, hne, hjoin⟩
  · rw [hjoin, hrel]
    simp [isAbsolute, hbase]
  · rw [isAbsolute, isAbsolute, hjoin]
    cases front with
    | nil => rcases hfront with hbase | hbase <;> simp_all
    | cons c front => rcases hfront with hbase | hbase <;> simp [hbase]

theorem toList_join_ne_nil (hrel : rel.toList ≠ []) : (join base rel).toList ≠ [] := by
  cases habs : isAbsolute rel with
  | true => simpa [join, habs] using hrel
  | false =>
    rcases join_cases habs with ⟨-, hjoin⟩ | ⟨front, -, -, hjoin⟩
    · rwa [hjoin]
    · simp [hjoin]

/-! ## A name in a directory -/

theorem toList_join_of_isEntryName (hs : IsEntryName s) (ht : IsEntryName t) :
    (join s t).toList = s.toList ++ '/' :: t.toList := by
  rcases join_cases (isAbsolute_of_isEntryName ht) with ⟨hbase, -⟩ | ⟨front, hfront, -, hjoin⟩
  · exact absurd hbase hs.ne_nil
  · rcases hfront with hbase | hbase
    · rw [hjoin, hbase]
    · exact absurd (by simp [hbase]) hs.slash_notMem

theorem isAbsolute_join_of_isEntryName (hs : IsEntryName s) (ht : IsEntryName t) :
    isAbsolute (join s t) = false := by
  rw [isAbsolute_join (isAbsolute_of_isEntryName ht), isAbsolute_of_isEntryName hs]

theorem restComponents_of_isEntryName (h : IsEntryName s) (rest : List (List Char)) :
    restComponents (s.toList :: rest) = .name s.toList :: restComponents rest := by
  obtain ⟨h0, h1, h2, -⟩ := h
  rw [restComponents, List.filterMap_cons]
  split
  · rename_i heq
    split at heq <;> simp_all
  · rename_i heq
    split at heq
    · contradiction
    · contradiction
    · contradiction
    · obtain rfl := Option.some.inj heq
      rfl

theorem components_join (hs : IsEntryName s) (ht : IsEntryName t) :
    components (join s t) = [.name s.toList, .name t.toList] := by
  have hsegments : segments (join s t) = [s.toList, t.toList] := by
    rw [segments_append_slash (toList_join_of_isEntryName hs ht),
      Text.split_of_notMem hs.slash_notMem, Text.split_of_notMem ht.slash_notMem]
    rfl
  rw [components, hsegments]
  simp only [isAbsolute_join_of_isEntryName hs ht, Bool.false_eq_true, if_false, if_neg hs.ne_dot]
  rw [restComponents_of_isEntryName hs, restComponents_of_isEntryName ht]
  rfl

end CommandForge.Path

import Mathlib.Data.List.Nodup
import CommandForge.Json.Basic
/-!
# Members of objects

What giving a key a value does to the keys and to what is found under them, and what becomes of
written members when they make up an object: every key stays, each once (`mem_keys_ofWritten`,
`nodup_keys_ofWritten`), so members with different keys stay as they stand (`ofWritten_of_nodup`).
-/

namespace CommandForge.Json

variable {key w : String} {v : Json} {ms : List (String × Json)}

/-! ## Members under a key -/

theorem member?_put : member? w (put key v ms) = if key = w then some v else member? w ms := by
  induction ms with
  | nil => simp [put, member?]
  | cons m ms ih =>
    by_cases hm : m.1 = key
    · by_cases hk : key = w
      · simp [put, member?, hm, hk]
      · simp [put, member?, hm, hk]
    · rw [put, if_neg hm, member?, ih, member?]
      by_cases hw : m.1 = w
      · have hk : key ≠ w := fun he => hm (hw.trans he.symm)
        simp [hw, hk]
      · simp [hw]

theorem put_of_notMem {key : String} {ms : List (String × Json)} (h : key ∉ ms.map (·.1))
    (v : Json) : put key v ms = ms ++ [(key, v)] := by
  induction ms with
  | nil => rfl
  | cons m ms ih =>
    simp only [List.map_cons, List.mem_cons, not_or] at h
    rw [put, if_neg (Ne.symm h.1), ih h.2, List.cons_append]

theorem map_key_put (h : key ∈ ms.map (·.1)) : (put key v ms).map (·.1) = ms.map (·.1) := by
  induction ms with
  | nil => simp at h
  | cons m ms ih =>
    by_cases hm : m.1 = key
    · rw [put, if_pos hm, List.map_cons, List.map_cons]
    · rw [List.map_cons, List.mem_cons] at h
      have hrest := h.resolve_left (Ne.symm hm)
      rw [put, if_neg hm, List.map_cons, ih hrest, List.map_cons]

theorem nodup_keys_put (h : (ms.map (·.1)).Nodup) : ((put key v ms).map (·.1)).Nodup := by
  by_cases hmem : key ∈ ms.map (·.1)
  · rwa [map_key_put hmem]
  · rw [put_of_notMem hmem, List.map_append, List.nodup_append]
    refine ⟨h, by simp, ?_⟩
    intro k hk k' hk' he
    obtain rfl := List.mem_singleton.1 hk'
    exact hmem (he ▸ hk)

theorem mem_keys_put : w ∈ (put key v ms).map (·.1) ↔ w ∈ ms.map (·.1) ∨ w = key := by
  by_cases hmem : key ∈ ms.map (·.1)
  · rw [map_key_put hmem]
    constructor
    · exact Or.inl
    · rintro (h | rfl)
      · exact h
      · exact hmem
  · rw [put_of_notMem hmem, List.map_append, List.mem_append]
    simp

/-- Under different keys, a member is found under its key. -/
theorem member?_of_mem (hn : (ms.map (·.1)).Nodup) (h : (w, v) ∈ ms) : member? w ms = some v := by
  induction ms with
  | nil => simp at h
  | cons m ms ih =>
    rw [List.map_cons, List.nodup_cons] at hn
    rcases List.mem_cons.1 h with rfl | h
    · simp [member?]
    · have hne : m.1 ≠ w := by
        intro he
        exact hn.1 (he ▸ List.mem_map.2 ⟨(w, v), h, rfl⟩)
      rw [member?, if_neg hne, ih hn.2 h]

theorem mem_of_mem_put {m : String × Json} (h : m ∈ put key v ms) : m = (key, v) ∨ m ∈ ms := by
  induction ms with
  | nil => exact .inl (List.mem_singleton.1 h)
  | cons n ms ih =>
    rw [put] at h
    split at h
    · rcases List.mem_cons.1 h with rfl | h
      · rename_i hn
        exact .inl (by rw [hn])
      · exact .inr (List.mem_cons_of_mem n h)
    · rcases List.mem_cons.1 h with rfl | h
      · exact .inr List.mem_cons_self
      · exact (ih h).imp_right (List.mem_cons_of_mem n)

/-! ## Written members -/

theorem nodup_keys_foldl_put (written : List (String × Json)) {before : List (String × Json)}
    (h : (before.map (·.1)).Nodup) :
    ((written.foldl (fun members (k, v) => put k v members) before).map (·.1)).Nodup := by
  induction written generalizing before with
  | nil => exact h
  | cons m written ih => exact ih (nodup_keys_put h)

theorem nodup_keys_ofWritten (written : List (String × Json)) :
    ((ofWritten written).map (·.1)).Nodup :=
  nodup_keys_foldl_put written List.nodup_nil

theorem mem_keys_foldl_put (written before : List (String × Json)) :
    w ∈ (written.foldl (fun members (k, v) => put k v members) before).map (·.1) ↔
      w ∈ before.map (·.1) ∨ w ∈ written.map (·.1) := by
  induction written generalizing before with
  | nil => simp
  | cons m written ih =>
    rw [List.foldl_cons, ih, mem_keys_put, List.map_cons, List.mem_cons, or_assoc]

theorem mem_keys_ofWritten {written : List (String × Json)} :
    w ∈ (ofWritten written).map (·.1) ↔ w ∈ written.map (·.1) := by
  rw [ofWritten, mem_keys_foldl_put]
  simp

theorem mem_of_mem_foldl_put {m : String × Json} (written before : List (String × Json))
    (h : m ∈ written.foldl (fun members (k, v) => put k v members) before) :
    m ∈ before ∨ m ∈ written := by
  induction written generalizing before with
  | nil => exact .inl h
  | cons n written ih =>
    rcases ih _ h with h | h
    · rcases mem_of_mem_put h with rfl | h
      · exact .inr List.mem_cons_self
      · exact .inl h
    · exact .inr (List.mem_cons_of_mem n h)

/-- The members of an object were all written. -/
theorem mem_of_mem_ofWritten {m : String × Json} {written : List (String × Json)}
    (h : m ∈ ofWritten written) : m ∈ written := by
  rcases mem_of_mem_foldl_put written [] h with h | h
  · contradiction
  · exact h

/-- Giving a key a value does not change the members under other keys. -/
theorem filter_put (k : String) : (put key v ms).filter (·.1 ≠ k) =
    if key = k then ms.filter (·.1 ≠ k) else put key v (ms.filter (·.1 ≠ k)) := by
  induction ms with
  | nil => by_cases hk : key = k <;> simp [put, hk]
  | cons m ms ih =>
    by_cases hm : m.1 = key
    · subst hm
      by_cases hk : m.1 = k <;> simp [put, hk]
    · rw [put, if_neg hm]
      by_cases hk : m.1 = k
      · rw [List.filter_cons_of_neg (by simpa using hk), ih,
          List.filter_cons_of_neg (by simpa using hk)]
      · rw [List.filter_cons_of_pos (by simpa using hk), ih,
          List.filter_cons_of_pos (by simpa using hk)]
        split
        · rfl
        · rw [put, if_neg hm]

theorem filter_foldl_put (k : String) (written before : List (String × Json)) :
    (written.foldl (fun members (k, v) => put k v members) before).filter (·.1 ≠ k) =
      (written.filter (·.1 ≠ k)).foldl (fun members (k, v) => put k v members)
        (before.filter (·.1 ≠ k)) := by
  induction written generalizing before with
  | nil => rfl
  | cons m written ih =>
    rw [List.foldl_cons, ih, filter_put]
    by_cases hk : m.1 = k
    · rw [if_pos hk, List.filter_cons_of_neg (by simpa using hk)]
    · rw [if_neg hk, List.filter_cons_of_pos (by simpa using hk), List.foldl_cons]

/-- Leaving a key out before or after written members make up an object is the same. -/
theorem filter_ofWritten (k : String) (written : List (String × Json)) :
    (ofWritten written).filter (·.1 ≠ k) = ofWritten (written.filter (·.1 ≠ k)) :=
  filter_foldl_put k written []

/-! ## Members with different keys -/

/-- A step that appends a member with a new key, taken over members with different keys, appends
them all. -/
theorem foldl_eq_append {step : List (String × Json) → String × Json → List (String × Json)}
    {ms : List (String × Json)} (hstep : ∀ m ∈ ms, ∀ before : List (String × Json),
      m.1 ∉ before.map (·.1) → step before m = before ++ [m])
    {before : List (String × Json)} (h : ((before ++ ms).map (·.1)).Nodup) :
    ms.foldl step before = before ++ ms := by
  induction ms generalizing before with
  | nil => simp
  | cons m ms ih =>
    have hm : m.1 ∉ before.map (·.1) := by
      rw [List.map_append, List.nodup_append] at h
      intro hmem
      exact h.2.2 m.1 hmem m.1 List.mem_cons_self rfl
    rw [List.foldl_cons, hstep m List.mem_cons_self before hm]
    rw [ih (fun n hn => hstep n (List.mem_cons_of_mem m hn)) (by simpa using h)]
    simp

theorem foldl_nil_eq {step : List (String × Json) → String × Json → List (String × Json)}
    {ms : List (String × Json)} (hstep : ∀ m ∈ ms, ∀ before : List (String × Json),
      m.1 ∉ before.map (·.1) → step before m = before ++ [m]) (h : (ms.map (·.1)).Nodup) :
    ms.foldl step [] = ms := by
  rw [← List.nil_append ms] at h
  rw [foldl_eq_append hstep h, List.nil_append]

/-- Members with different keys are those of an object as they stand. -/
theorem ofWritten_of_nodup {ms : List (String × Json)} (h : (ms.map (·.1)).Nodup) :
    ofWritten ms = ms :=
  foldl_nil_eq (fun _ _ _ hm => put_of_notMem hm _) h

end CommandForge.Json

/-
Reading back what was written field by field. An object whose members have
different names gives each declared field the value that was written for it, or
nothing if none was (`record?_objectOf`), and so does the same object with its
members in order (`record?_canonical`).
-/
import Screenplay.Document

namespace Screenplay.Document

/-! ## Lists -/

theorem mapM_map_of_forall {α β γ : Type} {f : α → Option β} {write : γ → α} {read : γ → β} {l : List γ}
    (h : ∀ x ∈ l, f (write x) = some (read x)) : (l.map write).mapM f = some (l.map read) := by
  induction l with
  | nil => rfl
  | cons x l ih =>
    have hx := h x (by simp)
    have hl := ih fun y hy => h y (by simp [hy])
    simp [hx, hl]

theorem listOf_array {β γ : Type} {read : Json → Option β} {write : γ → Json} {value : γ → β} {l : List γ}
    (h : ∀ x ∈ l, read (write x) = some (value x)) : listOf read (.array (l.map write)) = some (l.map value) :=
  mapM_map_of_forall h

theorem listOf_ofStrings (l : List String) : listOf (text? : Json → Option String) (.ofStrings l) = some l := by
  have h : listOf (text? : Json → Option String) (.array (l.map .string)) = some (l.map id) :=
    listOf_array fun _ _ => rfl
  rwa [List.map_id] at h

/-! ## Members -/

theorem pick_of_filter {α : Type} {ms : List (String × α)} {name : String} {value : Option α}
    (h : (ms.filter (·.1 == name)).Perm (value.map fun v => (name, v)).toList) : pick ms name = some value := by
  cases value with
  | none => rw [pick, List.perm_nil.1 h]
  | some v => rw [pick, List.perm_singleton.1 h]

theorem filter_of_not_mem {α : Type} {ms : List (String × α)} {name : String} (h : name ∉ ms.map (·.1)) :
    ms.filter (·.1 == name) = [] := by
  rw [List.filter_eq_nil_iff]
  intro m hm he
  exact h (beq_iff_eq.1 he ▸ List.mem_map_of_mem hm)

/-- The members of an object that is written field by field. -/
def present (fields : List (String × Option Json)) : List (String × Json) :=
  fields.filterMap fun (name, value) => value.map fun v => (name, v)

theorem present_cons (name : String) (value : Option Json) (fields : List (String × Option Json)) :
    present ((name, value) :: fields) = (value.map fun v => (name, v)).toList ++ present fields := by
  cases value <;> rfl

theorem mem_names_of_present {fields : List (String × Option Json)} {name : String}
    (h : name ∈ (present fields).map (·.1)) : name ∈ fields.map (·.1) := by
  obtain ⟨m, hm, rfl⟩ := List.mem_map.1 h
  obtain ⟨⟨n, value⟩, hf, hv⟩ := List.mem_filterMap.1 hm
  obtain ⟨v, -, rfl⟩ := Option.map_eq_some_iff.1 hv
  exact List.mem_map_of_mem hf

theorem nodup_names_present {fields : List (String × Option Json)} (h : (fields.map (·.1)).Nodup) :
    ((present fields).map (·.1)).Nodup := by
  induction fields with
  | nil => exact List.nodup_nil
  | cons f fields ih =>
    obtain ⟨n, value⟩ := f
    obtain ⟨hn, hnodup⟩ := List.nodup_cons.1 h
    cases value with
    | none => exact ih hnodup
    | some v => exact List.nodup_cons.2 ⟨fun hm => hn (mem_names_of_present hm), ih hnodup⟩

/-- The members with the name of a field are the one that was written for it, if one was. -/
theorem filter_present {fields : List (String × Option Json)} (h : (fields.map (·.1)).Nodup) {name : String}
    {value : Option Json} (hmem : (name, value) ∈ fields) :
    (present fields).filter (·.1 == name) = (value.map fun v => (name, v)).toList := by
  induction fields with
  | nil => cases hmem
  | cons f fields ih =>
    obtain ⟨n, w⟩ := f
    obtain ⟨hn, hnodup⟩ := List.nodup_cons.1 h
    rw [present_cons, List.filter_append]
    rcases List.mem_cons.1 hmem with he | hmem
    · cases he
      rw [filter_of_not_mem fun hm => hn (mem_names_of_present hm), List.append_nil]
      cases value <;> simp
    · have hmn : name ∈ fields.map (·.1) := List.mem_map_of_mem hmem
      have hne : n ≠ name := fun he => hn (he ▸ hmn)
      rw [ih hnodup hmem]
      cases w <;> simp [hne]

/-- **What is written field by field is read field by field.** -/
theorem record?_of_perm {fields : List (String × Option Json)} (h : (fields.map (·.1)).Nodup)
    {ms : List (String × Json)} (hms : ms.Perm (present fields)) :
    record? (fields.map (·.1)) (.object ms) = some (fields.map (·.2)) := by
  refine mapM_map_of_forall fun f hf => pick_of_filter ?_
  rw [← filter_present h hf]
  exact hms.filter _

theorem record?_objectOf {fields : List (String × Option Json)} (h : (fields.map (·.1)).Nodup) :
    record? (fields.map (·.1)) (.objectOf fields) = some (fields.map (·.2)) :=
  record?_of_perm h (.refl _)

/-! ## Members in order -/

theorem setMember_perm {name : String} (value : Json) {ms : List (String × Json)} (h : name ∉ ms.map (·.1)) :
    (Json.setMember name value ms).Perm ((name, value) :: ms) := by
  induction ms with
  | nil => exact .refl _
  | cons m ms ih =>
    obtain ⟨n, v⟩ := m
    rw [List.map_cons, List.mem_cons, not_or] at h
    rw [Json.setMember]
    split
    · exact .refl _
    · rw [if_neg (by simpa using h.1)]
      exact ((ih h.2).cons _).trans (.swap _ _ _)

theorem foldl_setMember_perm {ms done : List (String × Json)} (h : ((done ++ ms).map (·.1)).Nodup) :
    (ms.foldl (fun done (n, v) => Json.setMember n v done) done).Perm (done ++ ms) := by
  induction ms generalizing done with
  | nil => rw [List.append_nil]; exact .refl _
  | cons m ms ih =>
    obtain ⟨n, v⟩ := m
    have hmove : (done ++ (n, v) :: ms).Perm ((n, v) :: done ++ ms) := List.perm_middle
    have hnodup := (hmove.map (·.1)).nodup_iff.1 h
    have hn : n ∉ done.map (·.1) := fun hm => by
      rw [List.cons_append, List.map_cons, List.nodup_cons, List.map_append, List.mem_append] at hnodup
      exact hnodup.1 (.inl hm)
    have hset : (Json.setMember n v done ++ ms).Perm ((n, v) :: done ++ ms) := (setMember_perm v hn).append_right ms
    exact (ih ((hset.map (·.1)).nodup_iff.2 hnodup)).trans (hset.trans hmove.symm)

theorem orderMembers_perm {ms : List (String × Json)} (h : (ms.map (·.1)).Nodup) :
    (Json.orderMembers ms).Perm ms :=
  foldl_setMember_perm h

theorem canonicalMembers_present (fields : List (String × Option Json)) :
    Json.canonicalMembers (present fields) = present (fields.map fun f => (f.1, f.2.map Json.canonical)) := by
  induction fields with
  | nil => rfl
  | cons f fields ih =>
    obtain ⟨n, value⟩ := f
    cases value with
    | none => exact ih
    | some v => exact congrArg ((n, v.canonical) :: ·) ih

/-- In the object with its members in order, every field has its value in the same form. -/
theorem record?_canonical {fields : List (String × Option Json)} (h : (fields.map (·.1)).Nodup) :
    record? (fields.map (·.1)) (Json.objectOf fields).canonical = some (fields.map (·.2.map Json.canonical)) := by
  have hnames : (fields.map fun f => (f.1, f.2.map Json.canonical)).map (·.1) = fields.map (·.1) := by
    rw [List.map_map]
    rfl
  have hnodup : ((fields.map fun f => (f.1, f.2.map Json.canonical)).map (·.1)).Nodup := hnames ▸ h
  have hms : (Json.orderMembers (Json.canonicalMembers (present fields))).Perm
      (present (fields.map fun f => (f.1, f.2.map Json.canonical))) := by
    rw [canonicalMembers_present]
    exact orderMembers_perm (nodup_names_present hnodup)
  have hread := record?_of_perm hnodup hms
  rw [hnames, List.map_map] at hread
  exact hread

end Screenplay.Document

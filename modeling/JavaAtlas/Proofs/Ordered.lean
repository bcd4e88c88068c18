import Mathlib.Data.List.Nodup
import JavaAtlas.Ordered

/-!
# Laws of maps in insertion order

What is looked up after a key was set or dropped, and which keys a map has. A list of pairs with
distinct keys is the map that it leaves.
-/

namespace JavaAtlas

namespace Ordered

variable {κ α : Type}

@[simp] lemma keys_nil : keys ([] : List (κ × α)) = [] := rfl

@[simp] lemma keys_cons (entry : κ × α) (rest : List (κ × α)) :
    keys (entry :: rest) = entry.1 :: keys rest := rfl

lemma mem_keys_of_mem {m : List (κ × α)} {key : κ} {v : α} (h : (key, v) ∈ m) : key ∈ keys m :=
  List.mem_map.mpr ⟨(key, v), h, rfl⟩

@[simp] lemma get?_nil [BEq κ] (key : κ) : get? ([] : List (κ × α)) key = none := rfl

lemma sublist_keys_erase [BEq κ] (m : List (κ × α)) (key : κ) :
    (keys (erase m key)).Sublist (keys m) :=
  List.filter_sublist.map Prod.fst

variable [BEq κ] [LawfulBEq κ]

lemma get?_cons_self (key : κ) (v : α) (rest : List (κ × α)) :
    get? ((key, v) :: rest) key = some v := by
  simp [get?]

lemma get?_cons_of_ne {k key : κ} (v : α) (rest : List (κ × α)) (h : k ≠ key) :
    get? ((k, v) :: rest) key = get? rest key := by
  simp [get?, h]

lemma get?_map {β : Type} (f : α → β) (m : List (κ × α)) (key : κ) :
    get? (m.map fun entry => (entry.1, f entry.2)) key = (get? m key).map f := by
  induction m with
  | nil => rfl
  | cons entry rest ih =>
    by_cases h : entry.1 = key
    · simp [get?, h]
    · simp only [List.map_cons, get?_cons_of_ne _ _ h, ih]

@[simp] lemma get?_insert_self (m : List (κ × α)) (key : κ) (v : α) :
    get? (insert m key v) key = some v := by
  induction m with
  | nil => simp [insert, get?]
  | cons entry rest ih =>
    obtain ⟨k, w⟩ := entry
    by_cases hk : k = key
    · simp [insert, get?, hk]
    · simp [insert, get?, hk, ih]

lemma get?_insert_of_ne (m : List (κ × α)) {key other : κ} (v : α) (h : other ≠ key) :
    get? (insert m key v) other = get? m other := by
  induction m with
  | nil => simp [insert, get?, Ne.symm h]
  | cons entry rest ih =>
    obtain ⟨k, w⟩ := entry
    by_cases hk : k = key
    · subst hk
      simp [insert, get?, Ne.symm h]
    · simp [insert, get?, hk, ih]

@[simp] lemma get?_erase_self (m : List (κ × α)) (key : κ) : get? (erase m key) key = none := by
  induction m with
  | nil => rfl
  | cons entry rest ih =>
    obtain ⟨k, w⟩ := entry
    by_cases hk : k = key
    · simpa [erase, hk] using ih
    · simpa [erase, get?, hk] using ih

lemma get?_erase_of_ne (m : List (κ × α)) {key other : κ} (h : other ≠ key) :
    get? (erase m key) other = get? m other := by
  induction m with
  | nil => rfl
  | cons entry rest ih =>
    obtain ⟨k, w⟩ := entry
    by_cases hk : k = key
    · subst hk
      simpa [erase, get?, Ne.symm h] using ih
    · by_cases ho : k = other
      · simp [erase, get?, ho, h]
      · simpa [erase, get?, hk, ho] using ih

/-! ### Keys -/

lemma mem_of_get? {m : List (κ × α)} {key : κ} {v : α} (h : get? m key = some v) :
    (key, v) ∈ m := by
  induction m with
  | nil => simp at h
  | cons entry rest ih =>
    obtain ⟨k, w⟩ := entry
    by_cases hk : k = key
    · subst hk
      simp only [get?_cons_self, Option.some.injEq] at h
      simp [h]
    · rw [get?_cons_of_ne w rest hk] at h
      exact List.mem_cons_of_mem _ (ih h)

lemma get?_eq_none_iff {m : List (κ × α)} {key : κ} : get? m key = none ↔ key ∉ keys m := by
  induction m with
  | nil => simp
  | cons entry rest ih =>
    obtain ⟨k, w⟩ := entry
    by_cases hk : k = key
    · simp [get?, hk]
    · simp [get?, hk, ih, Ne.symm hk]

lemma get?_of_mem {m : List (κ × α)} (hm : (keys m).Nodup) {key : κ} {v : α}
    (h : (key, v) ∈ m) : get? m key = some v := by
  induction m with
  | nil => simp at h
  | cons entry rest ih =>
    obtain ⟨k, w⟩ := entry
    rw [keys_cons, List.nodup_cons] at hm
    rcases List.mem_cons.mp h with heq | hrest
    · cases heq
      exact get?_cons_self _ _ _
    · have hk : k ≠ key := fun heq => hm.1 (heq ▸ mem_keys_of_mem hrest)
      rw [get?_cons_of_ne w rest hk]
      exact ih hm.2 hrest

lemma mem_keys_iff {m : List (κ × α)} {key : κ} : key ∈ keys m ↔ ∃ v, get? m key = some v := by
  rw [← Option.ne_none_iff_exists', ne_eq, get?_eq_none_iff, not_not]

lemma insert_of_not_mem {m : List (κ × α)} {key : κ} (v : α) (h : key ∉ keys m) :
    insert m key v = m ++ [(key, v)] := by
  induction m with
  | nil => rfl
  | cons entry rest ih =>
    obtain ⟨k, w⟩ := entry
    rw [keys_cons, List.mem_cons, not_or] at h
    simp [insert, Ne.symm h.1, ih h.2]

lemma keys_insert_of_mem {m : List (κ × α)} {key : κ} (v : α) (h : key ∈ keys m) :
    keys (insert m key v) = keys m := by
  induction m with
  | nil => simp at h
  | cons entry rest ih =>
    obtain ⟨k, w⟩ := entry
    by_cases hk : k = key
    · simp [insert, hk]
    · have hrest : key ∈ keys rest := by simpa [Ne.symm hk] using h
      simp [insert, hk, ih hrest]

@[simp] lemma mem_keys_insert {m : List (κ × α)} {key other : κ} {v : α} :
    other ∈ keys (insert m key v) ↔ other = key ∨ other ∈ keys m := by
  by_cases h : key ∈ keys m
  · rw [keys_insert_of_mem v h]
    constructor
    · exact Or.inr
    · rintro (rfl | ho)
      · exact h
      · exact ho
  · rw [insert_of_not_mem v h]
    simp [keys, or_comm]

lemma nodup_keys_insert {m : List (κ × α)} (hm : (keys m).Nodup) (key : κ) (v : α) :
    (keys (insert m key v)).Nodup := by
  by_cases h : key ∈ keys m
  · rwa [keys_insert_of_mem v h]
  · rw [insert_of_not_mem v h]
    simp only [keys, List.map_append, List.map_cons, List.map_nil]
    exact List.Nodup.append hm (List.nodup_singleton key)
      (List.disjoint_singleton.mpr h)

/-- Keys that are set one after the other stand in the order of their first appearance. -/
lemma keys_insert_eraseDups {m : List (κ × α)} {l : List κ} (key : κ) (v : α)
    (h : keys m = l.eraseDups) : keys (insert m key v) = (l ++ [key]).eraseDups := by
  by_cases hkey : key ∈ l
  · have hin : key ∈ keys m := by rwa [h, List.mem_eraseDups]
    rw [keys_insert_of_mem v hin, h, List.eraseDups_append]
    simp [List.removeAll, hkey]
  · have hout : key ∉ keys m := by rwa [h, List.mem_eraseDups]
    rw [insert_of_not_mem v hout, List.eraseDups_append, ← h]
    simp [keys, List.removeAll, hkey, List.eraseDups_cons]

lemma length_insert (m : List (κ × α)) (key : κ) (v : α) [Decidable (key ∈ keys m)] :
    (insert m key v).length = if key ∈ keys m then m.length else m.length + 1 := by
  have hlength : ∀ m : List (κ × α), (keys m).length = m.length := fun m => List.length_map _
  split
  · next h => rw [← hlength, keys_insert_of_mem v h, hlength]
  · next h => rw [insert_of_not_mem v h, List.length_append, List.length_singleton]

lemma mem_insert {m : List (κ × α)} {key : κ} {v : α} {entry : κ × α}
    (h : entry ∈ insert m key v) : entry = (key, v) ∨ entry ∈ m := by
  induction m with
  | nil => exact Or.inl (List.mem_singleton.mp h)
  | cons first rest ih =>
    obtain ⟨k, w⟩ := first
    by_cases hk : k = key
    · simp only [insert, hk, beq_self_eq_true, if_true, List.mem_cons] at h
      exact h.imp id fun hrest => List.mem_cons_of_mem _ hrest
    · simp only [insert, beq_iff_eq, hk, if_false, List.mem_cons] at h
      rcases h with rfl | hrest
      · exact Or.inr List.mem_cons_self
      · exact (ih hrest).imp id fun hold => List.mem_cons_of_mem _ hold

/-- A value that yields what the one before yielded, or nothing if there was none, changes nothing
of what a map yields. -/
lemma flatMap_insert {β : Type} (f : κ × α → List β) {m : List (κ × α)} {key : κ} {v : α}
    (h : f (key, v) = ((get? m key).map fun w => f (key, w)).getD []) :
    (insert m key v).flatMap f = m.flatMap f := by
  induction m with
  | nil => simpa [insert] using h
  | cons first rest ih =>
    obtain ⟨k, w⟩ := first
    by_cases hk : k = key
    · subst hk
      simp only [get?_cons_self, Option.map_some, Option.getD_some] at h
      simp [insert, h]
    · rw [get?_cons_of_ne w rest hk] at h
      simp [insert, hk, ih h]

/-- A value takes away what the one before it yielded. -/
lemma length_flatMap_insert {β : Type} (f : κ × α → List β) (m : List (κ × α)) (key : κ) (v : α) :
    ((insert m key v).flatMap f).length + ((get? m key).map fun w => (f (key, w)).length).getD 0 =
      (m.flatMap f).length + (f (key, v)).length := by
  induction m with
  | nil => simp [insert]
  | cons first rest ih =>
    obtain ⟨k, w⟩ := first
    by_cases hk : k = key
    · subst hk
      simp [insert, get?_cons_self]
      omega
    · rw [get?_cons_of_ne w rest hk]
      simp only [insert, beq_iff_eq, hk, if_false, List.flatMap_cons, List.length_append]
      omega

/-- To drop a key whose value yields nothing changes nothing of what a map yields. -/
lemma flatMap_erase {β : Type} (f : κ × α → List β) {m : List (κ × α)} (hm : (keys m).Nodup)
    {key : κ} (h : ∀ w, get? m key = some w → f (key, w) = []) :
    (erase m key).flatMap f = m.flatMap f := by
  induction m with
  | nil => rfl
  | cons first rest ih =>
    obtain ⟨k, w⟩ := first
    rw [keys_cons, List.nodup_cons] at hm
    have hrest : (∀ w, get? rest key = some w → f (key, w) = []) →
        (erase rest key).flatMap f = rest.flatMap f := ih hm.2
    by_cases hk : k = key
    · subst hk
      have hnone : get? rest k = none := get?_eq_none_iff.mpr hm.1
      have hall := hrest (by simp [hnone])
      simpa [erase, h w (get?_cons_self k w rest)] using hall
    · rw [get?_cons_of_ne w rest hk] at h
      simpa [erase, hk] using hrest h

/-- A list of pairs with distinct keys is the map that it leaves. -/
lemma ofList_of_nodup {l : List (κ × α)} (h : (keys l).Nodup) : ofList l = l := by
  -- the pairs read so far and those still to be read make up the list
  have hfold : ∀ (rest done : List (κ × α)), (keys (done ++ rest)).Nodup →
      rest.foldl (fun map entry => insert map entry.1 entry.2) done = done ++ rest := by
    intro rest
    induction rest with
    | nil => simp
    | cons entry rest ih =>
      intro done hd
      have hnew : entry.1 ∉ keys done := by
        intro hmem
        simp only [keys, List.map_append, List.map_cons] at hd
        exact (List.disjoint_of_nodup_append hd) hmem List.mem_cons_self
      rw [List.foldl_cons, insert_of_not_mem _ hnew, ih]
      · simp
      · simpa using hd
  simpa [ofList] using hfold l [] (by simpa using h)

end Ordered

end JavaAtlas

import ControlPlane.Data.Dict

namespace ControlPlane

variable {α β : Type}

def entryAt? (key : String) (l : List (String × α)) : Option α :=
  (l.find? fun e => e.1 == key).map (·.2)

theorem entryAt?_cons (key : String) (e : String × α) (l : List (String × α)) :
    entryAt? key (e :: l) = if e.1 = key then some e.2 else entryAt? key l := by
  by_cases h : e.1 = key
  · simp [entryAt?, h]
  · simp [entryAt?, h]

theorem entryAt?_insertEntry (key : String) (value : α) (x : String) (l : List (String × α)) :
    entryAt? x (insertEntry key value l) = if key = x then some value else entryAt? x l := by
  induction l with
  | nil => simp [insertEntry, entryAt?_cons]
  | cons e rest ih =>
      obtain ⟨k, v⟩ := e
      simp only [insertEntry]
      split
      · rw [entryAt?_cons]
      · split
        · rename_i hlt
          rw [entryAt?_cons, entryAt?_cons, ih]
          have hne : k ≠ key := fun he => String.lt_irrefl key (he ▸ hlt)
          by_cases hk : k = x
          · subst hk
            simp [hne.symm]
          · simp [hk]
        · rename_i h1 h2
          have hk : key = k := eq_of_not_lt h1 h2
          subst hk
          rw [entryAt?_cons, entryAt?_cons]
          by_cases hx : key = x <;> simp [hx]

theorem entryAt?_eq_none {key : String} {l : List (String × α)} (h : ∀ e ∈ l, key < e.1) :
    entryAt? key l = none := by
  induction l with
  | nil => rfl
  | cons e rest ih =>
      have hne : e.1 ≠ key := fun he => String.lt_irrefl key (he ▸ h e (List.mem_cons_self ..))
      rw [entryAt?_cons, if_neg hne]
      exact ih fun e' he' => h e' (List.mem_cons_of_mem _ he')

theorem entryAt?_isSome {key : String} {l : List (String × α)} :
    (entryAt? key l).isSome = l.any fun e => e.1 == key := by
  induction l with
  | nil => rfl
  | cons e rest ih =>
      rw [entryAt?_cons, List.any_cons]
      by_cases h : e.1 = key
      · simp [h]
      · simp [h, ih]

theorem mem_iff_entryAt? {l : List (String × α)} (ho : l.Pairwise fun a b => a.1 < b.1)
    (key : String) (value : α) : (key, value) ∈ l ↔ entryAt? key l = some value := by
  induction l with
  | nil => simp [entryAt?]
  | cons e rest ih =>
      obtain ⟨k, v⟩ := e
      obtain ⟨hk, hrest⟩ := List.pairwise_cons.mp ho
      rw [entryAt?_cons, List.mem_cons, ih hrest]
      by_cases h : k = key
      · subst h
        simp [entryAt?_eq_none hk, eq_comm]
      · simp [h, Ne.symm h]

theorem eq_of_entryAt?_eq : ∀ {l l' : List (String × α)},
    l.Pairwise (fun a b => a.1 < b.1) → l'.Pairwise (fun a b => a.1 < b.1) →
    (∀ key, entryAt? key l = entryAt? key l') → l = l' := by
  intro l
  induction l with
  | nil =>
      intro l' _ _ h
      cases l' with
      | nil => rfl
      | cons e rest =>
          have := h e.1
          simp [entryAt?] at this
  | cons e rest ih =>
      intro l' ho ho' h
      cases l' with
      | nil =>
          have := h e.1
          simp [entryAt?] at this
      | cons e' rest' =>
          obtain ⟨k, v⟩ := e
          obtain ⟨k', v'⟩ := e'
          obtain ⟨hk, hrest⟩ := List.pairwise_cons.mp ho
          obtain ⟨hk', hrest'⟩ := List.pairwise_cons.mp ho'
          simp only [entryAt?_cons] at h
          -- the smaller of two different first keys is found on one side alone
          have hkk : k = k' := by
            apply eq_of_not_lt
            · intro hlt
              have hne : k' ≠ k := fun he => String.lt_irrefl k (he ▸ hlt)
              have := h k
              rw [if_pos rfl, if_neg hne,
                entryAt?_eq_none fun e he => String.lt_trans hlt (hk' e he)] at this
              exact absurd this (by simp)
            · intro hlt
              have hne : k ≠ k' := fun he => String.lt_irrefl k' (he ▸ hlt)
              have := h k'
              rw [if_pos rfl, if_neg hne,
                entryAt?_eq_none fun e he => String.lt_trans hlt (hk e he)] at this
              exact absurd this (by simp)
          subst hkk
          have hv : v = v' := by simpa using h k
          subst hv
          congr 1
          refine ih hrest hrest' fun key => ?_
          by_cases hkey : k = key
          · subst hkey
            rw [entryAt?_eq_none hk, entryAt?_eq_none hk']
          · simpa [hkey] using h key

theorem insertEntry_last {key : String} {value : α} {l : List (String × α)}
    (h : ∀ e ∈ l, e.1 < key) : insertEntry key value l = l ++ [(key, value)] := by
  induction l with
  | nil => rfl
  | cons e rest ih =>
      obtain ⟨k, v⟩ := e
      have hk : k < key := h (k, v) (List.mem_cons_self ..)
      have hn : ¬key < k := fun hlt => String.lt_irrefl k (String.lt_trans hk hlt)
      simp only [insertEntry, if_neg hn, if_pos hk]
      rw [ih fun e he => h e (List.mem_cons_of_mem _ he)]
      rfl

namespace Dict

variable {d e : Dict α} {key x : String} {value : α}

theorem eq_of_entries (h : d.entries = e.entries) : d = e := by
  obtain ⟨l, ho⟩ := d
  obtain ⟨l', ho'⟩ := e
  subst h
  rfl

theorem ext_get? (h : ∀ key, d.get? key = e.get? key) : d = e :=
  eq_of_entries (eq_of_entryAt?_eq d.ordered e.ordered h)

theorem isEmpty_eq_false_iff : d.isEmpty = false ↔ d ≠ empty := by
  rw [← Bool.not_eq_true, not_congr]
  constructor
  · intro h
    exact eq_of_entries (List.isEmpty_iff.mp h)
  · rintro rfl
    rfl

@[simp] theorem get?_empty : (empty : Dict α).get? key = none := rfl

theorem get?_insert : (d.insert key value).get? x = if key = x then some value else d.get? x :=
  entryAt?_insertEntry key value x d.entries

theorem get?_erase : (d.erase key).get? x = if key = x then none else d.get? x := by
  change entryAt? x (d.entries.filter fun e => e.1 != key) = if key = x then none else entryAt? x _
  induction d.entries with
  | nil => simp [entryAt?]
  | cons e rest ih =>
      rw [List.filter_cons]
      by_cases he : e.1 = key
      · subst he
        rw [if_neg (by simp), ih, entryAt?_cons]
        by_cases hx : e.1 = x <;> simp [hx]
      · rw [if_pos (by simpa using he), entryAt?_cons, entryAt?_cons, ih]
        by_cases hx : e.1 = x
        · subst hx
          simp [Ne.symm he]
        · simp [hx]

theorem get?_map (f : String → α → β) : (d.map f).get? x = (d.get? x).map (f x) := by
  change entryAt? x (d.entries.map fun e => (e.1, f e.1 e.2)) = (entryAt? x d.entries).map (f x)
  induction d.entries with
  | nil => rfl
  | cons e rest ih =>
      rw [List.map_cons, entryAt?_cons, entryAt?_cons, ih]
      by_cases h : e.1 = x
      · subst h
        simp
      · simp [h]

theorem contains_eq_isSome : d.contains key = (d.get? key).isSome := entryAt?_isSome.symm

theorem contains_iff : d.contains key = true ↔ ∃ value, d.get? key = some value := by
  rw [contains_eq_isSome, Option.isSome_iff_exists]

theorem contains_of_get? (h : d.get? key = some value) : d.contains key = true :=
  contains_iff.mpr ⟨value, h⟩

theorem mem_entries_iff : (key, value) ∈ d.entries ↔ d.get? key = some value :=
  mem_iff_entryAt? d.ordered key value

theorem get?_filter_eq_some_iff {keep : String → α → Bool} :
    (d.filter keep).get? key = some value ↔ d.get? key = some value ∧ keep key value = true := by
  rw [← mem_entries_iff, ← mem_entries_iff]
  exact List.mem_filter

theorem contains_filter_iff {keep : String → α → Bool} :
    (d.filter keep).contains key = true ↔ ∃ value, d.get? key = some value ∧ keep key value = true := by
  simp only [contains_iff, get?_filter_eq_some_iff]

theorem entries_split (h : (key, value) ∈ d.entries) :
    ∃ earlier later, d.entries = earlier ++ (key, value) :: later ∧
      (∀ e ∈ earlier, e.1 ≠ key) ∧ ∀ e ∈ later, e.1 ≠ key := by
  obtain ⟨earlier, later, hsplit⟩ := List.append_of_mem h
  have ho := d.ordered
  rw [hsplit, List.pairwise_append, List.pairwise_cons] at ho
  obtain ⟨-, ⟨hlater, -⟩, hearlier⟩ := ho
  refine ⟨earlier, later, hsplit, fun e he hk => ?_, fun e he hk => ?_⟩
  · have hlt : e.1 < key := hearlier e he _ (List.mem_cons_self ..)
    exact String.lt_irrefl key (hk ▸ hlt)
  · have hlt : key < e.1 := hlater e he
    exact String.lt_irrefl key (hk ▸ hlt)

theorem filter_before {earlier later : List (String × α)}
    (h : d.entries = earlier ++ (key, value) :: later) :
    (d.filter fun other _ => decide (other < key)).entries = earlier := by
  have ho := d.ordered
  rw [h, List.pairwise_append, List.pairwise_cons] at ho
  obtain ⟨-, ⟨hlater, -⟩, hearlier⟩ := ho
  have hkept : earlier.filter (fun e => decide (e.1 < key)) = earlier :=
    List.filter_eq_self.mpr fun e he =>
      decide_eq_true (hearlier e he (key, value) (List.mem_cons_self ..))
  have hdropped : later.filter (fun e => decide (e.1 < key)) = [] :=
    List.filter_eq_nil_iff.mpr fun e he hlt =>
      String.lt_irrefl key (String.lt_trans (hlater e he) (of_decide_eq_true hlt))
  have hself : ¬decide (key < key) = true := fun hlt => String.lt_irrefl key (of_decide_eq_true hlt)
  change d.entries.filter (fun e => decide (e.1 < key)) = earlier
  rw [h, List.filter_append, List.filter_cons, if_neg hself, hkept, hdropped, List.append_nil]

theorem mem_keys_iff : key ∈ d.keys ↔ d.contains key = true := by
  simp [keys, contains, List.mem_map, List.any_eq_true]

theorem insertAll_entries : ∀ (d : Dict α) (l : List (String × α)),
    (d.entries ++ l).Pairwise (fun a b => a.1 < b.1) → (d.insertAll l).entries = d.entries ++ l := by
  intro d l
  induction l generalizing d with
  | nil => intro _; simp [insertAll]
  | cons e rest ih =>
      intro ho
      have hlast : (d.insert e.1 e.2).entries = d.entries ++ [e] :=
        insertEntry_last fun e' he' =>
          (List.pairwise_append.mp ho).2.2 e' he' e (List.mem_cons_self ..)
      have ho' : ((d.insert e.1 e.2).entries ++ rest).Pairwise fun a b => a.1 < b.1 := by
        simpa [hlast] using ho
      change ((d.insert e.1 e.2).insertAll rest).entries = d.entries ++ e :: rest
      rw [ih _ ho', hlast]
      simp

@[simp] theorem ofList_entries (d : Dict α) : ofList d.entries = d :=
  eq_of_entries (insertAll_entries empty d.entries d.ordered)

theorem get?_insertAll {l : List (String × α)} (ho : l.Pairwise fun a b => a.1 < b.1) :
    (d.insertAll l).get? x = (entryAt? x l).or (d.get? x) := by
  induction l generalizing d with
  | nil => rfl
  | cons e rest ih =>
      obtain ⟨he, hrest⟩ := List.pairwise_cons.mp ho
      change ((d.insert e.1 e.2).insertAll rest).get? x = _
      rw [ih hrest, get?_insert, entryAt?_cons]
      by_cases hx : e.1 = x
      · -- a later entry of the same key would win, but the keys only grow
        have hnone : entryAt? x rest = none := entryAt?_eq_none (hx ▸ he)
        simp [hx, hnone]
      · simp [hx]

theorem get?_overlay : (d.overlay e).get? x = (e.get? x).or (d.get? x) :=
  get?_insertAll e.ordered

theorem get?_insertAll_last (l : List (String × α)) : ∀ {d : Dict α},
    (d.insertAll l).get? x = ((l.filter (·.1 == x)).getLast?.map (·.2)).or (d.get? x) := by
  induction l with
  | nil => intro d; rfl
  | cons e rest ih =>
      intro d
      change ((d.insert e.1 e.2).insertAll rest).get? x = _
      rw [ih, get?_insert, List.filter_cons]
      by_cases hx : e.1 = x
      · rw [if_pos hx, if_pos (by simpa using hx), List.getLast?_cons]
        cases (rest.filter (·.1 == x)).getLast? <;> rfl
      · rw [if_neg hx, if_neg (by simpa using hx)]

theorem mem_or_get?_of_insertAll {l : List (String × α)} (h : (d.insertAll l).get? key = some value) :
    (key, value) ∈ l ∨ d.get? key = some value := by
  rw [get?_insertAll_last, Option.or_eq_some_iff] at h
  rcases h with h | ⟨-, h⟩
  · obtain ⟨e, he, rfl⟩ := Option.map_eq_some_iff.mp h
    obtain ⟨hmem, hkey⟩ := List.mem_filter.mp (List.mem_of_getLast? he)
    exact .inl (eq_of_beq hkey ▸ hmem)
  · exact .inr h

theorem get?_ofList {l : List (String × α)} :
    (ofList l).get? x = (l.filter (·.1 == x)).getLast?.map (·.2) := by
  rw [ofList, get?_insertAll_last, get?_empty, Option.or_none]

theorem mem_of_get?_ofList {l : List (String × α)} (h : (ofList l).get? key = some value) :
    (key, value) ∈ l := by
  rcases mem_or_get?_of_insertAll h with hmem | hempty
  · exact hmem
  · simp at hempty

theorem get?_ofList_of_sole {l : List (String × α)} (hmem : (key, value) ∈ l)
    (hsole : ∀ v, (key, v) ∈ l → v = value) : (ofList l).get? key = some value := by
  have hkept : (key, value) ∈ l.filter (·.1 == key) := List.mem_filter.mpr ⟨hmem, beq_self_eq_true key⟩
  rw [get?_ofList]
  cases hlast : (l.filter (·.1 == key)).getLast? with
  | none =>
      rw [List.getLast?_eq_none_iff.mp hlast] at hkept
      simp at hkept
  | some e =>
      obtain ⟨hm, hkey⟩ := List.mem_filter.mp (List.mem_of_getLast? hlast)
      rw [Option.map_some, hsole e.2 (eq_of_beq hkey ▸ hm)]

theorem get?_ofList_iff {l : List (String × α)}
    (h : ∀ v w, (key, v) ∈ l → (key, w) ∈ l → v = w) :
    (ofList l).get? key = some value ↔ (key, value) ∈ l :=
  ⟨mem_of_get?_ofList, fun hmem => get?_ofList_of_sole hmem fun v hv => h v value hv hmem⟩

theorem get?_foldl_erase {keys : List String} :
    (keys.foldl erase d).get? x = if x ∈ keys then none else d.get? x := by
  induction keys generalizing d with
  | nil => simp
  | cons k rest ih =>
      rw [List.foldl_cons, ih, get?_erase]
      by_cases hk : k = x
      · subst hk
        simp
      · simp [hk, Ne.symm hk]

theorem keys_ordered : d.keys.Pairwise (· < ·) := List.pairwise_map.mpr d.ordered

theorem keys_map (f : String → α → β) : (d.map f).keys = d.keys := by
  simp [keys, map, Function.comp_def]

end Dict

end ControlPlane

import ControlPlane.Attribute.Schema
import Mathlib.Data.List.Nodup

namespace ControlPlane

theorem find?_of_nodup {α : Type} {key : α → String} {l : List α} (h : (l.map key).Nodup) {a : α}
    (ha : a ∈ l) : l.find? (fun b => key b == key a) = some a := by
  cases hfind : l.find? (fun b => key b == key a) with
  | none => exact absurd (beq_self_eq_true (key a)) (List.find?_eq_none.mp hfind a ha)
  | some b =>
      have hkey : key b = key a := by simpa using List.find?_some hfind
      rw [List.inj_on_of_nodup_map h (List.mem_of_find?_eq_some hfind) ha hkey]

theorem eraseDups_append_of_mem {names more : List String} (h : ∀ name ∈ more, name ∈ names) :
    (names ++ more).eraseDups = names.eraseDups := by
  have hnone : more.removeAll names = [] :=
    List.filter_eq_nil_iff.mpr fun name hname => by simp [h name hname]
  rw [List.eraseDups_append, hnone, List.eraseDups_nil, List.append_nil]

theorem eraseDups_concat (names : List String) (name : String) : (names ++ [name]).eraseDups =
    if name ∈ names then names.eraseDups else names.eraseDups ++ [name] := by
  split
  · rename_i hname
    exact eraseDups_append_of_mem fun other hother => List.mem_singleton.mp hother ▸ hname
  · rename_i hname
    have hnew : [name].removeAll names = [name] :=
      List.filter_eq_self.mpr fun other hother => by simp [List.mem_singleton.mp hother, hname]
    rw [List.eraseDups_append, hnew]
    rfl

theorem head?_eq_some_iff_mem {α : Type} {l : List α} (h : l.length ≤ 1) {a : α} :
    l.head? = some a ↔ a ∈ l := by
  match l, h with
  | [], _ => simp
  | [b], _ => simp [eq_comm]

namespace FieldTable

variable {table table' declared more : List Field} {f g : Field} {name : String}

def Distinct (table : List Field) : Prop := (table.map (·.name)).Nodup

instance : Decidable (Distinct table) := inferInstanceAs (Decidable (table.map (·.name)).Nodup)

theorem distinct_base : Distinct base := by simp [Distinct, base]

theorem names_place (f : Field) (table : List Field) : (place f table).map (·.name) =
    if f.name ∈ table.map (·.name) then table.map (·.name) else table.map (·.name) ++ [f.name] := by
  induction table with
  | nil => rfl
  | cons g rest ih =>
      rw [place]
      by_cases hname : g.name = f.name
      · rw [if_pos hname, if_pos (List.mem_map.mpr ⟨g, List.mem_cons_self .., hname⟩), List.map_cons,
          List.map_cons, hname]
      · have hmem : f.name ∈ (g :: rest).map (·.name) ↔ f.name ∈ rest.map (·.name) := by
          rw [List.map_cons, List.mem_cons, or_iff_right (Ne.symm hname)]
        rw [if_neg hname, List.map_cons, ih]
        simp only [hmem]
        split <;> rfl

theorem distinct_place (h : Distinct table) (f : Field) : Distinct (place f table) := by
  rw [Distinct, names_place]
  split
  · exact h
  · rename_i hnew
    exact List.nodup_append.mpr ⟨h, List.nodup_singleton _, fun a ha b hb hab =>
      hnew (List.mem_singleton.mp hb ▸ hab ▸ ha)⟩

theorem mem_place (h : Distinct table) (hg : g ∈ place f table) :
    g = f ∨ g ∈ table ∧ g.name ≠ f.name := by
  induction table with
  | nil => exact .inl (List.mem_singleton.mp hg)
  | cons k rest ih =>
      obtain ⟨hk, hrest⟩ := List.nodup_cons.mp h
      rw [place] at hg
      split at hg
      · rename_i hname
        refine (List.mem_cons.mp hg).imp id fun hg => ⟨List.mem_cons_of_mem _ hg, fun hsame => ?_⟩
        exact hk (List.mem_map.mpr ⟨g, hg, hsame.trans hname.symm⟩)
      · rename_i hname
        rcases List.mem_cons.mp hg with rfl | hg
        · exact .inr ⟨List.mem_cons_self .., hname⟩
        · exact (ih hrest hg).imp id fun hg => ⟨List.mem_cons_of_mem _ hg.1, hg.2⟩

def last? (declared : List Field) (name : String) : Option Field :=
  declared.findRev? (·.name == name)

theorem last?_append (declared more : List Field) (name : String) :
    last? (declared ++ more) name = (last? more name).or (last? declared name) := by
  simp only [last?, List.findRev?_eq_find?_reverse, List.reverse_append, List.find?_append]

theorem last?_concat (declared : List Field) (f : Field) (name : String) :
    last? (declared ++ [f]) name = if f.name = name then some f else last? declared name := by
  rw [last?_append, last?, List.findRev?_eq_find?_reverse, List.reverse_singleton,
    List.find?_singleton]
  by_cases hname : f.name = name
  · simp [hname]
  · simp [hname]

structure Tabulates (declared table : List Field) : Prop where
  distinct : Distinct table
  names : table.map (·.name) = (declared.map (·.name)).eraseDups
  latest : ∀ f ∈ table, last? declared f.name = some f

theorem tabulates_base : Tabulates base base := ⟨distinct_base, by decide, by decide⟩

theorem tabulates_place (h : Tabulates declared table) (f : Field) :
    Tabulates (declared ++ [f]) (place f table) := by
  refine ⟨distinct_place h.distinct f, ?_, fun g hg => ?_⟩
  · rw [names_place, List.map_append, List.map_singleton, eraseDups_concat, h.names]
    simp only [List.mem_eraseDups]
  · rw [last?_concat]
    rcases mem_place h.distinct hg with rfl | ⟨hg, hname⟩
    · rw [if_pos rfl]
    · rw [if_neg (Ne.symm hname), h.latest g hg]

theorem tabulates_merge (h : Tabulates declared table) (more : List Field) :
    Tabulates (declared ++ more) (merge table more) := by
  induction more generalizing declared table with
  | nil => rwa [List.append_nil]
  | cons f rest ih =>
      have hrest := ih (tabulates_place h f)
      rwa [List.append_assoc] at hrest

theorem tabulates_unique (h : Tabulates declared table) (h' : Tabulates declared table') :
    table = table' := by
  have hfields : ∀ {t}, Tabulates declared t →
      t.map some = ((declared.map (·.name)).eraseDups).map (last? declared) := by
    intro t ht
    rw [← ht.names, List.map_map]
    exact List.map_congr_left fun f hf => (ht.latest f hf).symm
  exact (List.map_inj_right fun _ _ => Option.some.inj).mp ((hfields h).trans (hfields h').symm)

theorem tabulates_again (h : Tabulates (declared ++ more) table) :
    Tabulates (declared ++ more ++ more) table := by
  refine ⟨h.distinct, ?_, fun f hf => ?_⟩
  · rw [List.map_append, eraseDups_append_of_mem, h.names]
    intro name hname
    rw [List.map_append]
    exact List.mem_append_right _ hname
  · rw [last?_append, h.latest f hf]
    cases hmore : last? more f.name with
    | none => rfl
    | some g =>
        have hlast := h.latest f hf
        rw [last?_append, hmore, Option.some_or] at hlast
        rw [Option.some_or, hlast]

theorem merge_again (h : Tabulates declared table) (more : List Field) :
    merge (merge table more) more = merge table more :=
  tabulates_unique (tabulates_merge (tabulates_merge h more) more)
    (tabulates_again (tabulates_merge h more))

theorem find?_of_tabulates (h : Tabulates declared table) (name : String) :
    table.find? (·.name == name) = last? declared name := by
  cases hfind : table.find? (·.name == name) with
  | some f =>
      have hname : f.name = name := by simpa using List.find?_some hfind
      rw [← hname, h.latest f (List.mem_of_find?_eq_some hfind)]
  | none =>
      have hnew : name ∉ table.map (·.name) := by
        intro hmem
        obtain ⟨f, hf, rfl⟩ := List.mem_map.mp hmem
        rw [find?_of_nodup h.distinct hf] at hfind
        simp at hfind
      rw [h.names, List.mem_eraseDups] at hnew
      rw [last?, List.findRev?_eq_find?_reverse, eq_comm, List.find?_eq_none]
      intro f hf hname
      exact hnew (List.mem_map.mpr ⟨f, List.mem_reverse.mp hf, by simpa using hname⟩)

theorem mem_alternates : f ∈ alternates table ↔ f ∈ table ∧ f.alternateId = true := List.mem_filter

end FieldTable

namespace Schema

open FieldTable (Distinct Tabulates alternates merge)

variable {s t : Schema} {f : Field} {declared : List Field} {calls : List (List Field)}
  {name : String} {a : AmbiguousId}

theorem field?_of_mem (h : Distinct s.fields) (hf : f ∈ s.fields) : s.field? f.name = some f :=
  find?_of_nodup h hf

theorem mem_of_field? (h : s.field? name = some f) : f ∈ s.fields ∧ f.name = name :=
  ⟨List.mem_of_find?_eq_some h, by simpa using List.find?_some h⟩

theorem declare_eq_ok : s.declare declared = .ok t ↔
    (alternates (merge s.fields declared)).length ≤ 1 ∧
      t = { s with fields := merge s.fields declared } := by
  rw [declare]
  split
  · rename_i h
    rw [Except.ok.injEq, eq_comm, and_iff_right h]
  · rename_i h
    simp [h]

theorem declare_eq_error : s.declare declared = .error a ↔
    2 ≤ (alternates (merge s.fields declared)).length ∧
      a = ⟨s.kind, (alternates (merge s.fields declared)).length⟩ := by
  rw [declare]
  split
  · rename_i h
    simp [Nat.not_le_of_lt (Nat.lt_succ_of_le h)]
  · rename_i h
    have hmany : 2 ≤ (alternates (merge s.fields declared)).length := Nat.not_le.mp h
    rw [Except.error.injEq, eq_comm, and_iff_right hmany]

def declareAll (s : Schema) (calls : List (List Field)) : Except AmbiguousId Schema :=
  calls.foldlM declare s

theorem declareAll_nil (s : Schema) : s.declareAll [] = .ok s := rfl

theorem declareAll_cons (s : Schema) (call : List Field) (calls : List (List Field)) :
    s.declareAll (call :: calls) = (s.declare call).bind (·.declareAll calls) := rfl

theorem declareAll_cons_eq_ok {call : List Field} : s.declareAll (call :: calls) = .ok t ↔
    ∃ u, s.declare call = .ok u ∧ u.declareAll calls = .ok t := by
  rw [declareAll_cons]
  cases s.declare call <;> simp [Except.bind]

theorem declareAll_eq_error : s.declareAll calls = .error a ↔ ∃ earlier call later u,
    calls = earlier ++ call :: later ∧ s.declareAll earlier = .ok u ∧ u.declare call = .error a := by
  induction calls generalizing s with
  | nil =>
      refine iff_of_false (by simp [declareAll_nil]) ?_
      rintro ⟨earlier, call, later, u, h, -⟩
      simp at h
  | cons first rest ih =>
      rw [declareAll_cons]
      constructor
      · intro h
        cases hfirst : s.declare first with
        | error e =>
            rw [hfirst] at h
            obtain rfl : e = a := Except.error.inj h
            exact ⟨[], first, rest, s, rfl, declareAll_nil s, hfirst⟩
        | ok t =>
            rw [hfirst] at h
            obtain ⟨earlier, call, later, u, rfl, hearlier, hcall⟩ := ih.mp h
            refine ⟨first :: earlier, call, later, u, rfl, ?_, hcall⟩
            rw [declareAll_cons, hfirst]
            exact hearlier
      · rintro ⟨_ | ⟨_, earlier⟩, call, later, u, h, hearlier, hcall⟩
        · obtain ⟨rfl, rfl⟩ := List.cons.inj h
          rw [declareAll_nil, Except.ok.injEq] at hearlier
          rw [hearlier, hcall]
          rfl
        · obtain ⟨rfl, rfl⟩ := List.cons.inj h
          obtain ⟨t, hfirst, hrest⟩ := declareAll_cons_eq_ok.mp hearlier
          rw [hfirst]
          exact ih.mpr ⟨earlier, call, later, u, rfl, hrest, hcall⟩

theorem declareAll_concat_eq_ok {call : List Field} : s.declareAll (calls ++ [call]) = .ok t ↔
    ∃ u, s.declareAll calls = .ok u ∧ u.declare call = .ok t := by
  have hlast : ∀ u : Schema, u.declareAll [call] = u.declare call := fun u => bind_pure _
  have hparts : s.declareAll (calls ++ [call]) = (s.declareAll calls).bind (·.declareAll [call]) :=
    List.foldlM_append
  rw [hparts]
  cases s.declareAll calls <;> simp [Except.bind, hlast]

structure Holds (s : Schema) (declared : List Field) (t : Schema) : Prop where
  rest : t = { s with fields := t.fields }
  tabulates : Tabulates declared t.fields
  atMostOne : (alternates t.fields).length ≤ 1

theorem holds_base (hs : s.fields = FieldTable.base) : s.Holds FieldTable.base s :=
  ⟨rfl, hs ▸ FieldTable.tabulates_base, by rw [hs]; decide⟩

theorem holds_declare {u : Schema} (h : s.Holds declared t) {call : List Field}
    (hcall : t.declare call = .ok u) : s.Holds (declared ++ call) u := by
  obtain ⟨hcount, rfl⟩ := declare_eq_ok.mp hcall
  refine ⟨?_, FieldTable.tabulates_merge h.tabulates call, hcount⟩
  rw [h.rest]

theorem holds_declareAll {u : Schema} (h : s.Holds declared t) (hcalls : t.declareAll calls = .ok u) :
    s.Holds (declared ++ calls.flatten) u := by
  induction calls generalizing declared t with
  | nil =>
      obtain rfl : t = u := Except.ok.inj hcalls
      rwa [List.flatten_nil, List.append_nil]
  | cons call rest ih =>
      obtain ⟨v, hcall, hrest⟩ := declareAll_cons_eq_ok.mp hcalls
      have hholds := ih (holds_declare h hcall) hrest
      rwa [List.append_assoc] at hholds

structure Declares (s : Schema) (calls : List (List Field)) (t : Schema) : Prop where
  rest : t = { s with fields := t.fields }
  tabulates : Tabulates (FieldTable.base ++ calls.flatten) t.fields
  headed : ["id", "name"] <+: t.fields.map (·.name)
  found : ∀ name f, t.field? name = some f ↔ f ∈ t.fields ∧ f.name = name
  latest : ∀ name, t.field? name = FieldTable.last? (FieldTable.base ++ calls.flatten) name
  atMostOne : (alternates t.fields).length ≤ 1
  identified : ∀ f, t.alternateId? = some f ↔ f ∈ t.fields ∧ f.alternateId = true
  settled : ∀ call, calls.getLast? = some call → t.declare call = .ok t
  refuses : ∀ call a, t.declare call = .error a ↔
    ∃ table, Tabulates (FieldTable.base ++ (calls ++ [call]).flatten) table ∧
      2 ≤ (alternates table).length ∧ a = ⟨t.kind, (alternates table).length⟩

theorem field?_iff_of_distinct (h : Distinct t.fields) :
    t.field? name = some f ↔ f ∈ t.fields ∧ f.name = name := by
  refine ⟨mem_of_field?, ?_⟩
  rintro ⟨hf, rfl⟩
  exact field?_of_mem h hf

theorem alternateId?_iff (h : (alternates t.fields).length ≤ 1) :
    t.alternateId? = some f ↔ f ∈ t.fields ∧ f.alternateId = true := by
  have hhead : t.alternateId? = (alternates t.fields).head? := (List.head?_filter ..).symm
  rw [hhead, head?_eq_some_iff_mem h, FieldTable.mem_alternates]

theorem declare_again {call : List Field} (h : Tabulates declared s.fields)
    (hcall : s.declare call = .ok t) : t.declare call = .ok t := by
  obtain ⟨hcount, rfl⟩ := declare_eq_ok.mp hcall
  rw [declare_eq_ok, FieldTable.merge_again h call]
  exact ⟨hcount, rfl⟩

theorem declare_eq_error_iff {call : List Field} (h : Tabulates declared t.fields) :
    t.declare call = .error a ↔ ∃ table, Tabulates (declared ++ call) table ∧
      2 ≤ (alternates table).length ∧ a = ⟨t.kind, (alternates table).length⟩ := by
  have hmerge : Tabulates (declared ++ call) (merge t.fields call) :=
    FieldTable.tabulates_merge h call
  rw [declare_eq_error]
  constructor
  · rintro ⟨hmany, ha⟩
    exact ⟨_, hmerge, hmany, ha⟩
  · rintro ⟨table, htable, hmany, ha⟩
    obtain rfl := FieldTable.tabulates_unique htable hmerge
    exact ⟨hmany, ha⟩

theorem declares_of_declareAll (hs : s.fields = FieldTable.base) (ht : s.declareAll calls = .ok t) :
    s.Declares calls t := by
  have hholds : s.Holds (FieldTable.base ++ calls.flatten) t := holds_declareAll (holds_base hs) ht
  have htable := hholds.tabulates
  refine
    { rest := hholds.rest
      tabulates := htable
      headed := ?_
      found := fun name f => field?_iff_of_distinct htable.distinct
      latest := FieldTable.find?_of_tabulates htable
      atMostOne := hholds.atMostOne
      identified := fun f => alternateId?_iff hholds.atMostOne
      settled := fun call hlast => ?_
      refuses := fun call a => ?_ }
  · rw [htable.names, List.map_append, List.eraseDups_append]
    exact List.prefix_append _ _
  · obtain ⟨earlier, rfl⟩ := List.getLast?_eq_some_iff.mp hlast
    obtain ⟨u, hearlier, hcall⟩ := declareAll_concat_eq_ok.mp ht
    exact declare_again (holds_declareAll (holds_base hs) hearlier).tabulates hcall
  · rw [declare_eq_error_iff htable, List.flatten_append, List.flatten_singleton, List.append_assoc]

theorem declarations_keep_function {s : Schema} (hs : s.fields = FieldTable.base)
    (calls : List (List Field)) :
    (∀ t, s.declareAll calls = .ok t → s.Declares calls t) ∧
    ∀ a, s.declareAll calls = .error a ↔ ∃ earlier call later table,
      calls = earlier ++ call :: later ∧ (∃ u, s.declareAll earlier = .ok u) ∧
      Tabulates (FieldTable.base ++ (earlier ++ [call]).flatten) table ∧
      2 ≤ (alternates table).length ∧ a = ⟨s.kind, (alternates table).length⟩ := by
  refine ⟨fun t => declares_of_declareAll hs, fun a => declareAll_eq_error.trans ?_⟩
  constructor
  · rintro ⟨earlier, call, later, u, rfl, hearlier, hcall⟩
    have hu := declares_of_declareAll hs hearlier
    obtain ⟨table, htable, hmany, rfl⟩ := (hu.refuses call a).mp hcall
    exact ⟨earlier, call, later, table, rfl, ⟨u, hearlier⟩, htable, hmany, by rw [hu.rest]⟩
  · rintro ⟨earlier, call, later, table, rfl, ⟨u, hearlier⟩, htable, hmany, rfl⟩
    have hu := declares_of_declareAll hs hearlier
    refine ⟨earlier, call, later, u, rfl, hearlier, (hu.refuses call _).mpr ⟨table, htable, hmany, ?_⟩⟩
    rw [hu.rest]

theorem book_declarations_keep_function :
    let book : Schema := { kind := "lab.book", service := "lab", basePath := "/books" }
    let slug : Field := { name := "slug", alternateId := true }
    let code : Field := { name := "code", alternateId := true }
    let calls := [[.renamed "id" "isbn", slug, .plain "owner", .renamed "owner" "holder"],
      [.plain "slug", code]]
    let declared := { book with
      fields := [.renamed "id" "isbn", .plain "name", .plain "slug", .renamed "owner" "holder", code] }
    book.fields = FieldTable.base ∧ book.declareAll calls = .ok declared ∧
      book.Declares calls declared ∧ declared.declare [slug] = .error ⟨"lab.book", 2⟩ :=
  ⟨rfl, by decide, (declarations_keep_function rfl _).1 _ (by decide), by decide⟩

end Schema

end ControlPlane

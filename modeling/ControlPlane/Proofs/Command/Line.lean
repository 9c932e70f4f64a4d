import ControlPlane.Command.Invocation
import ControlPlane.Proofs.Text.Split

namespace ControlPlane

def opensWord (s : String) : Bool := s.toList.head?.any (· != '-')

def namesFilter (s : String) : Bool := opensWord s && !s.toList.contains '='

theorem Argument.ofText_of_opensWord {s : String} (h : opensWord s = true) : ofText s = .word := by
  rw [opensWord] at h
  rw [ofText]
  cases hs : s.toList with
  | nil => rfl
  | cons c rest =>
      have hc : c ≠ '-' := by simpa [hs] using h
      split
      all_goals first
        | rfl
        | rename_i he; exact absurd (List.cons.inj he).1 hc

namespace Filter

variable {name : String}

def spell (f : String × String) : String := f.1 ++ "=" ++ f.2

def read (f : String × String) : String × Value := (f.1, valueOf f.2)

theorem toList_spell (f : String × String) : (spell f).toList = f.1.toList ++ '=' :: f.2.toList := by
  simp [spell]

theorem opensWord_spell {f : String × String} (h : namesFilter f.1 = true) :
    opensWord (spell f) = true := by
  have hopens : opensWord f.1 = true := (Bool.and_eq_true_iff.mp h).1
  rw [opensWord] at hopens ⊢
  rw [toList_spell]
  cases hf : f.1.toList with
  | nil => simp [hf] at hopens
  | cons c rest => simpa [hf] using hopens

theorem parse_spell {f : String × String} (h : namesFilter f.1 = true) :
    parse (spell f) = .ok (read f) := by
  obtain ⟨hopens, heq⟩ := Bool.and_eq_true_iff.mp h
  have hall : ∀ c ∈ f.1.toList, (c != '=') = true :=
    fun c hc => bne_iff_ne.mpr fun he => by simp [he ▸ hc] at heq
  rw [parse, toList_spell, Text.span_append (by decide), List.span_eq_takeWhile_dropWhile,
    List.takeWhile_eq_self_iff.mpr hall, List.dropWhile_eq_nil_iff.mpr hall]
  cases hname : f.1.toList with
  | nil => simp [opensWord, hname] at hopens
  | cons c rest =>
      change Except.ok (String.ofList (c :: rest), valueOf (String.ofList f.2.toList)) = _
      rw [← hname, String.ofList_toList, String.ofList_toList]
      rfl

end Filter

namespace Command

def listGrammar : Grammar :=
  { options := [filterOption, number "limit", { name := "no-paginate", form := .flag }, helpOption]
    words := 1 }

def filterRule : ValueRule := { faultUnless .malformedValue readFilter? with repeats := true }

def filterArguments (filters : List (String × String)) : List String :=
  filters.flatMap fun f => ["--filter", Filter.spell f]

variable {kind : String} {filters more : List (String × String)} {f : String × String} {r : Reading}

def listReading (kind : String) (filters : List (String × String)) : Reading :=
  { options := filters.map fun f => ("filter", Filter.spell f), words := [kind] }

structure ReadsList (r : Reading) (kind : String) (filters : List (String × String)) : Prop where
  divided : r.divided = false
  idle : r.awaitsValue = false
  settles : r.settle = .ok (listReading kind filters)

theorem readFilter?_spell (hf : namesFilter f.1 = true) :
    readFilter? (Filter.spell f) = some (Filter.read f) := by
  rw [readFilter?, Filter.parse_spell hf]
  rfl

theorem filterMap_spell (hf : ∀ f ∈ filters, namesFilter f.1 = true) :
    (filters.map Filter.spell).filterMap readFilter? = filters.map Filter.read := by
  induction filters with
  | nil => rfl
  | cons f rest ih =>
      rw [List.map_cons, List.filterMap_cons_some (readFilter?_spell (hf f (List.mem_cons_self ..))),
        ih fun g hg => hf g (List.mem_cons_of_mem _ hg), List.map_cons]

theorem settle_of_repeats {name value : String} {rule : ValueRule}
    (h : r.pending = some ⟨name, rule, some value⟩) (hrule : rule.repeats = true)
    (hfault : rule.fault? value = none) : r.settle = .ok (r.keep name value) := by
  simp [Reading.settle, h, hrule, hfault]

theorem scan_cons (arg : String) (rest : List String) : Reading.scan listGrammar r (arg :: rest) =
    (r.add listGrammar arg).bind fun r => Reading.scan listGrammar r rest := by
  have hnone : r.startsCommand listGrammar arg = false := Bool.and_false _
  rw [Reading.scan, hnone, if_neg Bool.false_ne_true]
  cases r.add listGrammar arg <;> rfl

theorem readsList_filter (h : ReadsList r kind filters) (hf : namesFilter f.1 = true)
    (rest : List String) : ∃ r', Reading.scan listGrammar r ("--filter" :: Filter.spell f :: rest) =
      Reading.scan listGrammar r' rest ∧ ReadsList r' kind (filters ++ [f]) := by
  let pending : Reading :=
    { listReading kind filters with pending := some ⟨"filter", filterRule, none⟩ }
  -- the option settles the filter before it
  have hoption : r.add listGrammar "--filter" = .ok pending := by
    rw [Reading.add, h.divided, if_neg Bool.false_ne_true]
    change r.settle.map _ = _
    rw [h.settles]
    rfl
  have hvalue : pending.add listGrammar (Filter.spell f) = .ok (pending.supply (Filter.spell f)) := by
    rw [Reading.add, Argument.ofText_of_opensWord (Filter.opensWord_spell hf)]
    rfl
  have hfault : filterRule.fault? (Filter.spell f) = none := by
    change (if (readFilter? (Filter.spell f)).isSome then none else some Usage.malformedValue) = none
    rw [readFilter?_spell hf]
    rfl
  refine ⟨pending.supply (Filter.spell f), ?_, rfl, rfl, ?_⟩
  · rw [scan_cons, hoption]
    change Reading.scan listGrammar pending (Filter.spell f :: rest) = _
    rw [scan_cons, hvalue]
    rfl
  · rw [settle_of_repeats rfl rfl hfault]
    simp [pending, Reading.supply, Reading.keep, listReading]

theorem readsList_filters (h : ReadsList r kind filters) (hf : ∀ f ∈ more, namesFilter f.1 = true) :
    ∃ r', Reading.scan listGrammar r (filterArguments more) = .ok (r', none) ∧
      ReadsList r' kind (filters ++ more) := by
  induction more generalizing r filters with
  | nil => exact ⟨r, rfl, by rwa [List.append_nil]⟩
  | cons f rest ih =>
      obtain ⟨r', hscan, hreads⟩ :=
        readsList_filter h (hf f (List.mem_cons_self ..)) (filterArguments rest)
      obtain ⟨r'', hrest, hall⟩ := ih hreads fun g hg => hf g (List.mem_cons_of_mem _ hg)
      rw [List.append_assoc] at hall
      exact ⟨r'', hscan.trans hrest, hall⟩

theorem ofReading?_list (hf : ∀ f ∈ filters, namesFilter f.1 = true) :
    ofReading? "list" (listReading kind filters) =
      some (.list kind (filters.map Filter.read) none true) := by
  have hvalues : (listReading kind filters).values "filter" = filters.map Filter.spell := by
    have hall : (filters.filter fun f => ("filter", Filter.spell f).1 == "filter") = filters :=
      List.filter_eq_self.mpr fun _ _ => rfl
    rw [Reading.values, listReading, List.filter_map]
    exact (congrArg _ (congrArg _ hall)).trans List.map_map
  have hlimit : (listReading kind filters).value? "limit" = none := by
    simp [Reading.value?, Reading.values, listReading]
  have hpages : (listReading kind filters).has "no-paginate" = false := by
    simp [Reading.has, listReading]
  change some (Command.list kind (((listReading kind filters).values "filter").filterMap readFilter?)
    (((listReading kind filters).value? "limit").bind readNumber?)
    (!(listReading kind filters).has "no-paginate")) = _
  rw [hvalues, hlimit, hpages, filterMap_spell hf]
  rfl

theorem read_of_scan {g : Grammar} {args : List String}
    (h : Reading.scan { g with commands := [] } {} args = .ok (r, none)) : g.read args = r.settle := by
  rw [Grammar.read, h]

theorem parse_of_read {name : String} {g : Grammar} {args : List String} {command : Command}
    (hg : grammars.lookup name = some g) (hr : g.read args = .ok r)
    (hcommand : ofReading? name r = some command) : parse name args = .ok command := by
  simp only [parse, hg, hr, hcommand, bind, Except.bind]

theorem parse_list (hkind : opensWord kind = true) (hf : ∀ f ∈ filters, namesFilter f.1 = true) :
    parse "list" (kind :: filterArguments filters) =
      .ok (.list kind (filters.map Filter.read) none true) := by
  have hword : ({} : Reading).add listGrammar kind = .ok (listReading kind []) := by
    rw [Reading.add, Argument.ofText_of_opensWord hkind]
    rfl
  obtain ⟨r, hscan, hreads⟩ := readsList_filters (r := listReading kind []) ⟨rfl, rfl, rfl⟩ hf
  have hall : Reading.scan listGrammar {} (kind :: filterArguments filters) = .ok (r, none) := by
    rw [scan_cons, hword]
    exact hscan
  have hread : listGrammar.read (kind :: filterArguments filters) = .ok (listReading kind filters) :=
    (read_of_scan hall).trans hreads.settles
  exact parse_of_read rfl hread (ofReading?_list hf)

end Command

def Command.listing (kind : String) (filters : List (String × String)) : Invocation :=
  { command := .list kind (filters.map Filter.read) none true }

theorem Invocation.parse_list {kind : String} {filters : List (String × String)}
    (hkind : opensWord kind = true) (hf : ∀ f ∈ filters, namesFilter f.1 = true) :
    parse ("list" :: kind :: Command.filterArguments filters) =
      .ok (Command.listing kind filters) := by
  have hscan : Reading.scan grammar {} ("list" :: kind :: Command.filterArguments filters) =
      .ok ({}, some ("list", kind :: Command.filterArguments filters)) := by
    rw [Reading.scan]
    rfl
  rw [parse, hscan]
  change (Command.parse "list" (kind :: Command.filterArguments filters)).bind _ = _
  rw [Command.parse_list hkind hf]
  rfl

end ControlPlane

import Mathlib
import ControlPlane.Proofs.Attribute.Textual
import ControlPlane.Proofs.Resource.ReadBack
import ControlPlane.Proofs.Resource.Reply
import ControlPlane.Proofs.Resource.WireForm
import ControlPlane.Proofs.Session

namespace ControlPlane

structure Response.Echoes (response : Response) (q : Request) : Prop where
  lowercase : response.headers.InLowercase
  repeats : ∀ name text, q.headers.get? name = some text → response.Says name text

theorem Response.echoes_withHeaders {q : Request} {recase : String → String}
    (hrecase : ∀ name, Text.asciiLower (recase name) = Text.asciiLower name)
    (hdistinct : ∀ name ∈ q.headers.keys, ∀ other ∈ q.headers.keys,
      Text.asciiLower other = Text.asciiLower name → other = name) (status : Nat) (body : Option Value) :
    ({ status := status, body := body : Response }.withHeaders
      (q.headers.entries.map fun e => (recase e.1, e.2))).Echoes q := by
  have hkeys : ∀ {name text}, q.headers.get? name = some text → name ∈ q.headers.keys := fun h =>
    Dict.mem_keys_iff.mpr (Dict.contains_of_get? h)
  refine ⟨inLowercase_withHeaders (by simp [Dict.InLowercase]) _, fun name text hname =>
    ⟨Text.asciiLower name, Dict.get?_ofList_of_sole ?_ fun other hother => ?_,
      Text.asciiLower_asciiLower name⟩⟩
  · simp only [List.map_map, List.mem_map, Function.comp_apply, Prod.mk.injEq]
    exact ⟨(name, text), Dict.mem_entries_iff.mpr hname, hrecase name, rfl⟩
  · -- no other header was sent under a name that is this one in another case
    simp only [List.map_map, List.mem_map, Function.comp_apply, Prod.mk.injEq] at hother
    obtain ⟨⟨name', value⟩, he, hlower, rfl⟩ := hother
    have hname' : q.headers.get? name' = some value := Dict.mem_entries_iff.mp he
    obtain rfl := hdistinct name (hkeys hname) name' (hkeys hname') ((hrecase name').symm.trans hlower)
    exact Option.some.inj (hname'.symm.trans hname)

structure Schema.HasHeader (s : Schema) (f : Field) : Prop where
  named : s.field? f.name = some f
  inHeader : f.location = .header
  textual : ∃ c, f.coercion = some c ∧ c.Textual

namespace Field

variable {f : Field} {c : Coercion} {v w x stored : Value}

theorem ne_null_of_stores (hc : f.coercion = some c) (hv : v ≠ .null) (h : f.Stores v w)
    (hs : stored.same w = true) : stored ≠ .null := by
  have hw : w ≠ .null := by
    cases h with
    | raw hraw => exact absurd (hraw.symm.trans hc) (by simp)
    | null => exact absurd rfl hv
    | fallback => exact hv
    | typed _ _ ha =>
        rintro rfl
        rw [Coercion.not_admits_null] at ha
        simp at ha
    | word => simp
  rintro rfl
  cases w <;> simp [Value.same] at hs hw

theorem ne_float_of_stores (hc : f.coercion = some .integer) (h : f.Stores v w)
    (hs : stored.same w = true) (y : Double) : stored ≠ .float y := by
  have hw : ∀ z, w ≠ .float z := by
    intro z
    cases h with
    | raw hraw => exact absurd (hraw.symm.trans hc) (by simp)
    | null => simp
    | fallback => cases f.fallback <;> simp [Fallback.toValue]
    | typed hcoerced _ ha =>
        obtain rfl : Coercion.integer = _ := Option.some.inj (hc.symm.trans hcoerced)
        rintro rfl
        simp [Coercion.admits] at ha
    | word => simp
  rintro rfl
  cases w with
  | float z => exact hw z rfl
  | _ => simp [Value.same] at hs

theorem legible_of_stores (hc : f.coercion = some .integer) (hn : stored ≠ .null) (h : f.Stores v w)
    (hs : stored.same w = true) (hread : f.readPresent stored = .ok x)
    (hword : ∀ n, stored = .integer n → -(power 2 63 : Int) ≤ n ∧ n < power 2 63) :
    Coercion.Legible stored := by
  have hconvert := (readPresent_eq_ok_iff hc (by simp) hn).mp hread
  cases stored with
  | text text => exact .text text
  | integer n => exact .integer (hword n rfl).1 (hword n rfl).2
  | float y => exact absurd rfl (ne_float_of_stores hc h hs y)
  | null | bool | list | record => simp [Coercion.convert?, Coercion.toInteger?] at hconvert

theorem exists_text_of_stores (hc : f.coercion = some c) (htextual : c.Textual) (hv : v ≠ .null)
    (h : f.Stores v w) (hs : stored.same w = true) (hread : f.readPresent stored = .ok x)
    (hword : c = .integer → ∀ n, stored = .integer n → -(power 2 63 : Int) ≤ n ∧ n < power 2 63) :
    ∃ text, stored.plainText? = some text ∧ f.readPresent (.text text) = .ok x := by
  have hn := ne_null_of_stores hc hv h hs
  obtain ⟨text, htext⟩ := Option.ne_none_iff_exists'.mp (mt Value.plainText?_eq_none_iff.mp hn)
  refine ⟨text, htext, readPresent_plainText hc htextual (fun hinteger => ?_) hread htext⟩
  subst hinteger
  exact legible_of_stores hc hn h hs hread (hword rfl)

end Field

namespace Resource

variable {σ : Type} {s : Session σ} {c c' : Conversation σ} {r₀ r₁ r r' : Resource}
  {op : Operation} {f : Field} {key : String} {v x stored : Value}

theorem schema_of_settle (h : r.settle s op c = ((.ok (), r'), c')) : r'.schema = r.schema := by
  rcases settle_eq_ok h with ⟨-, rfl⟩ | ⟨q, response, -, -, rfl⟩ <;> rfl

theorem clean_of_settle (h : r.settle s op c = ((.ok (), r'), c')) (wire : String) :
    ¬r'.isDirtyAt .header wire := by
  rcases settle_eq_ok h with ⟨hidle, rfl⟩ | ⟨q, response, -, -, rfl⟩
  · intro hdirty
    have hpending : r'.Pending := pending_of_isDirtyAt (by simp) hdirty fun hw => by
      simpa using hw.2.1
    exact plan_eq_ok_none_iff.mp hidle fun _ => hpending
  · rw [isDirtyAt_absorb]
    simp [Operation.refreshes]

def Echoed (r : Resource) (s : Session σ) (op : Operation) (c : Conversation σ) : Prop :=
  ∀ q response c', r.plan op = .ok (some q) → s.request q c = (.ok response, c') →
    response.Echoes q

structure KeepsHeader (s : Session σ) (op : Operation) (r : Resource) (c : Conversation σ)
    (f : Field) (x : Value) (r' : Resource) (c' : Conversation σ) : Prop where
  clean : ¬r'.isDirtyAt .header f.wire
  idle : c'.sent = c.sent → r'.tryGet f.name = .ok x
  sent : r.isDirtyAt .header f.wire → ∃ q text,
    c'.sent = c.sent ++ [⟨c.clock, s.dress q⟩] ∧ q.headers.get? f.wire = some text ∧
    f.readPresent (.text text) = .ok x ∧ r'.tryGet f.name = .ok x
  unsent : ¬r.isDirtyAt .header f.wire → ∀ q response, r.plan op = .ok (some q) →
    (s.request q c).1 = .ok response → q.headers.get? f.wire = none ∧
      ((∀ text, ¬response.Says f.wire text) → r'.tryGet f.name = .ok x) ∧
      ∀ text, response.Says f.wire text → r'.tryGet f.name = f.readPresent (.text text)

theorem get?_headers_of_dirty {q : Request} {text : String} (hop : op = .create ∨ op = .commit)
    (hplan : r.plan op = .ok (some q)) (hstored : r.header.get? f.wire = some stored)
    (htext : stored.plainText? = some text) (hdirty : r.isDirtyAt .header f.wire) :
    q.headers.get? f.wire = some text := by
  have hchanged : r.header.dirty.contains f.wire = true := hdirty
  rw [get?_headers_of_plan hop hplan, headerUpdate, if_pos hchanged, hstored, headerText_some, htext]
  rfl

theorem get?_headers_of_clean {q : Request} (hop : op = .create ∨ op = .commit)
    (hplan : r.plan op = .ok (some q)) (hclean : ¬r.isDirtyAt .header f.wire) :
    q.headers.get? f.wire = none := by
  have hunchanged : ¬r.header.dirty.contains f.wire = true := hclean
  rw [get?_headers_of_plan hop hplan, headerUpdate, if_neg hunchanged]

theorem keepsHeader_of_legible {text : String} (hfield : r.schema.field? f.name = some f)
    (hheader : f.location = .header) (hstored : r.stored? f = some stored)
    (hread : f.readPresent stored = .ok x) (htext : stored.plainText? = some text)
    (hback : f.readPresent (.text text) = .ok x) (hop : op = .create ∨ op = .commit)
    (hecho : r.Echoed s op c) (h : r.settle s op c = ((.ok (), r'), c')) :
    KeepsHeader s op r c f x r' c' := by
  have hmem : f ∈ r.schema.fields := List.mem_of_find?_eq_some hfield
  have hfield' : r'.schema.field? f.name = some f := by rw [schema_of_settle h, hfield]
  have hheld : r.header.get? f.wire = some stored := by rwa [stored?, hheader] at hstored
  have hreads : ∀ value, r'.header.get? f.wire = some value →
      r'.tryGet f.name = f.readPresent value := by
    intro value hvalue
    rw [tryGet_of_field hfield', stored?, hheader]
    exact congrArg f.read hvalue
  rcases settle_eq_ok h with ⟨hidle, rfl⟩ | ⟨q, response, hplan, hreply, rfl⟩
  · have hkept : r'.tryGet f.name = .ok x := (hreads stored hheld).trans hread
    refine ⟨clean_of_settle h f.wire, fun _ => hkept, fun hdirty => ?_, fun _ q _ hplan => ?_⟩
    · exact absurd hdirty (clean_of_settle h f.wire)
    · rw [hidle] at hplan
      simp at hplan
  · have hechoes := hecho q response c' hplan hreply
    have htakes := takes_absorb hechoes.lowercase r op
    have hsent : c'.sent = c.sent ++ [⟨c.clock, s.dress q⟩] := s.sent_of_request hreply
    refine ⟨clean_of_settle h f.wire, fun hidle => ?_, fun hdirty => ?_,
      fun hclean q' response' hplan' hreply' => ?_⟩
    · rw [hsent] at hidle
      simp at hidle
    · have hname := get?_headers_of_dirty hop hplan hheld htext hdirty
      refine ⟨q, text, hsent, hname, hback, ?_⟩
      rw [hreads _ (htakes.told f hmem hheader text (hechoes.repeats f.wire text hname)), hback]
    · obtain rfl : q = q' := by simpa using hplan.symm.trans hplan'
      obtain rfl : response = response' := by simpa [hreply] using hreply'
      refine ⟨get?_headers_of_clean hop hplan hclean, fun hsilent => ?_, fun text hsays => ?_⟩
      · rw [hreads stored ((htakes.untold f.wire fun _ _ _ _ => hsilent).trans hheld), hread]
      · exact hreads _ (htakes.told f hmem hheader text hsays)

theorem header_survives_echo (hf : r₀.schema.HasHeader f) (hkey : r₀.schema.lookup? key = some f)
    (hv : v ≠ .null) (hset : r₀.set key v = .ok r₁) (hschema : r.schema = r₀.schema)
    (hstill : r.stored? f = r₁.stored? f)
    (hword : f.coercion = some .integer → ∀ n, r.stored? f = some (.integer n) →
      -(power 2 63 : Int) ≤ n ∧ n < power 2 63)
    (hread : r.tryGet f.name = .ok x) (hop : op = .create ∨ op = .commit)
    (hecho : r.Echoed s op c) (h : r.settle s op c = ((.ok (), r'), c')) :
    KeepsHeader s op r c f x r' c' := by
  obtain ⟨coercion, hc, htextual⟩ := hf.textual
  have htime : f.coercion ≠ some (.format .timestamp) := by
    intro hcoerced
    obtain rfl : coercion = .format .timestamp := Option.some.inj (hc.symm.trans hcoerced)
    cases htextual
  obtain ⟨w, stored, hw, hstored, hsame⟩ := exists_stored_of_set hkey hset
  rw [← hstill] at hstored
  have hfield : r.schema.field? f.name = some f := hschema ▸ hf.named
  have hpresent : f.readPresent stored = .ok x := by
    rw [← hread, tryGet_of_field hfield, hstored]
    rfl
  obtain ⟨text, htext, hback⟩ := Field.exists_text_of_stores hc htextual hv
    (Field.stores_of_write htime hw) hsame hpresent
    fun hinteger n hn => hword (hinteger ▸ hc) n (hn ▸ hstored)
  exact keepsHeader_of_legible hfield hf.inHeader hstored hpresent htext hback hop hecho h

def lockerSize : Field :=
  { name := "size", wire := "X-Locker-Size", location := .header, coercion := some .integer }

def locker : Schema :=
  { kind := "lab.locker", service := "lab", basePath := "/lockers"
    fields := FieldTable.base ++
      [lockerSize,
        { name := "is_open", wire := "X-Locker-Open", location := .header
          coercion := some (.format .boolText), fallback := .bool false }] }

def knownLocker : Resource := existing locker (.ofList [("id", .text "l1")])

def sizedLocker : Resource :=
  { knownLocker with
    header :=
      { values := .ofList [("X-Locker-Size", .integer (-7))]
        dirty := .ofList [("X-Locker-Size", ())] } }

def openLocker : Resource :=
  { knownLocker with
    header :=
      { values := .ofList [("X-Locker-Size", .integer (-7)), ("X-Locker-Open", .text "true")]
        dirty := .ofList [("X-Locker-Size", ()), ("X-Locker-Open", ())] } }

def lockerRequest : Request :=
  { method := .put, url := "/lockers/l1", service := some "lab"
    headers := .ofList [("X-Locker-Size", "-7"), ("X-Locker-Open", "true")]
    body := some (.record []) }

def shouted (name : String) : String := if name = "X-Locker-Size" then "X-LOCKER-SIZE" else name

def lockerReply : Response :=
  { status := 204 : Response }.withHeaders (lockerRequest.headers.entries.map fun e => (shouted e.1, e.2))

theorem asciiLower_shouted (name : String) : Text.asciiLower (shouted name) = Text.asciiLower name := by
  rw [shouted]
  split
  · rename_i h
    rw [h]
    cbv
  · rfl

def lockerTalk : Conversation (List Reply) := { peer := [.success lockerReply] }

theorem echoed_lockerReply (hplan : openLocker.plan .commit = .ok (some lockerRequest)) :
    openLocker.Echoed Session.replay .commit lockerTalk := by
  intro q response c' hq hreply
  obtain rfl : lockerRequest = q := by simpa using hplan.symm.trans hq
  have hanswer : Except.ok (ε := Error) lockerReply = .ok response := congrArg Prod.fst hreply
  rw [← Except.ok.inj hanswer]
  exact Response.echoes_withHeaders asciiLower_shouted (by decide) 204 none

theorem locker_size_survives_echo : ∃ r' c',
    knownLocker.set "X-Locker-Size" (.text " -7") = .ok sizedLocker ∧
      sizedLocker.set "is_open" (.text "yes") = .ok openLocker ∧
      openLocker.settle Session.replay .commit lockerTalk = ((.ok (), r'), c') ∧
      KeepsHeader Session.replay .commit openLocker lockerTalk lockerSize (.integer (-7)) r' c' ∧
      c'.sent = [⟨0, lockerRequest⟩] ∧ r'.tryGet "size" = .ok (.integer (-7)) := by
  have hplan : openLocker.plan .commit = .ok (some lockerRequest) := by cbv
  have hset : knownLocker.set "X-Locker-Size" (.text " -7") = .ok sizedLocker := by cbv
  have hsettle : openLocker.settle Session.replay .commit lockerTalk =
      ((.ok (), openLocker.absorb .commit lockerReply), ⟨0, [⟨0, lockerRequest⟩], []⟩) :=
    settle_of_answer hplan rfl
  have hword : ∀ n, openLocker.stored? lockerSize = some (.integer n) →
      -(power 2 63 : Int) ≤ n ∧ n < power 2 63 := by
    intro n hn
    have hsize : some (Value.integer (-7)) = some (.integer n) := hn
    obtain rfl : -7 = n := by simpa using hsize
    decide
  have hread : openLocker.tryGet lockerSize.name = .ok (.integer (-7)) := by cbv
  have hf : knownLocker.schema.HasHeader lockerSize := ⟨rfl, rfl, _, rfl, .integer⟩
  have hkey : knownLocker.schema.lookup? "X-Locker-Size" = some lockerSize := rfl
  have hschema : openLocker.schema = knownLocker.schema := rfl
  have hstill : openLocker.stored? lockerSize = sizedLocker.stored? lockerSize := by cbv
  have hkeeps := header_survives_echo hf hkey (by simp) hset hschema hstill
    (fun _ => hword) hread (.inr rfl) (echoed_lockerReply hplan) hsettle
  have hopen : sizedLocker.set "is_open" (.text "yes") = .ok openLocker := by cbv
  have hafter : (openLocker.absorb .commit lockerReply).tryGet "size" = .ok (.integer (-7)) := by
    decide +kernel
  exact ⟨_, _, hset, hopen, hsettle, hkeeps, rfl, hafter⟩

def restedLocker : Resource :=
  { knownLocker with header := { values := .ofList [("X-Locker-Size", .integer (-7))] } }

def tallLocker : Resource :=
  { restedLocker with
    body :=
      { values := .ofList [("id", .text "l1"), ("name", .text "tall")]
        dirty := .ofList [("name", ())] } }

def tallRequest : Request :=
  { method := .put, url := "/lockers/l1", service := some "lab"
    body := some (.record [("name", .text "tall")]) }

def otherSize : Response := ({ status := 200 } : Response).withHeaders [("X-Locker-Size", "99")]

-- The size is set, a fetch takes it for known and setting it again changes nothing, so the commit
-- sends no header and the reply has none to echo; the one it carries all the same is taken.
theorem unsent_size_follows_reply :
    let rest : Conversation (List Reply) := { peer := [.success { status := 200 }] }
    let talk : Conversation (List Reply) := { peer := [.success otherSize] }
    knownLocker.set "X-Locker-Size" (.integer (-7)) = .ok sizedLocker ∧
      (sizedLocker.settle .replay .fetch rest).1 = (.ok (), restedLocker) ∧
      restedLocker.set "X-Locker-Size" (.integer (-7)) = .ok restedLocker ∧
      restedLocker.set "name" (.text "tall") = .ok tallLocker ∧
      tallLocker.tryGet "size" = .ok (.integer (-7)) ∧ otherSize.Echoes tallRequest ∧
      (tallLocker.settle .replay .commit talk).2.sent = [⟨0, tallRequest⟩] ∧
      (tallLocker.settle .replay .commit talk).1.1 = .ok () ∧
      (tallLocker.settle .replay .commit talk).1.2.tryGet "size" = .ok (.integer 99) := by
  have hechoes : otherSize.Echoes tallRequest :=
    ⟨Response.inLowercase_withHeaders (by simp [Dict.InLowercase]) _,
      fun name text h => by simp [tallRequest] at h⟩
  refine ⟨?_, ?_, ?_, ?_, ?_, hechoes, ?_, ?_, ?_⟩
  all_goals decide +kernel

end Resource

end ControlPlane

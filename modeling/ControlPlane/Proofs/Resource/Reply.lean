import ControlPlane.Proofs.Http.Header
import ControlPlane.Proofs.Resource.Operation

namespace ControlPlane

inductive Schema.Describes (s : Schema) (response : Response) : Value → Prop where
  | plain {body : Value} : s.resourceKey = none → response.body = some body → Describes s response body
  | enveloped {key : String} {body v : Value} : s.resourceKey = some key →
      response.body = some body → body.member? key = some v → Describes s response v
  | bare {key : String} {body : Value} : s.resourceKey = some key → response.body = some body →
      body.member? key = none → Describes s response body

namespace Resource

variable {σ : Type} {s : Session σ} {c c' : Conversation σ} {r r' : Resource} {op again : Operation}
  {response : Response} {q : Request} {v : Value} {key : String}

theorem describes_iff_unwrap : r.schema.Describes response v ↔ response.body.map r.unwrap = some v := by
  constructor
  · intro h
    cases h with
    | plain hkey hbody => rw [hbody, Option.map_some, unwrap, hkey]
    | enveloped hkey hbody hv =>
        rw [hbody, Option.map_some, unwrap, hkey]
        simp [hv]
    | bare hkey hbody hv =>
        rw [hbody, Option.map_some, unwrap, hkey]
        simp [hv]
  · intro h
    obtain ⟨body, hbody, hv⟩ := Option.map_eq_some_iff.mp h
    rw [unwrap] at hv
    cases hkey : r.schema.resourceKey with
    | none =>
        rw [hkey] at hv
        exact hv ▸ .plain hkey hbody
    | some key =>
        rw [hkey] at hv
        cases hmember : body.member? key with
        | none =>
            simp only [hmember, Option.getD_none] at hv
            exact hv ▸ .bare hkey hbody hmember
        | some member =>
            simp only [hmember, Option.getD_some] at hv
            exact hv ▸ .enveloped hkey hbody hmember

structure Takes (r : Resource) (op : Operation) (response : Response) (r' : Resource) : Prop where
  schema : r'.schema = r.schema
  described : op ≠ .head → op ≠ .delete →
    ∀ entries, r.schema.Describes response (.record entries) →
      ∀ key, r'.body.get? key = ((Dict.ofList entries).get? key).or (r.body.get? key)
  undescribed : op ≠ .head → op ≠ .delete →
    (∀ entries, ¬r.schema.Describes response (.record entries)) → r'.body.values = r.body.values
  bodyClean : op ≠ .head → op ≠ .delete → r'.body.dirty = .empty
  bodyKept : op = .head ∨ op = .delete → r'.body = r.body
  told : ∀ f ∈ r.schema.fields, f.location = .header → ∀ text, response.Says f.wire text →
    r'.header.get? f.wire = some (.text text)
  untold : ∀ key, (∀ f ∈ r.schema.fields, f.location = .header → f.wire = key →
    ∀ text, ¬response.Says key text) → r'.header.get? key = r.header.get? key
  headerClean : r'.header.dirty = .empty
  uriKept : r'.uri = r.uri

theorem values_absorbBody {entries : List (String × Value)}
    (h : r.schema.Describes response (.record entries)) :
    (r.absorbBody response).values = r.body.values.overlay (.ofList entries) := by
  rw [absorbBody, describes_iff_unwrap.mp h]
  rfl

theorem values_absorbBody_of_undescribed
    (h : ∀ entries, ¬r.schema.Describes response (.record entries)) :
    (r.absorbBody response).values = r.body.values := by
  simp only [describes_iff_unwrap] at h
  rw [absorbBody]
  cases hv : response.body.map r.unwrap with
  | none => rfl
  | some v =>
      cases v with
      | record entries => exact absurd hv (h entries)
      | _ => rfl

theorem get?_replyHeaders (hlower : response.headers.InLowercase) :
    (r.replyHeaders response).get? key = some v ↔
      ∃ f ∈ r.schema.fields, f.location = .header ∧ f.wire = key ∧
        ∃ text, response.Says key text ∧ v = .text text := by
  have hmem : ∀ u, (key, u) ∈ (r.schema.fieldsIn .header).filterMap (fun f =>
      (response.header? f.wire).map fun text => (f.wire, Value.text text)) ↔
      ∃ f ∈ r.schema.fields, f.location = .header ∧ f.wire = key ∧
        ∃ text, response.Says key text ∧ u = .text text := by
    intro u
    simp only [Schema.fieldsIn, List.mem_filterMap, List.mem_filter, beq_iff_eq,
      Option.map_eq_some_iff, Prod.mk.injEq, Response.header?_eq_some_iff hlower]
    constructor
    · rintro ⟨f, ⟨hf, hheader⟩, text, hsays, rfl, rfl⟩
      exact ⟨f, hf, hheader, rfl, text, hsays, rfl⟩
    · rintro ⟨f, hf, hheader, rfl, text, hsays, rfl⟩
      exact ⟨f, ⟨hf, hheader⟩, text, hsays, rfl, rfl⟩
  rw [← hmem]
  -- two fields of one wire name read the same header
  refine Dict.get?_ofList_iff fun u w hu hw => ?_
  obtain ⟨-, -, -, -, text, hsays, rfl⟩ := (hmem u).mp hu
  obtain ⟨-, -, -, -, other, hother, rfl⟩ := (hmem w).mp hw
  have htext := (Response.header?_eq_some_iff hlower).mpr hsays
  rw [(Response.header?_eq_some_iff hlower).mpr hother, Option.some.injEq] at htext
  rw [htext]

theorem carriesBody_iff : carriesBody op = true ↔ op ≠ .head ∧ op ≠ .delete := by
  cases op <;> simp [carriesBody]

theorem takes_absorb (hlower : response.headers.InLowercase) (r : Resource) (op : Operation) :
    r.Takes op response (r.absorb op response) := by
  have hbody : op ≠ .head → op ≠ .delete → (r.absorb op response).body = r.absorbBody response :=
    fun hh hd => if_pos (carriesBody_iff.mpr ⟨hh, hd⟩)
  have hheader : ∀ key, (r.absorb op response).header.get? key =
      ((r.replyHeaders response).get? key).or (r.header.get? key) := fun key => Dict.get?_overlay
  refine {
    schema := rfl
    described := fun hh hd entries hsays key => ?_
    undescribed := fun hh hd hno => ?_
    bodyClean := fun hh hd => by rw [hbody hh hd, dirty_absorbBody]
    bodyKept := fun h => ?_
    told := fun f hf hl text hsays => ?_
    untold := fun key hno => ?_
    headerClean := rfl
    uriKept := rfl }
  · rw [hbody hh hd, Component.get?, values_absorbBody hsays, Dict.get?_overlay]
    rfl
  · rw [hbody hh hd, values_absorbBody_of_undescribed hno]
  · rcases h with rfl | rfl <;> rfl
  · have htold := (get?_replyHeaders (r := r) hlower).mpr ⟨f, hf, hl, rfl, text, hsays, rfl⟩
    rw [hheader, htold, Option.some_or]
  · have hnone : (r.replyHeaders response).get? key = none := by
      refine Option.eq_none_iff_forall_ne_some.mpr fun v hv => ?_
      obtain ⟨f, hf, hl, hwire, text, hsays, -⟩ := (get?_replyHeaders hlower).mp hv
      exact hno f hf hl hwire text hsays
    rw [hheader, hnone, Option.none_or]

theorem merge_again (c : Component) (values : Dict Value) :
    (c.merge values).merge values = c.merge values := by
  have hvalues : (c.values.overlay values).overlay values = c.values.overlay values := by
    refine Dict.ext_get? fun key => ?_
    rw [Dict.get?_overlay, Dict.get?_overlay]
    cases values.get? key <;> simp
  simp [Component.merge, hvalues]

theorem absorbBody_again {r' : Resource} (hschema : r'.schema = r.schema)
    (hbody : r'.body = r.absorbBody response) : r'.absorbBody response = r.absorbBody response := by
  have hunwrap : r'.unwrap = r.unwrap := by
    funext body
    rw [unwrap, unwrap, hschema]
  rw [absorbBody, hunwrap, hbody, absorbBody]
  cases (response.body.map r.unwrap).bind Value.record? with
  | none => rfl
  | some fields => exact merge_again r.body fields

theorem absorb_again (h : carriesBody again = true → carriesBody op = true) :
    (r.absorb op response).absorb again response = r.absorb op response := by
  have hheaders : (r.absorb op response).replyHeaders response = r.replyHeaders response := rfl
  have hbody : (if carriesBody again then (r.absorb op response).absorbBody response
      else (r.absorb op response).body) = (r.absorb op response).body := by
    cases hagain : carriesBody again with
    | false => rfl
    | true =>
        have hop : (r.absorb op response).body = r.absorbBody response := if_pos (h hagain)
        have hbody : (r.absorb op response).absorbBody response = r.absorbBody response :=
          absorbBody_again rfl hop
        rw [if_pos rfl, hbody, hop]
  rw [absorb, hbody, hheaders]
  simp [absorb, merge_again]

def AtRest (r : Resource) : Prop :=
  ∀ (τ : Type) (t : Session τ) (d : Conversation τ), r.settle t .commit d = ((.ok (), r), d)

def Knows (r : Resource) (op : Operation) (response : Response) : Prop :=
  ∀ (τ : Type) (t : Session τ) (again : Operation) (q : Request) (d d' : Conversation τ),
    (again ≠ .head → again ≠ .delete → op ≠ .head ∧ op ≠ .delete) →
    r.plan again = .ok (some q) → t.request q d = (.ok response, d') →
    r.settle t again d = ((.ok (), r), d')

theorem atRest_of_not_pending (h : ¬r.Pending) : r.AtRest := by
  intro τ t d
  exact settle_of_none (plan_of_idle fun hw => h (hw rfl))

theorem atRest_absorb (hh : op ≠ .head) (hd : op ≠ .delete) :
    (r.absorb op response).AtRest := by
  have hbody : (r.absorb op response).body = r.absorbBody response :=
    if_pos (carriesBody_iff.mpr ⟨hh, hd⟩)
  exact atRest_of_not_pending (not_pending_of_clean (by rw [hbody, dirty_absorbBody]) rfl)

theorem settle_of_answer (hplan : r.plan op = .ok (some q))
    (hreply : s.request q c = (.ok response, c')) :
    r.settle s op c = ((.ok (), r.absorb op response), c') := by
  rw [settle_of_some hplan, hreply]

theorem settle_eq_ok (h : r.settle s op c = ((.ok (), r'), c')) :
    (r.plan op = .ok none ∧ r' = r) ∨ ∃ q response, r.plan op = .ok (some q) ∧
      s.request q c = (.ok response, c') ∧ r' = r.absorb op response := by
  cases hplan : r.plan op with
  | error e =>
      rw [settle_of_error hplan] at h
      simp at h
  | ok request? =>
      cases request? with
      | none =>
          rw [settle_of_none hplan] at h
          exact .inl ⟨rfl, by simpa [eq_comm] using (Prod.mk.inj h).1⟩
      | some q =>
          rcases hreply : s.request q c with ⟨e | response, d⟩
          · rw [settle_of_some hplan, hreply] at h
            simp at h
          · rw [settle_of_answer hplan hreply] at h
            obtain ⟨hsettled, rfl⟩ := Prod.mk.inj h
            exact .inr ⟨q, response, rfl, hreply, by simpa [eq_comm] using hsettled⟩

theorem settle_takes_reply (s : Session σ) (op : Operation) (r : Resource) (c : Conversation σ) :
    (∀ q response c', r.plan op = .ok (some q) → s.request q c = (.ok response, c') →
      response.headers.InLowercase →
      ∃ r', r.settle s op c = ((.ok (), r'), c') ∧ r.Takes op response r' ∧ r'.Knows op response) ∧
    ∀ r' c', r.settle s op c = ((.ok (), r'), c') → op ≠ .head → op ≠ .delete → r'.AtRest := by
  constructor
  · intro q response c' hplan hreply hlower
    refine ⟨_, settle_of_answer hplan hreply, takes_absorb hlower r op, ?_⟩
    intro τ t again q' d d' hscope hagain hsame
    have hcarries : carriesBody again = true → carriesBody op = true := fun h =>
      carriesBody_iff.mpr (hscope (carriesBody_iff.mp h).1 (carriesBody_iff.mp h).2)
    rw [settle_of_answer hagain hsame, absorb_again hcarries]
  · intro r' c' hsettle hh hd
    rcases settle_eq_ok hsettle with ⟨hplan, rfl⟩ | ⟨q, response, -, -, rfl⟩
    · exact atRest_of_not_pending fun hp => plan_eq_ok_none_iff.mp hplan fun _ => hp
    · exact atRest_absorb hh hd

def kiln : Schema :=
  { kind := "lab.kiln", service := "lab", basePath := "/kilns", resourceKey := some "kiln"
    fields := FieldTable.base ++
      [{ name := "heat" }, { name := "etag", wire := "ETag", location := .header }] }

def hotKiln : Resource :=
  { schema := kiln
    body := { values := .ofList [("heat", .integer 900), ("id", .text "k1")]
              dirty := .ofList [("heat", ())] }
    header := { values := .ofList [("ETag", .text "v1")], dirty := .ofList [("ETag", ())] } }

def kilnReply : Response :=
  { status := 200, body := some (.record [("kiln", .record [("heat", .integer 20)])]) }

def taggedReply : Response := kilnReply.withHeaders [("eTaG", "v2")]

def kilnTalk : Conversation (List Reply) := { peer := [.success taggedReply] }

theorem fetch_hotKiln_takes_reply : ∃ q c', hotKiln.plan .fetch = .ok (some q) ∧
    Session.replay.request q kilnTalk = (.ok taggedReply, c') ∧ taggedReply.headers.InLowercase ∧
    ∃ r', hotKiln.settle Session.replay .fetch kilnTalk = ((.ok (), r'), c') ∧
      hotKiln.Takes .fetch taggedReply r' ∧ r'.Knows .fetch taggedReply ∧ r'.AtRest := by
  have hplan : hotKiln.plan .fetch = .ok (some (kiln.request .get "/kilns/k1")) := by cbv
  have hkiln : kilnReply.headers.InLowercase := by simp [Dict.InLowercase, kilnReply]
  have hlower : taggedReply.headers.InLowercase := Response.inLowercase_withHeaders hkiln _
  have htakes := settle_takes_reply Session.replay .fetch hotKiln kilnTalk
  obtain ⟨r', hsettle, htaken, hknown⟩ := htakes.1 _ _ _ hplan rfl hlower
  exact ⟨_, _, hplan, rfl, hlower, r', hsettle, htaken, hknown,
    htakes.2 r' _ hsettle (by simp) (by simp)⟩

end Resource

end ControlPlane

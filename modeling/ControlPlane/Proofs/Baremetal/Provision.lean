import ControlPlane.Proofs.Resource.Operation
import ControlPlane.Proofs.Session
import ControlPlane.Proofs.Wait.Ending

namespace ControlPlane.Baremetal

namespace ProvisionRequest

variable {q : ProvisionRequest} {e : Error} {given : Bool} {what verb owner target : String}

structure Fits (q : ProvisionRequest) : Prop where
  configDrive : q.configDrive ≠ none → q.target = "active" ∨ q.target = "rebuild"
  cleanSteps : q.cleanSteps ≠ none ↔ q.target = "clean"
  rescuePassword : q.rescuePassword ≠ none ↔ q.target = "rescue"

def members (q : ProvisionRequest) : List (String × Value) :=
  [("target", .text q.target)] ++
    (q.configDrive.map fun drive => ("configdrive", drive)).toList ++
    (q.cleanSteps.map fun steps => ("clean_steps", steps)).toList ++
    (q.rescuePassword.map fun password => ("rescue_password", .text password)).toList

theorem checkConfigDrive_eq_ok : q.checkConfigDrive = .ok () ↔
    (q.configDrive ≠ none → q.target = "active" ∨ q.target = "rebuild") := by
  rw [checkConfigDrive, takesConfigDrive]
  cases q.configDrive with
  | none => simp
  | some v => simp [Classical.or_iff_not_imp_left]

theorem invalid_of_checkConfigDrive (h : q.checkConfigDrive = .error e) :
    ∃ text, e = .invalidRequest text := by
  rw [checkConfigDrive] at h
  split at h
  · cases h
    exact ⟨_, rfl⟩
  · cases h

theorem checkExtra_eq_ok :
    checkExtra given what verb owner target = .ok () ↔ (given = true ↔ target = owner) := by
  rw [checkExtra]
  cases given <;> simp

theorem invalid_of_checkExtra (h : checkExtra given what verb owner target = .error e) :
    ∃ text, e = .invalidRequest text := by
  rw [checkExtra] at h
  split at h
  · cases h
  · split at h
    all_goals
      cases h
      exact ⟨_, rfl⟩

theorem bind_eq_ok {x y : Except Error Unit} : (do x; y) = .ok () ↔ x = .ok () ∧ y = .ok () := by
  cases x <;> simp [bind, Except.bind]

theorem bind_eq_error {x y : Except Error Unit} (h : (do x; y) = .error e) :
    x = .error e ∨ y = .error e := by
  cases x with
  | error _ => exact .inl h
  | ok _ => exact .inr h

theorem check_eq_ok : q.check = .ok () ↔ q.Fits := by
  rw [check, bind_eq_ok, bind_eq_ok, checkConfigDrive_eq_ok, checkExtra_eq_ok, checkExtra_eq_ok,
    Option.isSome_iff_ne_none, Option.isSome_iff_ne_none]
  exact ⟨fun ⟨hdrive, hsteps, hpassword⟩ => ⟨hdrive, hsteps, hpassword⟩,
    fun h => ⟨h.configDrive, h.cleanSteps, h.rescuePassword⟩⟩

theorem invalid_of_check (h : q.check = .error e) : ∃ text, e = .invalidRequest text := by
  rcases bind_eq_error h with hdrive | h
  · exact invalid_of_checkConfigDrive hdrive
  · rcases bind_eq_error h with hsteps | hpassword
    · exact invalid_of_checkExtra hsteps
    · exact invalid_of_checkExtra hpassword

theorem toBody_of_fits (h : q.Fits) : q.toBody = .ok q.body := by
  rw [toBody, check_eq_ok.mpr h]
  rfl

theorem toBody_of_not_fits (h : ¬q.Fits) : ∃ text, q.toBody = .error (.invalidRequest text) := by
  cases hc : q.check with
  | ok _ => exact absurd (check_eq_ok.mp hc) h
  | error e =>
      obtain ⟨text, rfl⟩ := invalid_of_check hc
      exact ⟨text, by rw [toBody, hc]; rfl⟩

theorem body_eq (q : ProvisionRequest) : q.body = .ofDict (.ofList q.members) := by
  obtain ⟨target, drive, steps, password⟩ := q
  cases drive <;> cases steps <;> cases password <;> rfl

end ProvisionRequest

namespace Node

def provisionPut (q : ProvisionRequest) (url : String) : Request :=
  { method := .put, url := url ++ "/states/provision", body := some (.ofDict (.ofList q.members))
    service := some "baremetal", microversion := some "1.52", retriable := [409, 503] }

def lookGet (url : String) : Request :=
  { method := .get, url := url, service := some "baremetal", microversion := some "1.52"
    retriable := [409, 503] }

variable {σ : Type} {s : Session σ} {q : ProvisionRequest} {wait : Option WaitPolicy}
  {id url : String} {r : Resource} {c c' : Conversation σ}

theorem collectionPath_eq (values : Dict Value) : schema.collectionPath values = .ok "/nodes" := rfl

theorem path_eq (hk : r.schema = schema) (hid : r.id? = some id) :
    r.path true = .ok (itemPath "/nodes" id) := by
  rw [Resource.path, hk, collectionPath_eq, hid]
  rfl

theorem action_eq (hk : r.schema = schema) (hu : r.path true = .ok url) :
    r.action s .put "states/provision" (some q.body) c = s.request (provisionPut q url) c := by
  have hrequest : r.actionRequest .put "states/provision" (some q.body) =
      .ok (provisionPut q url) := by
    have hurl : url ++ "/" ++ String.ofList (Text.dropStart '/' "states/provision".toList) =
        url ++ "/states/provision" := String.append_assoc ..
    rw [Resource.actionRequest, hu, hk, provisionPut, ← hurl, q.body_eq]
    rfl
  rw [Resource.action, hrequest]

theorem ready_fetch (hk : r.schema = schema) (hid : r.id? = some id) : r.Ready .fetch where
  work := nofun
  permitted := by rw [hk]; rfl
  located name hn := by
    rw [hk] at hn
    cases hn
  named _ := by simp [hid]

structure LooksOnce (s : Session σ) (url : String) (r : Resource) (c : Conversation σ)
    (result : Settled × Conversation σ) : Prop where
  talk : result.2 = (s.request (lookGet url) c).2
  failed : ∀ e, (s.request (lookGet url) c).1 = .error e → result.1 = (.error e, r)
  merged : ∀ response, (s.request (lookGet url) c).1 = .ok response →
    result.1 = (.ok (), r.absorb .fetch response)

theorem refresh_looksOnce (hk : r.schema = schema) (hid : r.id? = some id)
    (hu : r.path true = .ok url) : LooksOnce s url r c (refresh s r c) := by
  obtain ⟨uri, huri, htalk, -, hfailed, hmerged⟩ :=
    Resource.settle_of_ready (s := s) (c := c) (ready_fetch hk hid)
  obtain rfl : url = uri := Except.ok.inj (hu.symm.trans huri)
  have hget : r.requestTo .fetch url = lookGet url := by
    rw [Resource.requestTo, hk]
    rfl
  rw [hget] at htalk hfailed hmerged
  exact ⟨htalk, hfailed, hmerged⟩

structure AsksProvisionState (s : Session σ) (q : ProvisionRequest) (wait : Option WaitPolicy)
    (url : String) (r : Resource) (c : Conversation σ) (result : Settled × Conversation σ) :
    Prop where
  first : c.sent ++ [⟨c.clock, s.dress (provisionPut q url)⟩] <+: result.2.sent
  failed : ∀ e c', s.request (provisionPut q url) c = (.error e, c') →
    result = ((.error e, r), c') ∧
      result.2.sent = c.sent ++ [⟨c.clock, s.dress (provisionPut q url)⟩]
  looked : ∀ response c', s.request (provisionPut q url) c = (.ok response, c') → wait = none →
    LooksOnce s url r c' result ∧ result.2.sent = c.sent ++
      [⟨c.clock, s.dress (provisionPut q url)⟩, ⟨c'.clock, s.dress (lookGet url)⟩]
  waited : ∀ response c', s.request (provisionPut q url) c = (.ok response, c') →
    ∀ policy, wait = some policy → result =
      waitForProvisionState s (expectedProvisionState q.target) policy true r c'

structure ChangesProvisionState (s : Session σ) (q : ProvisionRequest) (wait : Option WaitPolicy)
    (url : String) (r : Resource) (c : Conversation σ) (result : Settled × Conversation σ) :
    Prop where
  refused : ¬q.Fits → ∃ text, result = ((.error (.invalidRequest text), r), c)
  asked : q.Fits → AsksProvisionState s q wait url r c result

theorem setProvisionState_of_error (hf : q.Fits) (hk : r.schema = schema)
    (hu : r.path true = .ok url) {e : Error} (hput : s.request (provisionPut q url) c = (.error e, c')) :
    setProvisionState s q wait r c = ((.error e, r), c') := by
  simp only [setProvisionState, q.toBody_of_fits hf, after, action_eq hk hu, hput]

theorem setProvisionState_of_ok (hf : q.Fits) (hk : r.schema = schema)
    (hu : r.path true = .ok url) {response : Response} (hput : s.request (provisionPut q url) c = (.ok response, c')) :
    setProvisionState s q wait r c =
      match wait with
      | some policy =>
          waitForProvisionState s (expectedProvisionState q.target) policy true r c'
      | none => refresh s r c' := by
  cases wait <;>
    simp only [setProvisionState, q.toBody_of_fits hf, after, action_eq hk hu, hput]

theorem put_first (hf : q.Fits) (hk : r.schema = schema) (hid : r.id? = some id)
    (hu : r.path true = .ok url) :
    c.sent ++ [⟨c.clock, s.dress (provisionPut q url)⟩] <+:
      (setProvisionState s q wait r c).2.sent := by
  obtain ⟨answer, c', hput⟩ : ∃ answer c', s.request (provisionPut q url) c = (answer, c') :=
    ⟨_, _, rfl⟩
  rw [← s.sent_of_request hput]
  cases answer with
  | error e => simp only [setProvisionState_of_error hf hk hu hput, List.prefix_rfl]
  | ok response =>
      rw [setProvisionState_of_ok hf hk hu hput]
      cases wait with
      | some policy => exact sent_prefix_wait ..
      | none =>
          rw [(refresh_looksOnce hk hid hu).talk]
          exact List.prefix_append ..

theorem asks_of_fits (hf : q.Fits) (hk : r.schema = schema) (hid : r.id? = some id)
    (hu : r.path true = .ok url) :
    AsksProvisionState s q wait url r c (setProvisionState s q wait r c) where
  first := put_first hf hk hid hu
  failed e c' hput := by
    rw [setProvisionState_of_error hf hk hu hput]
    exact ⟨rfl, s.sent_of_request hput⟩
  looked response c' hput hwait := by
    have hlooks : LooksOnce s url r c' (refresh s r c') := refresh_looksOnce hk hid hu
    rw [setProvisionState_of_ok hf hk hu hput, hwait]
    have hsent : (s.request (lookGet url) c').2.sent =
        c'.sent ++ [⟨c'.clock, s.dress (lookGet url)⟩] := s.sent_of_request rfl
    refine ⟨hlooks, ?_⟩
    rw [hlooks.talk, hsent, s.sent_of_request hput, List.append_assoc]
    rfl
  waited response c' hput policy hwait := by
    rw [setProvisionState_of_ok hf hk hu hput, hwait]

theorem set_changes_provision_state (s : Session σ) (q : ProvisionRequest)
    (wait : Option WaitPolicy) (hk : r.schema = schema) (hid : r.id? = some id)
    (c : Conversation σ) : ∃ url, IsItemUrl "/nodes" id url ∧
      ChangesProvisionState s q wait url r c (setProvisionState s q wait r c) := by
  refine ⟨itemPath "/nodes" id, isItemUrl_itemPath "/nodes" id, ?_, ?_⟩
  · intro hf
    obtain ⟨text, hbody⟩ := q.toBody_of_not_fits hf
    exact ⟨text, by rw [setProvisionState, hbody]⟩
  · exact fun hf => asks_of_fits hf hk hid (path_eq hk hid)

theorem cleaning_changes_provision_state :
    let q : ProvisionRequest := { target := "clean", cleanSteps := some (.list []) }
    let r : Resource := .withId schema "n1"
    let c : Conversation (List Reply) :=
      ⟨0, [], [.success { status := 202 }, .success { status := 200, body := some (.record
        [("uuid", .text "n1"), ("provision_state", .text "manageable")]) }]⟩
    let result := setProvisionState .replay q (some ⟨1000, some 5000⟩) r c
    r.schema = schema ∧ r.id? = some "n1" ∧ q.Fits ∧
      (∃ url, IsItemUrl "/nodes" "n1" url ∧
        ChangesProvisionState .replay q (some ⟨1000, some 5000⟩) url r c result) ∧
      result.1.1 = .ok () ∧ provisionState? result.1.2 = some "manageable" ∧
      result.2.sent =
        [⟨0, { method := .put, url := "/nodes/n1/states/provision", service := some "baremetal"
               body := some (.record [("clean_steps", .list []), ("target", .text "clean")])
               microversion := some "1.52", retriable := [409, 503] }⟩,
         ⟨0, { method := .get, url := "/nodes/n1", service := some "baremetal"
               microversion := some "1.52", retriable := [409, 503] }⟩] :=
  ⟨rfl, rfl, ⟨by simp, by simp, by simp⟩, set_changes_provision_state _ _ _ rfl rfl _,
    by decide +kernel, by decide +kernel, by decide +kernel⟩

end Node

end ControlPlane.Baremetal

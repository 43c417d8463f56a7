import TaskBoard.Proofs.Credentials

/-! Which service among the bound ones is used: the first of a name, whatever stands behind it. -/

namespace TaskBoard.Proofs.Credentials.Selection

open TaskBoard.Credentials TaskBoard.Json Proofs.Entries Proofs.Json Outcome

inductive Place where
  | named
  | listed (member item : ℕ)

def Place.NotAfter : Place → Place → Prop
  | named, _ => True
  | listed _ _, named => False
  | listed i j, listed i' j' => i < i' ∨ i = i' ∧ j ≤ j'

inductive Candidate (name : String) (services : Members) : Place → Members → Prop
  | named {service : Members} (h : services.lookup (.ofString name) = some (.map service)) :
    Candidate name services .named service
  | listed {i j : ℕ} {label : Script} {items : List Document} {service : Members}
    (hi : services[i]? = some (label, .list items)) (hj : items[j]? = some (.map service))
    (ht : Titled name service) : Candidate name services (.listed i j) service

def First (name : String) (services service : Members) : Prop :=
  ∃ place, Candidate name services place service ∧
    ∀ place' other, Candidate name services place' other → place.NotAfter place'

section Places

variable {name : String} {services service other : Members} {p q : Place}

lemma Place.NotAfter.antisymm (h : p.NotAfter q) (h' : q.NotAfter p) : p = q := by
  cases p with
  | named =>
    cases q with
    | named => rfl
    | listed i j => exact h'.elim
  | listed i j =>
    cases q with
    | named => exact h.elim
    | listed i' j' =>
      simp only [Place.NotAfter] at h h'
      obtain ⟨rfl, rfl⟩ : i = i' ∧ j = j' := by omega
      rfl

lemma Candidate.unique (h : Candidate name services p service) (h' : Candidate name services p other) :
    service = other := by
  cases h with
  | named h =>
    cases h' with
    | named h' =>
      cases h.symm.trans h'
      rfl
  | listed hi hj ht =>
    cases h' with
    | listed hi' hj' ht' =>
      cases hi.symm.trans hi'
      cases hj.symm.trans hj'
      rfl

lemma First.unique (h : First name services service) (h' : First name services other) : service = other := by
  obtain ⟨p, hp, hmin⟩ := h
  obtain ⟨q, hq, hmin'⟩ := h'
  obtain rfl : p = q := (hmin q other hq).antisymm (hmin' p service hp)
  exact hp.unique hq

end Places

section Search

variable {α β : Type} {l : List α} {f : α → Option β} {b : β}

lemma findSome?_eq_some_iff_least : l.findSome? f = some b ↔
    ∃ (i : ℕ) (a : α), l[i]? = some a ∧ f a = some b ∧ ∀ (j : ℕ) x, l[j]? = some x → f x ≠ none → i ≤ j := by
  induction l with
  | nil => simp
  | cons a l ih =>
    rw [List.findSome?_cons]
    cases ha : f a with
    | some b' =>
      constructor
      · rintro ⟨⟩
        exact ⟨0, a, rfl, ha, fun _ _ _ _ => Nat.zero_le _⟩
      · rintro ⟨i, x, hi, hx, hleast⟩
        obtain rfl : i = 0 := Nat.le_zero.mp (hleast 0 a rfl (by simp [ha]))
        cases hi
        exact ha.symm.trans hx
    | none =>
      rw [ih]
      constructor
      · rintro ⟨i, x, hi, hx, hleast⟩
        refine ⟨i + 1, x, hi, hx, fun j y hj hy => ?_⟩
        cases j with
        | zero =>
          cases hj
          exact absurd ha hy
        | succ j => exact Nat.succ_le_succ (hleast j y hj hy)
      · rintro ⟨i, x, hi, hx, hleast⟩
        cases i with
        | zero =>
          cases hi
          cases ha.symm.trans hx
        | succ i => exact ⟨i, x, hi, hx, fun j y hj hy => Nat.le_of_succ_le_succ (hleast (j + 1) y hj hy)⟩

end Search

section Candidates

variable {name : String} {services service : Members}

def entitled? (name : String) (v : Document) : Option (Members) := v.members?.filter (hasName name)

lemma entitled?_eq_some {v : Document} : entitled? name v = some service ↔ v = .map service ∧ Titled name service := by
  rw [entitled?, Option.filter_eq_some_iff, hasName_iff]
  cases v <;> simp [Document.members?]

lemma head?_bindings (items : List Document) :
    (bindings name (.list items)).head? = items.findSome? (entitled? name) := by
  rw [bindings, List.filter_filterMap, List.head?_filterMap]
  rfl

lemma bindings_eq_nil {v : Document} (h : ∀ items, v ≠ .list items) : bindings name v = [] := by
  cases v with
  | list items => exact absurd rfl (h items)
  | _ => rfl

lemma head?_bindings_eq_some {v : Document} : (bindings name v).head? = some service ↔
    ∃ items j, v = .list items ∧ items[j]? = some (.map service) ∧ Titled name service ∧
      ∀ (j' : ℕ) other, items[j']? = some (.map other) → Titled name other → j ≤ j' := by
  constructor
  · intro h
    have hv : ∃ items, v = .list items := by
      by_contra! hne
      rw [bindings_eq_nil hne] at h
      cases h
    obtain ⟨items, rfl⟩ := hv
    rw [head?_bindings, findSome?_eq_some_iff_least] at h
    obtain ⟨j, a, hj, ha, hleast⟩ := h
    obtain ⟨rfl, ht⟩ := entitled?_eq_some.mp ha
    refine ⟨items, j, rfl, hj, ht, fun j' other hj' ht' => ?_⟩
    apply hleast j' _ hj'
    rw [entitled?_eq_some.mpr ⟨rfl, ht'⟩]
    exact Option.some_ne_none other
  · rintro ⟨items, j, rfl, hj, ht, hleast⟩
    rw [head?_bindings, findSome?_eq_some_iff_least]
    refine ⟨j, _, hj, entitled?_eq_some.mpr ⟨rfl, ht⟩, fun j' x hj' hx => ?_⟩
    obtain ⟨other, hother⟩ := Option.ne_none_iff_exists'.mp hx
    obtain ⟨rfl, ht'⟩ := entitled?_eq_some.mp hother
    exact hleast j' other hj' ht'

lemma mem_bindings {items : List Document} (hj : .map service ∈ items) (ht : Titled name service) :
    service ∈ bindings name (.list items) := by
  rw [bindings, List.mem_filter, List.mem_filterMap]
  exact ⟨⟨_, hj, rfl⟩, hasName_iff.mpr ht⟩

lemma candidates_eq : candidates name services =
    ((services.lookup (.ofString name)).bind Document.members?).toList ++ services.flatMap fun e => bindings name e.2 := by
  rw [candidates, Entries.values, List.flatMap_map]

lemma Candidate.mem {p : Place} (h : Candidate name services p service) : service ∈ candidates name services := by
  rw [candidates_eq, List.mem_append]
  cases h with
  | named h =>
    left
    rw [h]
    exact List.mem_singleton_self service
  | listed hi hj ht =>
    right
    rw [List.mem_flatMap]
    exact ⟨_, List.mem_of_getElem? hi, mem_bindings (List.mem_of_getElem? hj) ht⟩

lemma first_of_head? (h : (candidates name services).head? = some service) : First name services service := by
  rw [candidates_eq, List.head?_append] at h
  cases hl : (services.lookup (.ofString name)).bind Document.members? with
  | some named =>
    rw [hl] at h
    obtain rfl : named = service := Option.some.inj h
    obtain ⟨v, hv, hm⟩ := Option.bind_eq_some_iff.mp hl
    cases v <;> cases hm
    exact ⟨.named, .named hv, fun _ _ _ => trivial⟩
  | none =>
    -- Nothing stands under the name: it is the first item in the first list that has one of this name.
    rw [hl, Option.toList_none, List.head?_nil, Option.none_or, List.head?_flatMap,
      findSome?_eq_some_iff_least] at h
    obtain ⟨i, ⟨label, v⟩, hi, hv, hleast⟩ := h
    obtain ⟨items, j, rfl, hj, ht, hitem⟩ := head?_bindings_eq_some.mp hv
    refine ⟨.listed i j, .listed hi hj ht, ?_⟩
    rintro p other (hnamed | @⟨i', j', label', items', _, hi', hj', ht'⟩)
    · rw [hnamed] at hl
      cases hl
    · have hle : i ≤ i' := hleast i' _ hi' fun hnil => by
        have hmem := mem_bindings (List.mem_of_getElem? hj') ht'
        rw [List.head?_eq_none_iff] at hnil
        rw [hnil] at hmem
        cases hmem
      rcases Nat.lt_or_eq_of_le hle with hlt | rfl
      · exact Or.inl hlt
      · cases hi.symm.trans hi'
        exact Or.inr ⟨rfl, hitem j' other hj' ht'⟩

lemma head?_candidates_iff : (candidates name services).head? = some service ↔ First name services service := by
  refine ⟨first_of_head?, fun h => ?_⟩
  obtain ⟨p, hp, -⟩ := id h
  cases hc : (candidates name services).head? with
  | none =>
    rw [List.head?_eq_none_iff] at hc
    have hmem := hp.mem
    rw [hc] at hmem
    cases hmem
  | some other => rw [(first_of_head? hc).unique h]

lemma candidates_eq_nil_iff : candidates name services = [] ↔ ∀ p other, ¬ Candidate name services p other := by
  constructor
  · intro hnil p other h
    have hmem := h.mem
    rw [hnil] at hmem
    cases hmem
  · intro h
    by_contra hne
    obtain ⟨service, hs⟩ := Option.ne_none_iff_exists'.mp (mt List.head?_eq_none_iff.mp hne)
    obtain ⟨p, hp, -⟩ := first_of_head? hs
    exact h p service hp

end Candidates

section Outcomes

variable {name text : String} {services service : Members} {loader : Loader}

lemma encodedKey_of_none (h : ∀ p other, ¬ Candidate name services p other) :
    encodedKey name services = .error (.credentials (name ++ " service is not bound (not found in VCAP_SERVICES)")) := by
  rw [encodedKey, candidates_eq_nil_iff.mpr h]

lemma candidates_of_first (h : First name services service) : ∃ rest, candidates name services = service :: rest := by
  have hhead := head?_candidates_iff.mpr h
  cases hc : candidates name services with
  | nil =>
    rw [hc] at hhead
    cases hhead
  | cons other rest =>
    rw [hc] at hhead
    cases hhead
    exact ⟨rest, rfl⟩

lemma encodedKey_of_bare (h : First name services service)
    (hs : ∀ credentials, service.lookup (.ofString "credentials") ≠ some (.map credentials)) :
    encodedKey name services = .error (.credentials (name ++ " service does not have credentials")) := by
  obtain ⟨rest, hc⟩ := candidates_of_first h
  simp only [encodedKey, hc]

lemma encodedKey_of_keyless {credentials : Members} (h : First name services service)
    (hs : service.lookup (.ofString "credentials") = some (.map credentials))
    (hk : ∀ key, credentials.lookup (.ofString "PrivateKeyData") ≠ some (.text key)) :
    encodedKey name services = .error (.credentials (name ++ " credentials do not have PrivateKeyData")) := by
  obtain ⟨rest, hc⟩ := candidates_of_first h
  simp only [encodedKey, hc, hs]

lemma encodedKey_of_carries {key : Script} (h : First name services service) (hk : Carries key service) :
    encodedKey name services = .ok key := by
  obtain ⟨rest, hc⟩ := candidates_of_first h
  obtain ⟨credentials, hs, hk⟩ := hk
  simp only [encodedKey, hc, hs, hk]

lemma encodedKey_congr {services' : Members} (h : First name services service)
    (h' : First name services' service) : encodedKey name services' = encodedKey name services := by
  obtain ⟨rest, hc⟩ := candidates_of_first h
  obtain ⟨rest', hc'⟩ := candidates_of_first h'
  rw [encodedKey, encodedKey, hc, hc']

lemma find_of_read (hname : name ≠ "") (hread : Json.read text.toList = .ok (.map services)) :
    find (some name) (some text) =
      (encodedKey name services >>= fun encoded => keyDocument encoded >>= fun info => pure (name, info)) := by
  have hservices : Credentials.services text = .ok services := by simp only [Credentials.services, hread]
  simp only [find, Option.getD_some]
  rw [if_neg (by simpa using hname), hservices]
  rfl

lemma obtain_of_error {f : Failure} (hname : name ≠ "") (hread : Json.read text.toList = .ok (.map services))
    (h : encodedKey name services = .error f) : obtain loader (some name) (some text) = { result := .error f } := by
  have hfind : find (some name) (some text) = .error f := by
    rw [find_of_read hname hread, h]
    rfl
  simp only [Credentials.obtain, hfind]

lemma obtain_congr {text' : String} {services' : Members} (hname : name ≠ "")
    (hread : Json.read text.toList = .ok (.map services)) (hread' : Json.read text'.toList = .ok (.map services'))
    (h : encodedKey name services' = encodedKey name services) :
    obtain loader (some name) (some text') = obtain loader (some name) (some text) := by
  simp only [Credentials.obtain, find_of_read hname hread, find_of_read hname hread', h]

/--
Only the first candidate of a name counts: without one, or without its credentials or its key, the attempt fails and
says so. With a key it ends in the same way for all documents whose first candidates carry that key.
-/
theorem first_candidate_decides (hname : name ≠ "") (hread : Json.read text.toList = .ok (.map services))
    (loader : Loader) :
    ((∀ p other, ¬ Candidate name services p other) → obtain loader (some name) (some text) =
      { result := .error (.credentials (name ++ " service is not bound (not found in VCAP_SERVICES)")) }) ∧
    ((∃ p other, Candidate name services p other) → ∃! service, First name services service) ∧
    ∀ service, First name services service →
      ((∀ credentials, service.lookup (.ofString "credentials") ≠ some (.map credentials)) →
        obtain loader (some name) (some text) =
          { result := .error (.credentials (name ++ " service does not have credentials")) }) ∧
      (∀ credentials, service.lookup (.ofString "credentials") = some (.map credentials) →
        (∀ key, credentials.lookup (.ofString "PrivateKeyData") ≠ some (.text key)) →
          obtain loader (some name) (some text) =
            { result := .error (.credentials (name ++ " credentials do not have PrivateKeyData")) }) ∧
      ∀ text' services' service', Json.read text'.toList = .ok (.map services') → First name services' service' →
        (service' = service ∨ ∃ key, Carries key service ∧ Carries key service') →
          obtain loader (some name) (some text') = obtain loader (some name) (some text) := by
  refine ⟨fun hnone => ?_, ?_, fun service hfirst => ⟨fun hs => ?_, fun credentials hs hk => ?_, ?_⟩⟩
  · exact obtain_of_error hname hread (encodedKey_of_none hnone)
  · rintro ⟨p, other, hp⟩
    cases hc : candidates name services with
    | nil => exact absurd hp (candidates_eq_nil_iff.mp hc p other)
    | cons service rest =>
      have hfirst : First name services service := first_of_head? (by rw [hc]; rfl)
      exact ⟨service, hfirst, fun _ h => h.unique hfirst⟩
  · exact obtain_of_error hname hread (encodedKey_of_bare hfirst hs)
  · exact obtain_of_error hname hread (encodedKey_of_keyless hfirst hs hk)
  · rintro text' services' service' hread' hfirst' (rfl | ⟨key, hk, hk'⟩)
    · exact obtain_congr hname hread hread' (encodedKey_congr hfirst hfirst')
    · apply obtain_congr hname hread hread'
      rw [encodedKey_of_carries hfirst hk, encodedKey_of_carries hfirst' hk']

def rivals : List (String × Value) :=
  [("tasks", .list [.text "tasks", .null, .map [("name", .int 7)]]),
    ("stores", .list [.map [("name", .text "tasks")], .map sampleService])]

lemma faithful_rivals : Faithful (.map rivals) := by
  have hservice : Faithful (.map sampleService) := by
    refine .map (by decide) ?_
    simp only [sampleService, List.forall_mem_cons]
    exact ⟨.text _, .map (by decide) (by simp [Faithful.text]), by simp⟩
  have hbare : Faithful (.map [("name", .text "tasks")]) := .map (by decide) (by simp [Faithful.text])
  have hnumbered : Faithful (.map [("name", .int 7)]) := .map (by decide) (by simp [Faithful.int (n := 7) (by decide)])
  refine .map (by decide) ?_
  simp only [rivals, List.forall_mem_cons]
  exact ⟨.list (by simp [Faithful.text, Faithful.null, hnumbered]), .list (by simp [hbare, hservice]), by simp⟩

theorem first_candidate_decides_rivals : Json.read (write .ascii (.map rivals)).toList =
      .ok (.map (Document.ofMembers rivals)) ∧
    First "tasks" (Document.ofMembers rivals) [(.ofString "name", .text (.ofString "tasks"))] ∧
      Candidate "tasks" (Document.ofMembers rivals) (.listed 1 1) (Document.ofMembers sampleService) ∧
      obtain (fun _ => .ok ⟨"token", .text "demo"⟩) (some "tasks") (some (write .ascii (.map rivals))) =
        { result := .error (.credentials ("tasks" ++ " service does not have credentials")) } := by
  have hread : Json.read (write .ascii (.map rivals)).toList = .ok (.map (Document.ofMembers rivals)) := by
    rw [write, String.toList_ofList, read_chars spaced_ascii faithful_rivals, Document.ofValue]
  have hfirst : First "tasks" (Document.ofMembers rivals) [(.ofString "name", .text (.ofString "tasks"))] :=
    first_of_head? rfl
  refine ⟨hread, hfirst, .listed rfl rfl rfl, ?_⟩
  obtain ⟨-, -, hdecides⟩ :=
    first_candidate_decides (by decide : "tasks" ≠ "") hread fun _ => .ok ⟨"token", .text "demo"⟩
  apply (hdecides _ hfirst).1
  intro credentials h
  cases h

end Outcomes

end TaskBoard.Proofs.Credentials.Selection

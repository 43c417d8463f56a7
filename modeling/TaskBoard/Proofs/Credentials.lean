import TaskBoard.Credentials
import TaskBoard.Proofs.Json.Reading
import TaskBoard.Proofs.Octets.Base64

namespace TaskBoard.Proofs.Credentials

open TaskBoard.Credentials TaskBoard.Json TaskBoard.Number Proofs.Entries Proofs.Json Outcome

def encodeKey (layout : Layout) (info : List (String × Value)) : String :=
  String.ofList (Text.Base64.encode (Text.Utf8.encode (write layout (.map info))))

example : encodeKey .ascii [("é", .int (-7))] = "eyJcdTAwZTkiOiAtN30=" := by decide +kernel

section Bindings

variable {name : String} {key : Script}

def Titled (name : String) (service : Members) : Prop :=
  service.lookup (.ofString "name") = some (.text (.ofString name))

def Carries (key : Script) (service : Members) : Prop := ∃ credentials,
  service.lookup (.ofString "credentials") = some (.map credentials) ∧
    credentials.lookup (.ofString "PrivateKeyData") = some (.text key)

/--
The service stands under its name, or nothing that could be a service does and it is the first of that name in any of
the lists.
-/
inductive Bound (name : String) (key : Script) (services : Members) : Prop
  | mapped {service : Members} (h : services.lookup (.ofString name) = some (.map service)) (hk : Carries key service)
  | listed {before after : Members} {label : Script} {earlier later : List Document} {service : Members}
      (hn : ∀ other, services.lookup (.ofString name) ≠ some (.map other))
      (hs : services = before ++ (label, .list (earlier ++ .map service :: later)) :: after)
      (hbefore : ∀ label items, (label, .list items) ∈ before → ∀ other, .map other ∈ items → ¬ Titled name other)
      (hearlier : ∀ other, .map other ∈ earlier → ¬ Titled name other) (ht : Titled name service)
      (hk : Carries key service)

lemma hasName_iff {service : Members} : hasName name service = true ↔ Titled name service := by
  rw [hasName, beq_iff_eq, Option.bind_eq_some_iff, Titled]
  constructor
  · rintro ⟨v, hv, ht⟩
    cases v <;> cases ht
    exact hv
  · exact fun h => ⟨_, h, rfl⟩

lemma bindings_of_untitled {items : List Document} (h : ∀ other, .map other ∈ items → ¬ Titled name other) :
    (items.filterMap Document.members?).filter (hasName name) = [] := by
  rw [List.filter_eq_nil_iff]
  intro other ho
  obtain ⟨v, hv, hm⟩ := List.mem_filterMap.mp ho
  cases v <;> cases hm
  rw [hasName_iff]
  exact h other hv

lemma candidates_of_bound {services : Members} (h : Bound name key services) :
    ∃ service rest, candidates name services = service :: rest ∧ Carries key service := by
  cases h with
  | @mapped service h hk => exact ⟨service, _, by rw [candidates, h]; rfl, hk⟩
  | @listed before after label earlier later service hn hs hbefore hearlier ht hk =>
    have hnone : (services.lookup (.ofString name)).bind Document.members? = none := by
      rw [Option.bind_eq_none_iff]
      intro v hv
      cases v with
      | map other => exact absurd hv (hn other)
      | _ => rfl
    have hskip : (Entries.values before).flatMap (bindings name) = [] := by
      rw [List.flatMap_eq_nil_iff]
      intro v hv
      obtain ⟨⟨l, v⟩, he, rfl⟩ := List.mem_map.mp hv
      cases v with
      | list items => exact bindings_of_untitled (hbefore l items he)
      | _ => rfl
    refine ⟨service, (later.filterMap Document.members?).filter (hasName name) ++
      (Entries.values after).flatMap (bindings name), ?_, hk⟩
    have hvalues : Entries.values services = Entries.values before ++
        .list (earlier ++ .map service :: later) :: Entries.values after := by
      rw [hs]
      simp [Entries.values]
    have hfirst : bindings name (.list (earlier ++ .map service :: later)) =
        service :: (later.filterMap Document.members?).filter (hasName name) := by
      have hm : (Document.map service).members? = some service := rfl
      rw [bindings, List.filterMap_append, List.filter_append, bindings_of_untitled hearlier, List.nil_append,
        List.filterMap_cons_some hm, List.filter_cons_of_pos (hasName_iff.mpr ht)]
    rw [candidates, hnone, hvalues, List.flatMap_append, hskip, List.flatMap_cons, hfirst]
    rfl

lemma encodedKey_of_bound {services : Members} (h : Bound name key services) :
    encodedKey name services = .ok key := by
  obtain ⟨service, rest, hc, credentials, hs, hk⟩ := candidates_of_bound h
  simp only [encodedKey, hc, hs, hk]

end Bindings

section Floats

variable {f : Binary64 → Binary64} {name : String}

lemma members?_mapFloats (v : Document) :
    (mapFloats f v).members? = v.members?.map (List.map (Prod.map id (mapFloats f))) := by
  cases v with
  | map members => rw [mapFloats_map]; rfl
  | _ => rfl

lemma text?_mapFloats (v : Document) : (mapFloats f v).text? = v.text? := by
  cases v <;> rfl

lemma lookup_mapFloats (key : Script) (members : Members) :
    (members.map (Prod.map id (mapFloats f))).lookup key = (members.lookup key).map (mapFloats f) :=
  lookup_image Function.injective_id (mapFloats f) key members

lemma hasName_mapFloats (members : Members) :
    hasName name (members.map (Prod.map id (mapFloats f))) = hasName name members := by
  rw [hasName, lookup_mapFloats, hasName]
  cases members.lookup (.ofString "name") with
  | none => rfl
  | some v => simp only [Option.map_some, Option.bind_some, text?_mapFloats]

lemma bindings_mapFloats (v : Document) :
    bindings name (mapFloats f v) = (bindings name v).map (List.map (Prod.map id (mapFloats f))) := by
  cases v with
  | list items =>
    have hm : Document.members? ∘ mapFloats f = fun v => v.members?.map (List.map (Prod.map id (mapFloats f))) :=
      funext members?_mapFloats
    have hp : hasName name ∘ List.map (Prod.map id (mapFloats f)) = hasName name := funext hasName_mapFloats
    rw [mapFloats_list, bindings, bindings, List.filterMap_map, hm, ← List.map_filterMap, List.filter_map, hp]
  | map members => rw [mapFloats_map]; rfl
  | _ => rfl

lemma candidates_mapFloats (services : Members) :
    candidates name (services.map (Prod.map id (mapFloats f))) =
      (candidates name services).map (List.map (Prod.map id (mapFloats f))) := by
  have hnamed : ((services.map (Prod.map id (mapFloats f))).lookup (.ofString name)).bind Document.members? =
      ((services.lookup (.ofString name)).bind Document.members?).map (List.map (Prod.map id (mapFloats f))) := by
    rw [lookup_mapFloats]
    cases services.lookup (.ofString name) with
    | none => rfl
    | some v => exact members?_mapFloats v
  have hvalues : Entries.values (services.map (Prod.map id (mapFloats f))) =
      (Entries.values services).map (mapFloats f) := by
    simp [Entries.values]
  have hb : (fun v => bindings name (mapFloats f v)) = fun v =>
      (bindings name v).map (List.map (Prod.map id (mapFloats f))) := funext bindings_mapFloats
  rw [candidates, candidates, hnamed, hvalues, List.flatMap_map, hb, List.map_append, List.map_flatMap]
  cases (services.lookup (.ofString name)).bind Document.members? <;> rfl

lemma encodedKey_mapFloats (services : Members) :
    encodedKey name (services.map (Prod.map id (mapFloats f))) = encodedKey name services := by
  rw [encodedKey, encodedKey, candidates_mapFloats]
  cases candidates name services with
  | nil => rfl
  | cons service rest =>
    simp only [List.map_cons, lookup_mapFloats]
    cases service.lookup (.ofString "credentials") with
    | none => rfl
    | some v =>
      cases v with
      | map credentials =>
        simp only [Option.map_some, mapFloats_map, lookup_mapFloats]
        cases credentials.lookup (.ofString "PrivateKeyData") with
        | none => rfl
        | some v => cases v <;> rfl
      | _ => rfl

end Floats

section Decoding

variable {layout : Layout} {info services : List (String × Value)}

theorem keyDocument_encodeKey (hl : Spaced layout) (h : Faithful (.map info)) :
    keyDocument (.ofString (encodeKey layout info)) = .ok (Document.ofMembers info) := by
  have hascii : isAscii (encodeKey layout info).toList = true := by
    rw [isAscii, List.all_eq_true, encodeKey, String.toList_ofList]
    exact fun c hc => decide_eq_true (Proofs.Octets.Base64.encode_lt _ c hc)
  have hdecode : decodeBase64 (encodeKey layout info).toList =
      .ok (Text.Utf8.encode (write layout (.map info))) := by
    rw [decodeBase64, hascii, encodeKey, String.toList_ofList, Proofs.Octets.Base64.decode_encode]
    rfl
  have hscript : decodeScript (.ofString (encodeKey layout info)) =
      .ok (Text.Utf8.encode (write layout (.map info))) := by
    rw [decodeScript, Script.ofString, Script.chars?_ofChars]
    exact hdecode
  have hread := readOctets_map hl h
  simp only [keyDocument, hscript, bind, Except.bind, hread]

theorem services_write {f : Binary64 → Binary64} (hl : Spaced layout) (hf : ReadsFloats f)
    (h : Writable (.map services)) :
    Credentials.services (write layout (.map services)) =
      .ok ((Document.ofMembers services).map (Prod.map id (mapFloats f))) := by
  have hread := read_chars_writable hl hf h
  rw [floated, Document.ofValue, mapFloats_map] at hread
  simp only [Credentials.services, write, String.toList_ofList, hread]

end Decoding

section Obtaining

variable {name : String} {info services : List (String × Value)} {inner outer : Layout}

lemma find_of_bound (hname : name ≠ "") (hi : Faithful (.map info)) (hs : Writable (.map services))
    (hinner : Spaced inner) (houter : Spaced outer)
    (hb : Bound name (.ofString (encodeKey inner info)) (Document.ofMembers services)) :
    find (some name) (some (write outer (.map services))) = .ok (name, Document.ofMembers info) := by
  obtain ⟨f, hf⟩ := exists_readsFloats
  have hkey := encodedKey_of_bound hb
  rw [← encodedKey_mapFloats (f := f)] at hkey
  have hservices := services_write houter hf hs
  have hdoc := keyDocument_encodeKey hinner hi
  simp only [find, Option.getD_some]
  rw [if_neg (by simpa using hname)]
  exact bind_eq_ok.mpr ⟨_, hservices, bind_eq_ok.mpr ⟨_, hkey, bind_eq_ok.mpr ⟨_, hdoc, rfl⟩⟩⟩

theorem obtain_of_bound (loader : Loader) (hname : name ≠ "") (hi : Faithful (.map info))
    (hs : Writable (.map services)) (hinner : Spaced inner) (houter : Spaced outer)
    (hb : Bound name (.ofString (encodeKey inner info)) (Document.ofMembers services)) :
    (obtain loader (some name) (some (write outer (.map services)))).loads =
        [⟨Document.ofMembers info, [scope]⟩] ∧
      ∀ grant, loader (Document.ofMembers info) = .ok grant →
        (obtain loader (some name) (some (write outer (.map services)))).result = .ok grant := by
  have hfind := find_of_bound hname hi hs hinner houter hb
  constructor
  · simp only [Credentials.obtain, hfind]
    cases loader (Document.ofMembers info) <;> rfl
  · intro grant hgrant
    simp only [Credentials.obtain, hfind, hgrant]

def sampleInfo : List (String × Value) :=
  [("type", .text "service_account"), ("owner", .map [("name", .text "żółw 🐢"), ("since", .int (-7))])]

def sampleService : List (String × Value) :=
  [("name", .text "tasks"), ("credentials", .map [("PrivateKeyData", .text (encodeKey .ascii sampleInfo))])]

def sampleServices : List (String × Value) :=
  [("load", .float (.finite false 3 (-1))), ("tasks", .list [.text "tasks", .map [("name", .text "other")]]),
    ("stores", .list [.map sampleService])]

lemma faithful_sampleInfo : Faithful (.map sampleInfo) := by
  refine .map (by decide) ?_
  simp only [sampleInfo, List.mem_cons, List.not_mem_nil, or_false, forall_eq_or_imp, forall_eq]
  refine ⟨.text _, .map (by decide) ?_⟩
  simp only [List.mem_cons, List.not_mem_nil, or_false, forall_eq_or_imp, forall_eq]
  exact ⟨.text _, .int (by decide)⟩

lemma writable_sampleService : Writable (.map sampleService) := by
  refine .map (by decide) ?_
  simp only [sampleService, List.mem_cons, List.not_mem_nil, or_false, forall_eq_or_imp, forall_eq]
  exact ⟨.text _, .map (by decide) (by simp [Writable.text])⟩

lemma writable_sampleServices : Writable (.map sampleServices) := by
  have hother : Writable (.map [("name", .text "other")]) := .map (by decide) (by simp [Writable.text])
  refine .map (by decide) ?_
  simp only [sampleServices, List.mem_cons, List.not_mem_nil, or_false, forall_eq_or_imp, forall_eq]
  exact ⟨.float _, .list (by simp [Writable.text, hother]), .list (by simp [writable_sampleService])⟩

lemma bound_sampleServices :
    Bound "tasks" (.ofString (encodeKey .ascii sampleInfo)) (Document.ofMembers sampleServices) := by
  have hs : Document.ofMembers sampleServices = (Document.ofMembers sampleServices).take 2 ++
    (.ofString "stores", .list ([] ++ .map (Document.ofMembers sampleService) :: [])) :: [] := rfl
  refine .listed nofun hs ?_ nofun rfl ⟨_, rfl, rfl⟩
  intro label items he other ho
  obtain ⟨rfl, rfl⟩ : label = .ofString "tasks" ∧
      items = [.text (.ofString "tasks"), .map [(.ofString "name", .text (.ofString "other"))]] := by
    simpa [sampleServices, Document.ofMembers, Document.ofValue, Document.ofItems] using he
  obtain rfl : other = [(.ofString "name", .text (.ofString "other"))] := by simpa using ho
  simp [Titled, Script.ofString_injective.eq_iff]

theorem obtain_of_bound_listed :
    (obtain (fun _ => .ok ⟨"token", .text "demo"⟩) (some "tasks")
      (some (write .ascii (.map sampleServices)))).loads = [⟨Document.ofMembers sampleInfo, [scope]⟩] ∧
    (obtain (fun _ => .ok ⟨"token", .text "demo"⟩) (some "tasks")
      (some (write .ascii (.map sampleServices)))).result = .ok ⟨"token", .text "demo"⟩ := by
  obtain ⟨hloads, hresult⟩ := obtain_of_bound (fun _ => .ok ⟨"token", .text "demo"⟩) (by decide)
    faithful_sampleInfo writable_sampleServices spaced_ascii spaced_ascii bound_sampleServices
  exact ⟨hloads, hresult _ rfl⟩

end Obtaining

end TaskBoard.Proofs.Credentials

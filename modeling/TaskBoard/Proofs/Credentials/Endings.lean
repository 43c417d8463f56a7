import TaskBoard.Proofs.Credentials.Selection
import TaskBoard.Proofs.Json.Flaws

namespace TaskBoard.Proofs.Credentials.Endings

open TaskBoard.Credentials TaskBoard.Json TaskBoard.Number Proofs.Json Selection Outcome

def IsCredentials (f : Failure) : Prop := ∃ args, f.reason = .credentials args

def Decoded (name text : Option String) (n : String) (info : Members) : Prop :=
  ∃ services service key octets, name = some n ∧ n ≠ "" ∧ Json.read (text.getD "").toList = .ok (.map services) ∧
    First n services service ∧ Carries (.ofString key) service ∧ Text.Base64.decode key.toList = .ok octets ∧
      Json.readOctets octets = .ok (.map info)

/-- A service is asked for, and reading the services stops at a number of too many digits. -/
def Blocked (name text : Option String) : Prop := name.getD "" ≠ "" ∧ Overlong (text.getD "").toList

def loaded (n : String) (grant : Grant) : Log.Record :=
  ⟨logger, Log.info, "loaded datastore credentials for service " ++ n ++ " (project " ++ grant.project.plain ++ ")", {},
    .none⟩

section Steps

variable {n text : String} {key : Script} {services info : Members} {f : Failure}

lemma not_isCredentials_tooLong (count : ℕ) : ¬ IsCredentials (TaskId.tooLong count) := by
  rintro ⟨args, h⟩
  cases h

lemma services_ok (h : Credentials.services text = .ok services) : Json.read text.toList = .ok (.map services) := by
  rw [Credentials.services] at h
  split at h
  · rename_i hread
    rw [hread, Except.ok.inj h]
  · cases h
  · split at h <;> cases h

lemma not_overlong_of_read {v : Document} (h : Json.read text.toList = .ok v) : ¬ Overlong text.toList := by
  rintro ⟨count, left, hlong⟩
  rw [Json.read, hlong] at h
  cases h

lemma services_error (h : Credentials.services text = .error f) :
    IsCredentials f ∧ ¬ Overlong text.toList ∨ (∃ count, f = TaskId.tooLong count) ∧ Overlong text.toList := by
  rw [Credentials.services] at h
  cases hread : readChars text.toList with
  | ok v =>
    have hv : Json.read text.toList = .ok v := by rw [Json.read, hread]; rfl
    refine Or.inl ⟨?_, not_overlong_of_read hv⟩
    rw [hv] at h
    cases v <;> cases h <;> exact ⟨_, rfl⟩
  | error flaw =>
    have hflaw : Json.read text.toList = .error (flaw.failure text.toList) := by rw [Json.read, hread]; rfl
    rw [hflaw] at h
    obtain ⟨fault, left⟩ := flaw
    cases fault with
    | tooManyDigits count =>
      cases h
      exact Or.inr ⟨⟨count, rfl⟩, count, left, hread⟩
    | _ =>
      cases h
      refine Or.inl ⟨⟨_, rfl⟩, ?_⟩
      rintro ⟨count, left', hlong⟩
      cases hread.symm.trans hlong

lemma encodedKey_ok (h : encodedKey n services = .ok key) :
    ∃ service, First n services service ∧ Carries key service := by
  cases hc : candidates n services with
  | nil =>
    rw [encodedKey, hc] at h
    cases h
  | cons service rest =>
    have hfirst : First n services service := first_of_head? (by rw [hc]; rfl)
    simp only [encodedKey, hc] at h
    split at h
    · rename_i credentials hcred
      split at h
      · rename_i encoded hkey
        cases h
        exact ⟨service, hfirst, credentials, hcred, hkey⟩
      · cases h
    · cases h

lemma encodedKey_error (h : encodedKey n services = .error f) : IsCredentials f := by
  rw [encodedKey] at h
  split at h
  · cases h
    exact ⟨_, rfl⟩
  · split at h
    · split at h <;> cases h
      exact ⟨_, rfl⟩
    · cases h
      exact ⟨_, rfl⟩

lemma decodeBase64_ok {s : List Char} {octets : List UInt8} (h : decodeBase64 s = .ok octets) :
    Text.Base64.decode s = .ok octets := by
  rw [decodeBase64] at h
  split at h
  · cases h
  · split at h
    · rename_i hd
      rw [hd, Except.ok.inj h]
    · cases h

lemma chars?_eq_some {s : Script} {chars : List Char} (h : s.chars? = some chars) : s = .ofChars chars := by
  induction s generalizing chars with
  | nil =>
    cases h
    rfl
  | cons p s ih =>
    obtain ⟨c, hc, h⟩ := Option.bind_eq_some_iff.mp ((List.mapM_cons ..).symm.trans h)
    obtain ⟨rest, hrest, h⟩ := Option.bind_eq_some_iff.mp h
    cases h
    cases p <;> cases hc
    rw [ih hrest]
    rfl

lemma keyDocument_ok (h : keyDocument key = .ok info) : ∃ (text : String) (octets : List UInt8),
    key = .ofString text ∧ Text.Base64.decode text.toList = .ok octets ∧ Json.readOctets octets = .ok (.map info) := by
  rw [keyDocument] at h
  split at h
  · rename_i hdoc
    cases h
    obtain ⟨octets, hoctets, hread⟩ := bind_eq_ok.mp hdoc
    rw [decodeScript] at hoctets
    split at hoctets
    · rename_i chars hchars
      refine ⟨String.ofList chars, octets, ?_, ?_, hread⟩
      · rw [chars?_eq_some hchars, Script.ofString, String.toList_ofList]
      · rw [String.toList_ofList]
        exact decodeBase64_ok hoctets
    · cases hoctets
  · cases h
  · cases h

lemma keyDocument_of_read {octets : List UInt8} (hd : Text.Base64.decode text.toList = .ok octets)
    (hread : Json.readOctets octets = .ok (.map info)) : keyDocument (.ofString text) = .ok info := by
  have hascii : isAscii text.toList = true := by
    rw [isAscii, List.all_eq_true]
    exact fun c hc => decide_eq_true (Octets.Base64.lt_of_decode hd c hc)
  have hoctets : decodeScript (.ofString text) = .ok octets := by
    rw [decodeScript, Script.ofString, Script.chars?_ofChars]
    simp only [decodeBase64, hascii, hd]
    rfl
  have hdoc : (decodeScript (.ofString text) >>= Json.readOctets) = .ok (.map info) :=
    bind_eq_ok.mpr ⟨octets, hoctets, hread⟩
  simp only [keyDocument, hdoc]

lemma keyDocument_error (h : keyDocument key = .error f) : IsCredentials f := by
  rw [keyDocument] at h
  split at h <;> cases h <;> exact ⟨_, rfl⟩

end Steps

section Attempts

variable {name text : Option String} {n : String} {info : Members} {f : Failure} {loader : Loader}

lemma find_ok (h : find name text = .ok (n, info)) : Decoded name text n info ∧ ¬ Blocked name text := by
  rw [find] at h
  split at h
  · cases h
  · rename_i hname
    obtain ⟨services, hservices, h⟩ := bind_eq_ok.mp h
    obtain ⟨key, hkey, h⟩ := bind_eq_ok.mp h
    obtain ⟨_, hdoc, h⟩ := bind_eq_ok.mp h
    cases h
    have hread := services_ok hservices
    obtain ⟨service, hfirst, hcarries⟩ := encodedKey_ok hkey
    obtain ⟨key, octets, rfl, hd, hinfo⟩ := keyDocument_ok hdoc
    refine ⟨⟨services, service, key, octets, ?_, by simpa using hname, hread, hfirst, hcarries, hd, hinfo⟩, ?_⟩
    · cases name with
      | none => exact absurd rfl hname
      | some n => rfl
    · exact fun hblocked => not_overlong_of_read hread hblocked.2

lemma find_of_decoded (h : Decoded name text n info) : find name text = .ok (n, info) := by
  obtain ⟨services, service, key, octets, rfl, hn, hread, hfirst, hcarries, hd, hinfo⟩ := h
  have hservices : Credentials.services (text.getD "") = .ok services := by rw [Credentials.services, hread]
  simp only [find, Option.getD_some]
  rw [if_neg (by simpa using hn)]
  refine bind_eq_ok.mpr ⟨services, hservices, bind_eq_ok.mpr ⟨_, encodedKey_of_carries hfirst hcarries, ?_⟩⟩
  exact bind_eq_ok.mpr ⟨info, keyDocument_of_read hd hinfo, rfl⟩

lemma find_eq_ok_iff : find name text = .ok (n, info) ↔ Decoded name text n info :=
  ⟨fun h => (find_ok h).1, find_of_decoded⟩

lemma find_error (h : find name text = .error f) :
    IsCredentials f ∧ ¬ Blocked name text ∨ (∃ count, f = TaskId.tooLong count) ∧ Blocked name text := by
  rw [find] at h
  split at h
  · rename_i hname
    cases h
    exact Or.inl ⟨⟨_, rfl⟩, fun hblocked => hblocked.1 (by simpa using hname)⟩
  · rename_i hname
    rcases bind_eq_error.mp h with h | ⟨services, hservices, h⟩
    · rcases services_error h with ⟨hcred, hshort⟩ | ⟨hlong, hover⟩
      · exact Or.inl ⟨hcred, fun hblocked => hshort hblocked.2⟩
      · exact Or.inr ⟨hlong, by simpa using hname, hover⟩
    · have hshort := not_overlong_of_read (services_ok hservices)
      refine Or.inl ⟨?_, fun hblocked => hshort hblocked.2⟩
      rcases bind_eq_error.mp h with h | ⟨key, -, h⟩
      · exact encodedKey_error h
      · rcases bind_eq_error.mp h with h | ⟨_, -, h⟩
        · exact keyDocument_error h
        · cases h

lemma loaderFailure_isCredentials (h : f.isAuth = true ∨ f.isValue = true) : IsCredentials (loaderFailure f) := by
  rw [loaderFailure, if_pos (by simpa using h)]
  exact ⟨_, rfl⟩

inductive Ends (loader : Loader) (name text : Option String) : Attempt → Prop
  | granted {n : String} {info : Members} {grant : Grant} (h : Decoded name text n info)
    (hl : loader info = .ok grant) : Ends loader name text ⟨.ok grant, [⟨info, [scope]⟩], [loaded n grant]⟩
  | refused {n : String} {info : Members} {f : Failure} (h : Decoded name text n info)
    (hf : IsCredentials f) : Ends loader name text ⟨.error f, [⟨info, [scope]⟩], []⟩
  | unfound {f : Failure} (h : IsCredentials f) : Ends loader name text ⟨.error f, [], []⟩
  | blocked {count : ℕ} (h : Blocked name text) : Ends loader name text ⟨.error (TaskId.tooLong count), [], []⟩

lemma obtain_of_find_error (h : find name text = .error f) : obtain loader name text = ⟨.error f, [], []⟩ := by
  simp only [Credentials.obtain, h]

lemma obtain_of_find_ok (h : find name text = .ok (n, info)) : obtain loader name text =
    match loader info with
    | .ok grant => ⟨.ok grant, [⟨info, [scope]⟩], [loaded n grant]⟩
    | .error f => ⟨.error (loaderFailure f), [⟨info, [scope]⟩], []⟩ := by
  simp only [Credentials.obtain, h]
  cases loader info <;> rfl

variable (hloader : ∀ info f, loader info = .error f → f.isAuth = true ∨ f.isValue = true)

include hloader in
lemma ends_obtain (name text : Option String) : Ends loader name text (obtain loader name text) := by
  cases hfind : find name text with
  | error f =>
    rw [obtain_of_find_error hfind]
    rcases find_error hfind with ⟨hcred, -⟩ | ⟨⟨count, rfl⟩, hblocked⟩
    · exact .unfound hcred
    · exact .blocked hblocked
  | ok found =>
    obtain ⟨n, info⟩ := found
    obtain ⟨hdecoded, -⟩ := find_ok hfind
    rw [obtain_of_find_ok hfind]
    cases hl : loader info with
    | ok grant => exact .granted hdecoded hl
    | error f => exact .refused hdecoded (loaderFailure_isCredentials (hloader info f hl))

lemma blocked_of_ends {attempt : Attempt} (h : Ends loader name text attempt) (hf : attempt.result = .error f)
    (hcred : ¬ IsCredentials f) : Blocked name text := by
  cases h with
  | granted h hl => cases hf
  | refused h hcred' =>
    cases hf
    exact absurd hcred' hcred
  | unfound hcred' =>
    cases hf
    exact absurd hcred' hcred
  | blocked h => exact h

lemma result_of_blocked (loader : Loader) (h : Blocked name text) :
    ∃ count, (obtain loader name text).result = .error (TaskId.tooLong count) := by
  cases hfind : find name text with
  | ok found =>
    obtain ⟨n, info⟩ := found
    exact absurd h (find_ok hfind).2
  | error f =>
    rw [obtain_of_find_error hfind]
    rcases find_error hfind with ⟨-, hfree⟩ | ⟨⟨count, rfl⟩, -⟩
    · exact absurd h hfree
    · exact ⟨count, rfl⟩

/--
With a loader that raises its own failures or unusable values, an attempt grants what the loader does or fails for
the credentials. Just where reading the services stops at a number that is too long, it fails with that; such a text
has more digits in a row than are turned into a number.
-/
theorem attempt_ends (hloader : ∀ info f, loader info = .error f → f.isAuth = true ∨ f.isValue = true)
    (name text : Option String) : Ends loader name text (obtain loader name text) ∧
      ((∃ f, (obtain loader name text).result = .error f ∧ ¬ IsCredentials f) ↔ Blocked name text) ∧
        (Blocked name text → Crowded (text.getD "").toList) := by
  have hends := ends_obtain hloader name text
  refine ⟨hends, ⟨?_, fun hblocked => ?_⟩, fun hblocked => crowded_of_overlong hblocked.2⟩
  · rintro ⟨f, hf, hcred⟩
    exact blocked_of_ends hends hf hcred
  · obtain ⟨count, hresult⟩ := result_of_blocked loader hblocked
    exact ⟨_, hresult, not_isCredentials_tooLong count⟩

def noAccount : Failure := .ofReason (.auth .malformed [.text "no service account"])

def ones : String := String.ofList (List.replicate (digitLimit + 1) '1')

lemma blocked_ones : Blocked (some "tasks") (some ones) := by
  refine ⟨by simp, ?_⟩
  rw [Option.getD_some, ones, String.toList_ofList]
  exact overlong_replicate (Nat.lt_succ_self digitLimit)

theorem attempt_ends_ones : (∀ info f, (fun _ => .error noAccount : Loader) info = .error f →
      f.isAuth = true ∨ f.isValue = true) ∧ Blocked (some "tasks") (some ones) ∧
    ∃ f, (obtain (fun _ => .error noAccount) (some "tasks") (some ones)).result = .error f ∧ ¬ IsCredentials f := by
  have hloader : ∀ info f, (fun _ => .error noAccount : Loader) info = .error f →
      f.isAuth = true ∨ f.isValue = true := by
    rintro info f ⟨⟩
    exact Or.inl rfl
  obtain ⟨-, hiff, -⟩ := attempt_ends hloader (some "tasks") (some ones)
  exact ⟨hloader, blocked_ones, hiff.mpr blocked_ones⟩

theorem not_always_credentials : ¬ ∀ (loader : Loader) (name text : Option String),
    (∀ info f, loader info = .error f → f.isAuth = true ∨ f.isValue = true) →
      ∀ f, (obtain loader name text).result = .error f → IsCredentials f := by
  intro h
  obtain ⟨count, hresult⟩ := result_of_blocked (fun _ => .ok ⟨"token", .text "demo"⟩) blocked_ones
  have hcred := h (fun _ => .ok ⟨"token", .text "demo"⟩) (some "tasks") (some ones) (by simp) _ hresult
  exact not_isCredentials_tooLong count hcred

end Attempts

end TaskBoard.Proofs.Credentials.Endings

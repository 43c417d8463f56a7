import TaskBoard.Proofs.Entries
import TaskBoard.Proofs.Json.Floats
import TaskBoard.Proofs.Json.Texts
import TaskBoard.Proofs.Octets.Utf8
import TaskBoard.Proofs.Outcome

namespace TaskBoard.Proofs.Json

open TaskBoard.Json TaskBoard.Number Proofs.Entries Decimals Outcome

/-- Values that JSON has a form of their own for. -/
inductive Faithful : Value → Prop
  | null : Faithful .null
  | bool (b : Bool) : Faithful (.bool b)
  | int {n : ℤ} (h : (digits n.natAbs).length ≤ digitLimit) : Faithful (.int n)
  | text (s : String) : Faithful (.text s)
  | list {items : List Value} (h : ∀ v ∈ items, Faithful v) : Faithful (.list items)
  | map {members : List (String × Value)} (hn : (keys members).Nodup) (h : ∀ e ∈ members, Faithful e.2) :
      Faithful (.map members)

/-- Floating-point numbers have texts too, but other numbers of their kind may be read from them. -/
inductive Writable : Value → Prop
  | null : Writable .null
  | bool (b : Bool) : Writable (.bool b)
  | int {n : ℤ} (h : (digits n.natAbs).length ≤ digitLimit) : Writable (.int n)
  | float (x : Binary64) : Writable (.float x)
  | text (s : String) : Writable (.text s)
  | list {items : List Value} (h : ∀ v ∈ items, Writable v) : Writable (.list items)
  | map {members : List (String × Value)} (hn : (keys members).Nodup) (h : ∀ e ∈ members, Writable e.2) :
      Writable (.map members)

section Floats

variable {f : Binary64 → Binary64}

mutual

def mapFloats (f : Binary64 → Binary64) : Document → Document
  | .float x => .float (f x)
  | .list items => .list (mapFloatsItems f items)
  | .map members => .map (mapFloatsMembers f members)
  | v => v

def mapFloatsItems (f : Binary64 → Binary64) : List Document → List Document
  | [] => []
  | v :: items => mapFloats f v :: mapFloatsItems f items

def mapFloatsMembers (f : Binary64 → Binary64) : Members → Members
  | [] => []
  | (key, v) :: members => (key, mapFloats f v) :: mapFloatsMembers f members

end

lemma mapFloats_list (items : List Document) : mapFloats f (.list items) = .list (items.map (mapFloats f)) := by
  rw [mapFloats]
  congr 1
  induction items with
  | nil => rw [mapFloatsItems, List.map_nil]
  | cons v items ih => rw [mapFloatsItems, ih, List.map_cons]

lemma mapFloats_map (members : Members) :
    mapFloats f (.map members) = .map (members.map (Prod.map id (mapFloats f))) := by
  rw [mapFloats]
  congr 1
  induction members with
  | nil => rw [mapFloatsMembers, List.map_nil]
  | cons e members ih => rw [mapFloatsMembers, ih, List.map_cons, Prod.map, id]

def floated (f : Binary64 → Binary64) (v : Value) : Document := mapFloats f (.ofValue v)

lemma floated_list (items : List Value) : floated f (.list items) = .list (items.map (floated f)) := by
  rw [floated, Document.ofValue_list, mapFloats_list, List.map_map]
  rfl

lemma floated_map (members : List (String × Value)) :
    floated f (.map members) = .map (members.map (Prod.map Script.ofString (floated f))) := by
  rw [floated, Document.ofValue, Document.ofMembers_eq_map, mapFloats_map, List.map_map]
  rfl

lemma floated_of_faithful {v : Value} (h : Faithful v) : floated f v = .ofValue v := by
  induction h with
  | null => rfl
  | bool b => rfl
  | int h => rfl
  | text s => rfl
  | @list items h ih => rw [floated_list, List.map_congr_left ih, Document.ofValue_list]
  | @map members hn h ih =>
    rw [floated_map, Document.ofValue, Document.ofMembers_eq_map]
    congr 1
    exact List.map_congr_left fun e he => Prod.ext rfl (ih e he)

lemma Faithful.writable {v : Value} (h : Faithful v) : Writable v := by
  induction h with
  | null => exact .null
  | bool b => exact .bool b
  | int h => exact .int h
  | text s => exact .text s
  | list h ih => exact .list ih
  | map hn h ih => exact .map hn ih

end Floats

def Opens (s : List Char) : Prop := ∃ c cs, s = c :: cs ∧ isSpace c = false ∧ c ∉ [']', '\x7d', '\uFEFF']

lemma Opens.append {s : List Char} (h : Opens s) (rest : List Char) : Opens (s ++ rest) := by
  obtain ⟨c, cs, rfl, hc⟩ := h
  exact ⟨c, cs ++ rest, rfl, hc⟩

lemma Opens.pos {s : List Char} (h : Opens s) : 0 < s.length := by
  obtain ⟨c, cs, rfl, -⟩ := h
  exact Nat.succ_pos _

def Blank (gap : List Char) : Prop := ∀ c ∈ gap, isSpace c = true

lemma blank_nil : Blank [] := fun _ h => nomatch h

structure Spaced (layout : Layout) : Prop where
  comma : Blank layout.afterComma
  colon : Blank layout.afterColon

lemma spaced_compact : Spaced .compact := ⟨blank_nil, blank_nil⟩

lemma spaced_spaced : Spaced .spaced :=
  ⟨by simp [Blank, Layout.spaced, isSpace], by simp [Blank, Layout.spaced, isSpace]⟩

lemma spaced_ascii : Spaced .ascii := ⟨by simp [Blank, Layout.ascii, isSpace], by simp [Blank, Layout.ascii, isSpace]⟩

lemma skipSpace_opens {gap s : List Char} (hg : Blank gap) (hs : Opens s) : skipSpace (gap ++ s) = s := by
  obtain ⟨c, cs, rfl, hc, -⟩ := hs
  rw [skipSpace, List.dropWhile_append_of_pos hg, List.dropWhile_cons_of_neg (by simp [hc])]

lemma skipSpace_self {s : List Char} (hs : Opens s) : skipSpace s = s := (skipSpace_opens blank_nil hs :)

lemma opens_text (s : List Char) : Opens ('"' :: s) := ⟨'"', s, rfl, by decide⟩

section Starts

def Begins (s : List Char) : Prop := ∃ c cs, s = c :: cs ∧ (isDigit c = true ∨ c ∈ ['-', 'N', 'I', 'n', 't', 'f'])

lemma begins_signed (n : ℤ) : Begins (signed n) := by
  cases n with
  | ofNat n =>
    obtain ⟨d, ds, h, hd⟩ := exists_digits n
    exact ⟨d, ds, h, Or.inl hd⟩
  | negSucc n => exact ⟨'-', digits (n + 1), rfl, Or.inr (by decide)⟩

lemma begins_floatChars (x : Binary64) : Begins (floatChars x) := by
  cases x with
  | nan => exact ⟨'N', _, rfl, Or.inr (by decide)⟩
  | infinite negative => cases negative <;> exact ⟨_, _, rfl, Or.inr (by decide)⟩
  | finite negative m e =>
    obtain ⟨text, n, k, hd, hchars⟩ := exists_decimal_chars negative m e
    obtain ⟨d, ds, rfl, hdigit⟩ := hd.head
    change Begins (Binary64.finite negative m e).chars
    rw [hchars]
    cases negative
    · exact ⟨d, ds, rfl, Or.inl hdigit⟩
    · exact ⟨'-', d :: ds, rfl, Or.inr (by decide)⟩

lemma ne_of_begins {c d : Char} (hc : isDigit c = true ∨ c ∈ ['-', 'N', 'I', 'n', 't', 'f'])
    (hd : isDigit d = false ∧ d ∉ ['-', 'N', 'I', 'n', 't', 'f']) : c ≠ d := by
  rcases hc with hc | hc
  · exact ne_of_isDigit hc hd.1
  · rintro rfl
    exact hd.2 hc

lemma Begins.opens {s : List Char} (h : Begins s) : Opens s := by
  obtain ⟨c, cs, rfl, hc⟩ := h
  have hne {d : Char} (hd : isDigit d = false ∧ d ∉ ['-', 'N', 'I', 'n', 't', 'f']) : c ≠ d := ne_of_begins hc hd
  refine ⟨c, cs, rfl, ?_, ?_⟩
  · simp [isSpace, hne (by decide : _ ∧ ' ' ∉ _), hne (by decide : _ ∧ '\t' ∉ _), hne (by decide : _ ∧ '\n' ∉ _),
      hne (by decide : _ ∧ '\r' ∉ _)]
  · simp [hne (by decide : _ ∧ ']' ∉ _), hne (by decide : _ ∧ '\x7d' ∉ _), hne (by decide : _ ∧ '\uFEFF' ∉ _)]

lemma readValue_begins {s : List Char} (h : Begins s) (f : ℕ) (rest : List Char) :
    readValue (f + 1) (s ++ rest) = readWordOrNumber (s ++ rest) := by
  obtain ⟨c, cs, rfl, hc⟩ := h
  rw [List.cons_append, readValue]
  · rintro _ ⟨⟩
    exact ne_of_begins hc (by decide) rfl
  · rintro _ ⟨⟩
    exact ne_of_begins hc (by decide) rfl
  · rintro _ ⟨⟩
    exact ne_of_begins hc (by decide) rfl

lemma opens_chars {layout : Layout} {v : Value} (h : Writable v) : Opens (chars layout v) := by
  cases h with
  | null => exact ⟨'n', _, rfl, by decide⟩
  | bool b =>
    cases b
    · exact ⟨'f', _, rfl, by decide⟩
    · exact ⟨'t', _, rfl, by decide⟩
  | @int n h =>
    rw [chars]
    exact (begins_signed n).opens
  | float x =>
    rw [chars]
    exact (begins_floatChars x).opens
  | text s =>
    rw [chars]
    exact opens_text _
  | @list items h =>
    cases items
    · exact ⟨'[', _, rfl, by decide⟩
    · exact ⟨'[', _, by rw [chars]; rfl, by decide⟩
  | @map members hn h =>
    cases members
    · exact ⟨'\x7b', _, rfl, by decide⟩
    · exact ⟨'\x7b', _, by rw [chars]; rfl, by decide⟩

end Starts

section Steps

variable {f : ℕ} {s gap inner later left : List Char} {key : Script} {v : Document} {items : List Document}
  {members : Members}

lemma readValue_list (hi : Opens inner) (h : readItems f inner = .ok (items, left)) :
    readValue (f + 1) ('[' :: inner) = .ok (.list items, left) := by
  have hskip := skipSpace_self hi
  obtain ⟨c, cs, rfl, -, hc⟩ := hi
  rw [readValue, hskip]
  split
  · rename_i heq
    exact absurd (List.cons.inj heq).1 (by rintro rfl; exact hc (by decide))
  · exact bind_eq_ok.mpr ⟨_, h, rfl⟩

lemma readItems_last (h : readValue f s = .ok (v, ']' :: left)) : readItems (f + 1) s = .ok ([v], left) := by
  rw [readItems]
  exact bind_eq_ok.mpr ⟨_, h, rfl⟩

lemma readItems_next (h : readValue f s = .ok (v, ',' :: (gap ++ later))) (hg : Blank gap) (ho : Opens later)
    (hl : readItems f later = .ok (items, left)) : readItems (f + 1) s = .ok (v :: items, left) := by
  rw [← skipSpace_opens hg ho] at hl
  rw [readItems]
  exact bind_eq_ok.mpr ⟨_, h, bind_eq_ok.mpr ⟨_, hl, rfl⟩⟩

lemma readValue_map (h : readMembers f ('"' :: inner) = .ok (members, left)) :
    readValue (f + 1) ('{' :: '"' :: inner) = .ok (.map (TaskBoard.Entries.assignAll members), left) := by
  rw [readValue, skipSpace_self (opens_text inner)]
  exact bind_eq_ok.mpr ⟨_, h, rfl⟩

variable (hk : readText inner = .ok (key, ':' :: (gap ++ s))) (hg : Blank gap) (ho : Opens s)

include hk hg ho

lemma readMembers_last (h : readValue f s = .ok (v, '}' :: left)) :
    readMembers (f + 1) ('"' :: inner) = .ok ([(key, v)], left) := by
  rw [← skipSpace_opens hg ho] at h
  rw [readMembers]
  exact bind_eq_ok.mpr ⟨_, hk, bind_eq_ok.mpr ⟨_, h, rfl⟩⟩

lemma readMembers_next {gap' : List Char} (h : readValue f s = .ok (v, ',' :: (gap' ++ later))) (hg' : Blank gap')
    (ho' : Opens later) (hl : readMembers f later = .ok (members, left)) :
    readMembers (f + 1) ('"' :: inner) = .ok ((key, v) :: members, left) := by
  rw [← skipSpace_opens hg ho] at h
  rw [← skipSpace_opens hg' ho'] at hl
  rw [readMembers]
  exact bind_eq_ok.mpr ⟨_, hk, bind_eq_ok.mpr ⟨_, h, bind_eq_ok.mpr ⟨_, hl, rfl⟩⟩⟩

end Steps

section Values

variable {layout : Layout}

/--
Of what was written as one value the reader makes the other. Behind the value nothing is consumed, and as many steps
as it has characters are enough.
-/
def Reads (layout : Layout) (v : Value) (w : Document) : Prop :=
  ∀ (fuel : ℕ) (rest : List Char), (chars layout v).length ≤ fuel →
    Closed rest → readValue fuel (chars layout v ++ rest) = .ok (w, rest)

lemma closed_itemChars (items : List Value) (rest : List Char) : Closed (itemChars layout items ++ rest) := by
  cases items <;> rw [itemChars] <;> exact closed_cons (by decide) _

lemma closed_memberChars (members : List (String × Value)) (rest : List Char) :
    Closed (memberChars layout members ++ rest) := by
  rcases members with _ | ⟨⟨key, v⟩, members⟩ <;> rw [memberChars] <;> exact closed_cons (by decide) _

lemma readItems_chars (hl : Spaced layout) {g : Value → Document} {v : Value} {items : List Value}
    (hv : ∀ w ∈ v :: items, Writable w) (hr : ∀ w ∈ v :: items, Reads layout w (g w)) {fuel : ℕ} (rest : List Char)
    (hf : (chars layout v).length + (itemChars layout items).length ≤ fuel) :
    readItems fuel (chars layout v ++ (itemChars layout items ++ rest)) = .ok ((v :: items).map g, rest) := by
  have hnow := hr v List.mem_cons_self
  -- The first item stands apart, for no comma comes before it: the induction is on those behind it.
  induction items generalizing v fuel with
  | nil =>
    rw [itemChars, List.length_singleton] at hf
    obtain ⟨f, rfl⟩ := Nat.exists_eq_add_one.mpr (by omega : 0 < fuel)
    rw [itemChars]
    exact readItems_last (hnow f _ (by omega) (closed_cons (by decide) rest))
  | cons w items ih =>
    have hc : Closed (itemChars layout (w :: items) ++ rest) := closed_itemChars _ _
    rw [itemChars] at hf hc ⊢
    simp only [List.length_append, List.length_cons] at hf
    simp only [List.cons_append, List.append_assoc] at hc ⊢
    obtain ⟨f, rfl⟩ := Nat.exists_eq_add_one.mpr (by omega : 0 < fuel)
    have hlater := ih (fun u hu => hv u (List.mem_cons_of_mem v hu)) (fun u hu => hr u (List.mem_cons_of_mem v hu))
      (by omega : _ ≤ f) (hr w (by simp))
    exact readItems_next (hnow f _ (by omega) hc) hl.comma ((opens_chars (hv w (by simp))).append _) hlater

lemma readMembers_chars (hl : Spaced layout) {g : Value → Document} {key : String} {v : Value}
    {members : List (String × Value)} (hv : ∀ e ∈ (key, v) :: members, Writable e.2)
    (hr : ∀ e ∈ (key, v) :: members, Reads layout e.2 (g e.2)) {fuel : ℕ} (rest : List Char)
    (hf : (chars layout v).length + (memberChars layout members).length ≤ fuel) :
    readMembers fuel (textChars layout key.toList ++
      (':' :: (layout.afterColon ++ (chars layout v ++ (memberChars layout members ++ rest))))) =
        .ok (((key, v) :: members).map (Prod.map Script.ofString g), rest) := by
  have hnow : Reads layout v (g v) := hr _ List.mem_cons_self
  have ho : Opens (chars layout v) := opens_chars (hv _ List.mem_cons_self)
  rw [textChars_append]
  induction members generalizing key v fuel with
  | nil =>
    rw [memberChars, List.length_singleton] at hf
    obtain ⟨f, rfl⟩ := Nat.exists_eq_add_one.mpr (by omega : 0 < fuel)
    rw [memberChars]
    exact readMembers_last (readText_textChars layout key _) hl.colon (ho.append _)
      (hnow f _ (by omega) (closed_cons (by decide) rest))
  | cons e members ih =>
    obtain ⟨key', w⟩ := e
    have hc : Closed (memberChars layout ((key', w) :: members) ++ rest) := closed_memberChars _ _
    rw [memberChars] at hf hc ⊢
    simp only [List.length_append, List.length_cons] at hf
    simp only [List.cons_append, List.append_assoc] at hc ⊢
    obtain ⟨f, rfl⟩ := Nat.exists_eq_add_one.mpr (by omega : 0 < fuel)
    have hlater := ih (fun u hu => hv u (List.mem_cons_of_mem _ hu)) (fun u hu => hr u (List.mem_cons_of_mem _ hu))
      (by omega : _ ≤ f) (hr (key', w) (by simp)) (opens_chars (hv (key', w) (by simp)))
    refine readMembers_next (readText_textChars layout key _) hl.colon (ho.append _) (hnow f _ (by omega) hc) hl.comma
      (opens_text _) ?_
    rwa [textChars_append]

lemma reads_of_succ {v : Value} {w : Document} (hv : Writable v) (h : ∀ (f : ℕ) (rest : List Char),
    (chars layout v).length ≤ f + 1 → Closed rest → readValue (f + 1) (chars layout v ++ rest) = .ok (w, rest)) :
    Reads layout v w := by
  intro fuel rest hf hc
  obtain ⟨f, rfl⟩ := Nat.exists_eq_add_one.mpr ((opens_chars hv).pos.trans_le hf)
  exact h f rest hf hc

lemma reads_of_begins {v : Value} {w : Document} (hv : Writable v) (hb : Begins (chars layout v))
    (h : ∀ rest, Closed rest → readWordOrNumber (chars layout v ++ rest) = .ok (w, rest)) : Reads layout v w :=
  reads_of_succ hv fun f rest _ hc => (readValue_begins hb f rest).trans (h rest hc)

lemma reads_text (s : String) : Reads layout (.text s) (.text (.ofString s)) := by
  refine reads_of_succ (.text s) fun f rest _ _ => ?_
  rw [chars, textChars_append, readValue]
  exact bind_eq_ok.mpr ⟨_, readText_textChars layout s rest, rfl⟩

def ReadsFloats (f : Binary64 → Binary64) : Prop := ∀ (x : Binary64) (rest : List Char), Closed rest →
  readWordOrNumber (floatChars x ++ rest) = .ok (.float (f x), rest)

lemma exists_readsFloats : ∃ f, ReadsFloats f := by
  choose f hf using exists_readFloat
  exact ⟨f, hf⟩

variable {f : Binary64 → Binary64}

theorem reads_of_writable (hl : Spaced layout) (hfloats : ReadsFloats f) {v : Value} (h : Writable v) :
    Reads layout v (floated f v) := by
  induction h with
  | null =>
    refine reads_of_begins .null ⟨'n', _, rfl, Or.inr (by decide)⟩ fun rest _ => ?_
    simp [chars, readWordOrNumber, words, floated, Document.ofValue, mapFloats]
  | bool b =>
    have hb : Begins (chars layout (.bool b)) := by cases b <;> exact ⟨_, _, rfl, Or.inr (by decide)⟩
    refine reads_of_begins (.bool b) hb fun rest _ => ?_
    cases b <;> simp [chars, readWordOrNumber, words, floated, Document.ofValue, mapFloats]
  | @int n h =>
    refine reads_of_begins (.int h) ?_ fun rest hc => ?_
    · rw [chars]
      exact begins_signed n
    · rw [chars]
      exact readWordOrNumber_signed h hc
  | float x =>
    refine reads_of_begins (.float x) ?_ fun rest hc => ?_
    · rw [chars]
      exact begins_floatChars x
    · rw [chars]
      exact hfloats x rest hc
  | text s => exact reads_text s
  | @list items h ih =>
    rw [floated_list]
    refine reads_of_succ (.list h) fun f rest hf _ => ?_
    rcases items with _ | ⟨v, items⟩
    · rfl
    · rw [chars] at hf ⊢
      simp only [List.length_append, List.length_cons] at hf
      simp only [List.cons_append, List.append_assoc]
      exact readValue_list ((opens_chars (h v List.mem_cons_self)).append _)
        (readItems_chars hl h ih rest (by omega))
  | @map members hn h ih =>
    rw [floated_map]
    refine reads_of_succ (.map hn h) fun g rest hf _ => ?_
    rcases members with _ | ⟨⟨key, v⟩, members⟩
    · rfl
    · rw [chars] at hf ⊢
      simp only [List.length_append, List.length_cons] at hf
      have hm := readMembers_chars hl h ih rest (by omega : _ ≤ g)
      simp only [List.cons_append, List.append_assoc] at hm ⊢
      rw [textChars_append] at hm ⊢
      have hkeys : keys (((key, v) :: members).map (Prod.map Script.ofString (floated f))) =
          (keys ((key, v) :: members)).map Script.ofString := by
        simp [keys]
      rw [readValue_map hm, assignAll_of_nodup (hkeys ▸ hn.map Script.ofString_injective)]

theorem readDocument_chars (hl : Spaced layout) (hfloats : ReadsFloats f) {v : Value} (h : Writable v) :
    readDocument (chars layout v) = .ok (floated f v) := by
  have hv := reads_of_writable hl hfloats h (2 * (chars layout v).length + 2) [] (by omega) closed_nil
  rw [readDocument, skipSpace_self (opens_chars h)]
  exact bind_eq_ok.mpr ⟨_, by simpa using hv, rfl⟩

lemma head?_chars_ne {v : Value} (h : Writable v) : ((chars layout v).head? == some '\uFEFF') = false := by
  have ho : Opens (chars layout v) := opens_chars h
  obtain ⟨c, cs, hs, -, hc⟩ := ho
  rw [hs, List.head?_cons, beq_eq_false_iff_ne]
  rintro ⟨⟩
  exact hc (by decide)

theorem read_chars_writable (hl : Spaced layout) (hfloats : ReadsFloats f) {v : Value} (h : Writable v) :
    Json.read (chars layout v) = .ok (floated f v) := by
  rw [Json.read, readChars, head?_chars_ne h]
  simp [readDocument_chars hl hfloats h, orFailure]

theorem read_chars (hl : Spaced layout) {v : Value} (h : Faithful v) :
    Json.read (chars layout v) = .ok (.ofValue v) := by
  obtain ⟨f, hf⟩ := exists_readsFloats
  rw [read_chars_writable hl hf h.writable, floated_of_faithful h]

theorem readOctets_map (hl : Spaced layout) {members : List (String × Value)} (h : Faithful (.map members)) :
    readOctets (Text.Utf8.encode (write layout (.map members))) = .ok (.map (Document.ofMembers members)) := by
  obtain ⟨f, hf⟩ := exists_readsFloats
  have hdoc := readDocument_chars hl hf h.writable
  rw [floated_of_faithful h] at hdoc
  have hs : ∃ b, (b = '"' ∨ b = '\x7d') ∧ ∃ s, chars layout (.map members) = '\x7b' :: b :: s := by
    rcases members with _ | ⟨⟨key, v⟩, members⟩
    · exact ⟨'\x7d', .inr rfl, [], rfl⟩
    · exact ⟨'"', .inl rfl, _, by rw [chars, textChars]; rfl⟩
  obtain ⟨b, hb, s, hs⟩ := hs
  rw [readOctets, Text.Utf8.encode, write, String.toList_ofList, hs,
    Proofs.Octets.Utf8.decodeDocument_encodeChars hb, ← hs]
  simp [hdoc, orFailure, Document.ofValue]

end Values

end TaskBoard.Proofs.Json

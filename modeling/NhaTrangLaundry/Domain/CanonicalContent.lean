import NhaTrangLaundry.Domain.CanonicalForm
import NhaTrangLaundry.Lib.JsonBytes
import NhaTrangLaundry.Lib.JsonContent

/-! What a canonical document says: its bytes name the normalised content of the value that it
was made from. -/

namespace NhaTrangLaundry.Domain.Canonical

open Lib Catalog Outcome

-- Batteries has a second instance, which the whole of Mathlib would choose here.
local instance decEqBytes : DecidableEq ByteArray := ByteArray.instDecidableEq

/-- `canonical_document_from_bytes`, over the decoders of encodings other than UTF-8. -/
def documentFromBytes [Unicodedata] (decode : Json.Encoding → ByteArray → Option String)
    (payload : ByteArray) : Except PyException CanonicalDocument :=
  match Json.loadsBytes decode payload with
  | none => .error (.canonicalizationError "stored snapshot is not JSON")
  | some parsed => do
    let rebuilt ← canonicalDocument (.json parsed) false
    if rebuilt.canonicalJson.toByteArray = payload then .ok rebuilt
    else .error (.canonicalizationError "stored snapshot bytes are not canonical")

section

variable [Unicodedata]

def held (excludeVolatile : Bool) (items : List (String × Content)) (name : String) :
    Option Content :=
  if excludeVolatile = true ∧ name ∈ volatileHashFields then none else items.lookup name

mutual

/-- The content of a value read by `json.loads`, with its texts in normal form. -/
def plainNormal (excludeVolatile : Bool) : Json → Content
  | .null => .null
  | .bool b => .bool b
  | .int n => .int n
  | .str s => .str (nfc s)
  | .arr xs => .arr (plainNormalList excludeVolatile xs)
  | .obj fs => .obj (held excludeVolatile (plainNormalFields excludeVolatile fs))

def plainNormalList (excludeVolatile : Bool) : List Json → List Content
  | [] => []
  | x :: xs => plainNormal excludeVolatile x :: plainNormalList excludeVolatile xs

def plainNormalFields (excludeVolatile : Bool) : List (String × Json) → List (String × Content)
  | [] => []
  | (k, v) :: fs => (nfc k, plainNormal excludeVolatile v) :: plainNormalFields excludeVolatile fs

end

def Key.normal : Key → String
  | .str s => nfc s
  | .other => ""

mutual

/-- The content of a value with its texts, enums, identifiers and instants in normal form. An
embedded document keeps its volatile names. -/
def normal (excludeVolatile : Bool) : Value → Content
  | .document d => ((Json.loads d.canonicalJson).map (plainNormal false)).getD .null
  | .json j => plainNormal excludeVolatile j
  | .none => .null
  | .bool b => .bool b
  | .enum v => normal excludeVolatile v
  | .int n => .int n
  | .str s => .str (nfc s)
  | .uuid u => .str u.str
  | .datetime d => .str (d.momentText.getD "")
  | .dataclass fields => .obj (held excludeVolatile (normalFields excludeVolatile fields))
  | .mapping items => .obj (held excludeVolatile (normalMembers excludeVolatile items))
  | .seq items => .arr (normalList excludeVolatile items)
  | .other _ => .null

def normalList (excludeVolatile : Bool) : List Value → List Content
  | [] => []
  | x :: xs => normal excludeVolatile x :: normalList excludeVolatile xs

def normalMembers (excludeVolatile : Bool) : List (Key × Value) → List (String × Content)
  | [] => []
  | (k, v) :: items => (k.normal, normal excludeVolatile v) :: normalMembers excludeVolatile items

def normalFields (excludeVolatile : Bool) : List (String × Value) → List (String × Content)
  | [] => []
  | (k, v) :: fs => (k, normal excludeVolatile v) :: normalFields excludeVolatile fs

end

lemma plainNormalList_eq (ev : Bool) (xs : List Json) :
    plainNormalList ev xs = xs.map (plainNormal ev) := by
  induction xs with
  | nil => rfl
  | cons x xs ih => simp [plainNormalList, ih]

lemma plainNormalFields_eq (ev : Bool) (fs : List (String × Json)) :
    plainNormalFields ev fs = fs.map fun f => (nfc f.1, plainNormal ev f.2) := by
  induction fs with
  | nil => rfl
  | cons f fs ih => simp [plainNormalFields, ih]

lemma normalList_eq (ev : Bool) (xs : List Value) : normalList ev xs = xs.map (normal ev) := by
  induction xs with
  | nil => rfl
  | cons x xs ih => simp [normalList, ih]

lemma normalMembers_eq (ev : Bool) (is : List (Key × Value)) :
    normalMembers ev is = is.map fun i => (i.1.normal, normal ev i.2) := by
  induction is with
  | nil => rfl
  | cons i is ih => simp [normalMembers, ih]

lemma normalFields_eq (ev : Bool) (fs : List (String × Value)) :
    normalFields ev fs = fs.map fun f => (f.1, normal ev f.2) := by
  induction fs with
  | nil => rfl
  | cons f fs ih => simp [normalFields, ih]

variable {α : Type} {ev : Bool} {encode : α → Except PyException Json} {normalOf : α → Content}

omit [Unicodedata] in
lemma held_volatile {items : List (String × Content)} {k : String} {c : Content}
    (hvol : ev = true ∧ k ∈ volatileHashFields) (name : String) :
    held ev ((k, c) :: items) name = held ev items name := by
  unfold held
  by_cases hname : ev = true ∧ name ∈ volatileHashFields
  · rw [if_pos hname, if_pos hname]
  · have hne : (name == k) = false := by
      rw [beq_eq_false_iff_ne]
      rintro rfl
      exact hname hvol
    rw [if_neg hname, if_neg hname, List.lookup_cons, hne]

omit [Unicodedata] in
lemma held_cons {items : List (String × Content)} {k : String} {c : Content}
    (hvol : ¬ (ev = true ∧ k ∈ volatileHashFields)) (name : String) :
    held ev ((k, c) :: items) name = if name = k then some c else held ev items name := by
  unfold held
  by_cases hname : name = k
  · subst hname
    rw [if_neg hvol, if_pos rfl, List.lookup_cons, beq_self_eq_true]
  · rw [if_neg hname, List.lookup_cons, beq_eq_false_iff_ne.mpr hname]

lemma held_members {is : List (Key × α)} {acc fs : List (String × Json)}
    (htold : ∀ i ∈ is, ∀ j, encode i.2 = .ok j → j.content = normalOf i.2)
    (h : members ev (is.map fun i => (i.1, encode i.2)) acc = .ok fs) (name : String) :
    (fs.lookup name).map Json.content = ((acc.lookup name).map Json.content).or
      (held ev (is.map fun i => (i.1.normal, normalOf i.2)) name) := by
  induction is generalizing acc with
  | nil =>
    cases h
    have hnone : held ev (List.map (fun i : Key × α => (i.1.normal, normalOf i.2)) []) name = none := by
      unfold held
      split <;> rfl
    rw [hnone, Option.or_none]
  | cons i is ih =>
    obtain ⟨k, a⟩ := i
    rw [List.forall_mem_cons] at htold
    cases k with
    | other => cases h
    | str k =>
      rw [List.map_cons, members] at h
      rw [List.map_cons, Key.normal]
      split at h
      · next hvol =>
        rw [Bool.and_eq_true, decide_eq_true_eq] at hvol
        rw [held_volatile hvol, ih htold.2 h]
      · next hvol =>
        rw [Bool.and_eq_true, decide_eq_true_eq] at hvol
        split at h
        · cases h
        · next hfresh =>
          obtain ⟨j, hj, h⟩ := bind_ok.mp h
          rw [ih htold.2 h, held_cons hvol, List.lookup_append, Option.map_or, Option.or_assoc]
          congr 1
          by_cases hname : name = nfc k
          · simp [hname, htold.1 j hj]
          · simp [hname, List.lookup_cons, beq_eq_false_iff_ne.mpr hname]

omit [Unicodedata] in
lemma held_dataclass {is : List (String × α)} {fs : List (String × Json)}
    (htold : ∀ i ∈ is, ∀ j, encode i.2 = .ok j → j.content = normalOf i.2)
    (h : dataclassMembers ev (is.map fun i => (i.1, encode i.2)) = .ok fs) (name : String) :
    (fs.lookup name).map Json.content =
      held ev (is.map fun i => (i.1, normalOf i.2)) name := by
  induction is generalizing fs with
  | nil =>
    cases h
    unfold held
    split <;> rfl
  | cons i is ih =>
    obtain ⟨k, a⟩ := i
    rw [List.forall_mem_cons] at htold
    rw [List.map_cons, dataclassMembers] at h
    rw [List.map_cons]
    split at h
    · next hvol =>
      rw [Bool.and_eq_true, decide_eq_true_eq] at hvol
      rw [held_volatile hvol, ih htold.2 h]
    · next hvol =>
      rw [Bool.and_eq_true, decide_eq_true_eq] at hvol
      obtain ⟨j, hj, h⟩ := bind_ok.mp h
      obtain ⟨js, hjs, h⟩ := bind_ok.mp h
      cases h
      rw [held_cons hvol, List.lookup_cons]
      by_cases hname : name = k
      · simp [hname, htold.1 j hj]
      · simp [hname, beq_eq_false_iff_ne.mpr hname, ih htold.2 hjs]

omit [Unicodedata] in
lemma content_obj (fs : List (String × Json)) :
    (Json.obj fs).content = .obj fun name => (fs.lookup name).map Json.content := by
  simp only [Json.content, Json.contentFields_eq, Json.lookup_map]

lemma content_plainValue {j j' : Json} (h : plainValue ev j = .ok j') :
    j'.content = plainNormal ev j := by
  induction j using Json.induction generalizing j' with
  | null => cases h; rfl
  | bool _ => cases h; rfl
  | int _ => cases h; rfl
  | str _ => cases h; rfl
  | arr xs ih =>
    simp only [plainValue, plainElements_eq, map_ok, elements_ok, List.forall₂_map_left_iff] at h
    obtain ⟨js, hjs, rfl⟩ := h
    rw [Json.content, Json.contentList_eq, plainNormal, plainNormalList_eq]
    congr 1
    induction hjs with
    | nil => rfl
    | cons hx _ ihrest =>
      rw [List.forall_mem_cons] at ih
      rw [List.map_cons, List.map_cons, ih.1 hx, ihrest ih.2]
  | obj fs ih =>
    simp only [plainValue, plainMembers_eq, map_ok] at h
    obtain ⟨gs, hgs, rfl⟩ := h
    rw [content_obj, plainNormal, plainNormalFields_eq]
    refine congrArg Content.obj (funext fun name => ?_)
    have hmembers := @held_members _ _ ev (plainValue ev) (plainNormal ev)
      (fs.map fun f => (Key.str f.1, f.2)) [] gs
      (List.forall_mem_map.mpr fun f hf j hj => ih f hf hj) (by rwa [List.map_map]) name
    rw [List.map_map] at hmembers
    exact hmembers

lemma content_jsonValue {v : Value} {j : Json} (h : jsonValue ev v = .ok j) :
    j.content = normal ev v := by
  induction v using Value.induction generalizing j with
  | document d =>
    rw [jsonValue] at h
    rw [normal]
    split at h
    · next parsed hparsed =>
      rw [hparsed]
      exact content_plainValue h
    · cases h
  | json _ => exact content_plainValue h
  | none => cases h; rfl
  | bool _ => cases h; rfl
  | enum v ih => exact ih h
  | int _ => cases h; rfl
  | str _ => cases h; rfl
  | uuid _ => cases h; rfl
  | datetime d =>
    rw [jsonValue] at h
    rw [normal]
    split at h
    · split at h
      · next s hs =>
        cases h
        rw [hs]
        rfl
      · cases h
    · cases h
  | dataclass fs ih =>
    simp only [jsonValue, valueFields_eq, map_ok] at h
    obtain ⟨gs, hgs, rfl⟩ := h
    rw [content_obj, normal, normalFields_eq]
    exact congrArg Content.obj (funext (held_dataclass (fun f hf j hj => ih f hf hj) hgs))
  | mapping is ih =>
    simp only [jsonValue, valueMembers_eq, map_ok] at h
    obtain ⟨gs, hgs, rfl⟩ := h
    rw [content_obj, normal, normalMembers_eq]
    exact congrArg Content.obj (funext (held_members (fun i hi j hj => ih i hi hj) hgs))
  | seq xs ih =>
    simp only [jsonValue, valueElements_eq, map_ok, elements_ok, List.forall₂_map_left_iff] at h
    obtain ⟨js, hjs, rfl⟩ := h
    rw [Json.content, Json.contentList_eq, normal, normalList_eq]
    congr 1
    induction hjs with
    | nil => rfl
    | cons hx _ ihrest =>
      rw [List.forall_mem_cons] at ih
      rw [List.map_cons, List.map_cons, ih.1 hx, ihrest ih.2]
  | other _ => cases h

section

variable {decode : Json.Encoding → ByteArray → Option String} {d : CanonicalDocument}

lemma recanonicalised {j : Json} {s : String} (hj : Settled false j) (hs : Json.dumps j = some s) :
    ∃ parsed, Json.loadsBytes decode s.toByteArray = some parsed ∧
      canonicalDocument (.json parsed) false = .ok (documentOf s) := by
  have hloads := Json.loads_dumps hj.2 hs
  have hvalue : jsonValue false (.json (Json.sorted j)) = .ok (Json.sorted j) :=
    plainValue_self (settled_sorted hj)
  refine ⟨Json.sorted j, ?_, canonicalDocument_ok.mpr ⟨_, s, hvalue, by rw [Json.dumps_sorted, hs], rfl⟩⟩
  have htext : s = String.ofList (Json.inOrder (Json.sorted j)) := by
    rw [Json.dumps] at hs
    split_ifs at hs
    rw [← Json.text_eq_inOrder]
    exact (Option.some.inj hs).symm
  rw [← hloads, htext, Json.loadsBytes_inOrder]

lemma documentFromBytes_ok {payload : ByteArray} :
    documentFromBytes decode payload = .ok d ↔
      ∃ parsed, Json.loadsBytes decode payload = some parsed ∧
        canonicalDocument (.json parsed) false = .ok d ∧ d.canonicalJson.toByteArray = payload := by
  unfold documentFromBytes
  cases hloads : Json.loadsBytes decode payload with
  | none => simp
  | some parsed =>
    simp only [bind_ok, Option.some.injEq, exists_eq_left']
    constructor
    · rintro ⟨rebuilt, hrebuilt, h⟩
      split_ifs at h with hbytes
      cases h
      exact ⟨hrebuilt, hbytes⟩
    · rintro ⟨hrebuilt, hbytes⟩
      exact ⟨d, hrebuilt, if_pos hbytes⟩

lemma documentFromBytes_accepts (payload : ByteArray) :
    (∃ d, documentFromBytes decode payload = .ok d) ↔
      ∃ j d, canonicalDocument (.json j) false = .ok d ∧ d.canonicalJson.toByteArray = payload := by
  simp only [documentFromBytes_ok]
  constructor
  · rintro ⟨d, parsed, -, hd, hbytes⟩
    exact ⟨parsed, d, hd, hbytes⟩
  · rintro ⟨j, d, hd, rfl⟩
    obtain ⟨j', s, hj', hs, rfl⟩ := canonicalDocument_ok.mp hd
    obtain ⟨parsed, hloads, hparsed⟩ :=
      @recanonicalised _ decode j' s (plainValue_settled hj') hs
    exact ⟨documentOf s, parsed, hloads, hparsed, rfl⟩

lemma canonicalJson_eq_iff {v v' : Value} {ev ev' : Bool} {d' : CanonicalDocument}
    (hv : Value.Named false v) (hv' : Value.Named false v') (hd : canonicalDocument v ev = .ok d)
    (hd' : canonicalDocument v' ev' = .ok d') :
    d.canonicalJson = d'.canonicalJson ↔ normal ev v = normal ev' v' := by
  obtain ⟨j, s, hj, hs, rfl⟩ := canonicalDocument_ok.mp hd
  obtain ⟨j', s', hj', hs', rfl⟩ := canonicalDocument_ok.mp hd'
  have hdistinct := (jsonValue_settled_of_named (by simp) hv hj).2
  have hdistinct' := (jsonValue_settled_of_named (by simp) hv' hj').2
  rw [← content_jsonValue hj, ← content_jsonValue hj', Json.content_eq_iff hdistinct hdistinct']
  constructor
  · intro h
    have hloads := Json.loads_dumps hdistinct hs
    obtain rfl : s = s' := h
    exact Option.some.inj (hloads.symm.trans (Json.loads_dumps hdistinct' hs'))
  · intro h
    rw [← Json.dumps_sorted, h, Json.dumps_sorted, hs'] at hs
    exact (Option.some.inj hs).symm

end

/-- Canonical documents are fixpoints, are the only bytes that are read back, and name the
normalised content of their values. -/
theorem canonical_documents_name_content (decode : Json.Encoding → ByteArray → Option String) :
    (∀ v ev d, Value.Named false v → canonicalDocument v ev = .ok d →
      verifyCanonicalDocument d = true ∧
        documentFromBytes decode d.canonicalJson.toByteArray = .ok d ∧
        ∃ parsed, Json.loadsBytes decode d.canonicalJson.toByteArray = some parsed ∧
          canonicalDocument (.json parsed) false = .ok d) ∧
      (∀ payload, (∃ d, documentFromBytes decode payload = .ok d) ↔
        ∃ j d, canonicalDocument (.json j) false = .ok d ∧
          d.canonicalJson.toByteArray = payload) ∧
      ∀ v v' ev ev' d d', Value.Named false v → Value.Named false v' →
        canonicalDocument v ev = .ok d → canonicalDocument v' ev' = .ok d' →
          (d.canonicalJson = d'.canonicalJson ↔ normal ev v = normal ev' v') := by
  refine ⟨fun v ev d hv hd => ?_, documentFromBytes_accepts,
    fun v v' ev ev' d d' hv hv' hd hd' => canonicalJson_eq_iff hv hv' hd hd'⟩
  obtain ⟨j, s, hj, hs, rfl⟩ := canonicalDocument_ok.mp hd
  have hsettled := jsonValue_settled_of_named (by simp) hv hj
  obtain ⟨parsed, hloads, hparsed⟩ := @recanonicalised _ decode j s hsettled hs
  exact ⟨verify_documentOf hsettled hs, documentFromBytes_ok.mpr ⟨parsed, hloads, hparsed, rfl⟩,
    parsed, hloads, hparsed⟩

end

end NhaTrangLaundry.Domain.Canonical

import NhaTrangLaundry.Domain.Canonical

/-! What the encoder returns is already in canonical form, so a document passes
its own check. -/

namespace NhaTrangLaundry.Domain.Canonical

open Lib Catalog Outcome

namespace Value

/-- Induction over a value with the hypothesis for every part. -/
@[elab_as_elim]
theorem induction {P : Value → Prop} (document : ∀ d, P (.document d)) (json : ∀ j, P (.json j))
    (none : P .none) (bool : ∀ b, P (.bool b)) (enum : ∀ v, P v → P (.enum v))
    (int : ∀ n, P (.int n)) (str : ∀ s, P (.str s)) (uuid : ∀ u, P (.uuid u))
    (datetime : ∀ d, P (.datetime d))
    (dataclass : ∀ fs, (∀ f ∈ fs, P f.2) → P (.dataclass fs))
    (mapping : ∀ is, (∀ i ∈ is, P i.2) → P (.mapping is))
    (seq : ∀ xs, (∀ x ∈ xs, P x) → P (.seq xs)) (other : ∀ t, P (.other t)) (v : Value) : P v := by
  refine @Value.rec P (fun fs => ∀ f ∈ fs, P f.2) (fun is => ∀ i ∈ is, P i.2)
    (fun xs => ∀ x ∈ xs, P x) (fun f => P f.2) (fun i => P i.2)
    document json none bool enum int str uuid datetime dataclass mapping seq other
    ?_ ?_ ?_ ?_ ?_ ?_ ?_ ?_ v
  · simp
  · intro f fs hf hfs
    exact List.forall_mem_cons.mpr ⟨hf, hfs⟩
  · simp
  · intro i is hi his
    exact List.forall_mem_cons.mpr ⟨hi, his⟩
  · simp
  · intro x xs hx hxs
    exact List.forall_mem_cons.mpr ⟨hx, hxs⟩
  · exact fun _ _ h => h
  · exact fun _ _ h => h

/-- The field names of a dataclass are distinct identifiers; a `strict` value holds
no document. -/
inductive Proper (strict : Bool) : Value → Prop
  | document {d} : strict = false → Proper strict (.document d)
  | json {j} : Proper strict (.json j)
  | none : Proper strict .none
  | bool {b} : Proper strict (.bool b)
  | enum {v} : Proper strict v → Proper strict (.enum v)
  | int {n} : Proper strict (.int n)
  | str {s} : Proper strict (.str s)
  | uuid {u} : Proper strict (.uuid u)
  | datetime {d} : Proper strict (.datetime d)
  | dataclass {fs : List (String × Value)} : (fs.map Prod.fst).Nodup →
      (∀ f ∈ fs, Text.ascii f.1) → (∀ f ∈ fs, Proper strict f.2) → Proper strict (.dataclass fs)
  | mapping {is : List (Key × Value)} : (∀ i ∈ is, Proper strict i.2) → Proper strict (.mapping is)
  | seq {xs : List Value} : (∀ x ∈ xs, Proper strict x) → Proper strict (.seq xs)
  | other {t} : Proper strict (.other t)

lemma Proper.named {strict : Bool} {fs : List (String × Value)} (names : List String)
    (hfs : fs.map Prod.fst = names) (hn : names.Nodup) (ha : ∀ n ∈ names, Text.ascii n)
    (hp : ∀ f ∈ fs, Proper strict f.2) : Proper strict (.dataclass fs) :=
  .dataclass (hfs ▸ hn) (fun f hf => ha f.1 (hfs ▸ List.mem_map_of_mem hf)) hp

end Value

lemma elements_ok {xs : List (Except PyException Json)} {js : List Json} :
    elements xs = .ok js ↔ List.Forall₂ (fun x j => x = .ok j) xs js := by
  induction xs generalizing js with
  | nil => cases js <;> simp [elements]
  | cons x xs ih =>
    simp only [elements, bind_ok]
    constructor
    · rintro ⟨j, hj, js', hjs, h⟩
      cases h
      exact .cons hj (ih.mp hjs)
    · rintro (_ | ⟨hj, hjs⟩)
      exact ⟨_, hj, _, ih.mpr hjs, rfl⟩

lemma dataclassMembers_ok {ev : Bool} {items : List (String × Except PyException Json)}
    {fs : List (String × Json)} (h : dataclassMembers ev items = .ok fs) :
    (fs.map Prod.fst).Sublist (items.map Prod.fst) ∧
      ∀ f ∈ fs, (f.1, .ok f.2) ∈ items ∧ (ev = true → f.1 ∉ volatileHashFields) := by
  induction items generalizing fs with
  | nil =>
    cases h
    simp
  | cons i items ih =>
    obtain ⟨k, r⟩ := i
    simp only [dataclassMembers] at h
    split at h
    · obtain ⟨hsub, hmem⟩ := ih h
      exact ⟨hsub.trans (List.sublist_cons_self _ _),
        fun f hf => ⟨List.mem_cons_of_mem _ (hmem f hf).1, (hmem f hf).2⟩⟩
    · next hvol =>
      simp only [bind_ok] at h
      obtain ⟨j, hj, js, hjs, h⟩ := h
      cases h
      obtain ⟨hsub, hmem⟩ := ih hjs
      refine ⟨by simpa using hsub, ?_⟩
      rw [List.forall_mem_cons]
      refine ⟨⟨by simp [hj], fun hev => ?_⟩, fun f hf =>
        ⟨List.mem_cons_of_mem _ (hmem f hf).1, (hmem f hf).2⟩⟩
      simpa [hev] using hvol

lemma ascii_stamp (w : Nat) : ∀ c ∈ Datetime.stamp w ++ ['Z'], c.toNat < 128 := by
  have hdigits : ∀ c k n, c ∈ Text.padded 10 k n → c.toNat < 128 := by
    intro c k n hc
    obtain ⟨d, hd, rfl⟩ := Text.mem_padded (by decide) hc
    exact Text.digitChar_ascii (by omega)
  intro c hc
  simp only [Datetime.stamp, Datetime.clockText, List.mem_append, List.mem_cons,
    List.not_mem_nil, or_false] at hc
  rcases hc with (h | h | h | h | h | h | h | h | h | h | h | h | h) | h
  all_goals first | exact hdigits _ _ _ h | (rw [h]; decide)

lemma ascii_momentText {d : Datetime} {s : String} (h : d.momentText = some s) : Text.ascii s := by
  rw [Datetime.momentText, Option.map_eq_some_iff] at h
  obtain ⟨u, -, rfl⟩ := h
  exact Text.ascii_ofList.mpr (ascii_stamp u.wall)

lemma ascii_uuid (u : Uuid) : Text.ascii u.str := by
  refine Text.ascii_ofList.mpr fun c hc => ?_
  rcases Uuid.mem_dashed hc with hc | rfl
  · obtain ⟨d, hd, rfl⟩ := Uuid.mem_hex hc
    exact Text.digitChar_ascii hd
  · decide

variable [Unicodedata]

def fixed (s : String) : Prop := nfc s = s

/-- The fields of a dataclass have distinct names, which are in normal form as identifiers are. -/
inductive Value.Named (strict : Bool) : Value → Prop
  | document {d} : strict = false → Named strict (.document d)
  | json {j} : Named strict (.json j)
  | none : Named strict .none
  | bool {b} : Named strict (.bool b)
  | enum {v} : Named strict v → Named strict (.enum v)
  | int {n} : Named strict (.int n)
  | str {s} : Named strict (.str s)
  | uuid {u} : Named strict (.uuid u)
  | datetime {d} : Named strict (.datetime d)
  | dataclass {fs : List (String × Value)} : (fs.map Prod.fst).Nodup → (∀ f ∈ fs, fixed f.1) →
      (∀ f ∈ fs, Named strict f.2) → Named strict (.dataclass fs)
  | mapping {is : List (Key × Value)} : (∀ i ∈ is, Named strict i.2) → Named strict (.mapping is)
  | seq {xs : List Value} : (∀ x ∈ xs, Named strict x) → Named strict (.seq xs)
  | other {t} : Named strict (.other t)

/-- A member name that stays when volatile names are dropped (`strict`) or kept. -/
def stays (strict : Bool) (k : String) : Prop := fixed k ∧ (strict = true → k ∉ volatileHashFields)

def Settled (strict : Bool) (j : Json) : Prop :=
  Json.allText fixed (stays strict) j ∧ Json.distinct j

lemma fixed_nfc (s : String) : fixed (nfc s) := Unicodedata.nfc_nfc s

lemma fixed_ascii {s : String} (h : Text.ascii s) : fixed s := Unicodedata.nfc_ascii s h

lemma Value.Proper.named' {strict : Bool} {v : Value} (h : Value.Proper strict v) :
    Value.Named strict v := by
  induction h with
  | document hs => exact .document hs
  | json => exact .json
  | none => exact .none
  | bool => exact .bool
  | enum _ ih => exact .enum ih
  | int => exact .int
  | str => exact .str
  | uuid => exact .uuid
  | datetime => exact .datetime
  | dataclass hn ha _ ih => exact .dataclass hn (fun f hf => fixed_ascii (ha f hf)) ih
  | mapping _ ih => exact .mapping ih
  | seq _ ih => exact .seq ih
  | other => exact .other

lemma stays_mono {a b : Bool} (h : b = true → a = true) {k : String} (hk : stays a k) : stays b k :=
  ⟨hk.1, fun hb => hk.2 (h hb)⟩

lemma settled_obj {strict : Bool} {fs : List (String × Json)} :
    Settled strict (.obj fs) ↔
      (fs.map Prod.fst).Nodup ∧ ∀ f ∈ fs, stays strict f.1 ∧ Settled strict f.2 := by
  simp only [Settled, Json.allText, Json.distinct, Json.allTextFields_iff, Json.distinctFields_iff]
  constructor
  · rintro ⟨ht, hn, hd⟩
    exact ⟨hn, fun f hf => ⟨(ht f hf).1, (ht f hf).2, hd f hf⟩⟩
  · rintro ⟨hn, h⟩
    exact ⟨fun f hf => ⟨(h f hf).1, (h f hf).2.1⟩, hn, fun f hf => (h f hf).2.2⟩

lemma settled_nil {strict : Bool} : Settled strict (.obj []) :=
  settled_obj.mpr ⟨by simp, by simp⟩

lemma settled_arr {strict : Bool} {xs : List Json} :
    Settled strict (.arr xs) ↔ ∀ x ∈ xs, Settled strict x := by
  simp only [Settled, Json.allText, Json.distinct, Json.allTextList_iff, Json.distinctList_iff]
  exact ⟨fun h x hx => ⟨h.1 x hx, h.2 x hx⟩, fun h => ⟨fun x hx => (h x hx).1, fun x hx => (h x hx).2⟩⟩

lemma settled_str {strict : Bool} {s : String} (h : fixed s) : Settled strict (.str s) := ⟨h, trivial⟩

lemma settled_mono {a b : Bool} (h : b = true → a = true) {j : Json} (hj : Settled a j) :
    Settled b j := by
  induction j using Json.induction with
  | null => exact ⟨trivial, trivial⟩
  | bool _ => exact ⟨trivial, trivial⟩
  | int _ => exact ⟨trivial, trivial⟩
  | str s => exact hj
  | arr xs ih =>
    rw [settled_arr] at hj ⊢
    exact fun x hx => ih x hx (hj x hx)
  | obj fs ih =>
    rw [settled_obj] at hj ⊢
    exact ⟨hj.1, fun f hf => ⟨stays_mono h (hj.2 f hf).1, ih f hf (hj.2 f hf).2⟩⟩

lemma settled_sorted {strict : Bool} {j : Json} (h : Settled strict j) :
    Settled strict (Json.sorted j) :=
  ⟨Json.allText_sorted h.1, Json.distinct_sorted h.2⟩

lemma members_settled {strict : Bool} {ev : Bool} (hev : strict = true → ev = true)
    {items : List (Key × Except PyException Json)} {acc fs : List (String × Json)}
    (hitems : ∀ i ∈ items, ∀ j, i.2 = .ok j → Settled strict j)
    (hacc : Settled strict (.obj acc)) (h : members ev items acc = .ok fs) :
    Settled strict (.obj fs) := by
  induction items generalizing acc with
  | nil =>
    cases h
    exact hacc
  | cons i items ih =>
    obtain ⟨k, r⟩ := i
    have hrest : ∀ i ∈ items, ∀ j, i.2 = .ok j → Settled strict j :=
      fun i hi => hitems i (List.mem_cons_of_mem _ hi)
    cases k with
    | other => cases h
    | str k =>
      simp only [members] at h
      split at h
      · exact ih hrest hacc h
      · next hvol =>
        split at h
        · cases h
        · next hfresh =>
          rw [bind_ok] at h
          obtain ⟨j, hj, h⟩ := h
          refine ih hrest ?_ h
          rw [settled_obj] at hacc ⊢
          refine ⟨?_, ?_⟩
          · rw [List.map_append, List.nodup_append]
            refine ⟨hacc.1, List.nodup_singleton _, ?_⟩
            intro a ha b hb hab
            rw [List.map_singleton, List.mem_singleton] at hb
            rw [hab, hb] at ha
            exact hfresh ha
          · intro f hf
            rw [List.mem_append, List.mem_singleton] at hf
            rcases hf with hf | rfl
            · exact hacc.2 f hf
            · refine ⟨⟨fixed_nfc k, fun hs => ?_⟩, hitems _ List.mem_cons_self j hj⟩
              simpa [hev hs] using hvol

lemma plainElements_eq (ev : Bool) (xs : List Json) :
    plainElements ev xs = xs.map (plainValue ev) := by
  induction xs with
  | nil => rfl
  | cons x xs ih => simp [plainElements, ih]

lemma plainMembers_eq (ev : Bool) (fs : List (String × Json)) :
    plainMembers ev fs = fs.map fun f => (Key.str f.1, plainValue ev f.2) := by
  induction fs with
  | nil => rfl
  | cons f fs ih => simp [plainMembers, ih]

lemma plainValue_settled {ev : Bool} {j j' : Json} (h : plainValue ev j = .ok j') :
    Settled ev j' := by
  induction j using Json.induction generalizing j' with
  | null => cases h; exact ⟨trivial, trivial⟩
  | bool b => cases h; exact ⟨trivial, trivial⟩
  | int n => cases h; exact ⟨trivial, trivial⟩
  | str s => cases h; exact settled_str (fixed_nfc s)
  | arr xs ih =>
    simp only [plainValue, plainElements_eq, map_ok, elements_ok, List.forall₂_map_left_iff] at h
    obtain ⟨js, hjs, rfl⟩ := h
    rw [settled_arr]
    intro x hx
    obtain ⟨y, hy, hyx⟩ := forall₂_mem_right hjs hx
    exact ih y hy hyx
  | obj fs ih =>
    simp only [plainValue, plainMembers_eq, map_ok] at h
    obtain ⟨gs, hgs, rfl⟩ := h
    refine members_settled id ?_ settled_nil hgs
    intro i hi j hj
    rw [List.mem_map] at hi
    obtain ⟨f, hf, rfl⟩ := hi
    exact ih f hf hj

lemma members_append {ev : Bool} {fs acc : List (String × Json)}
    (h : Settled ev (.obj (acc ++ fs))) :
    members ev (fs.map fun f => (Key.str f.1, .ok f.2)) acc = .ok (acc ++ fs) := by
  induction fs generalizing acc with
  | nil => simp [members]
  | cons f fs ih =>
    have hs := settled_obj.mp h
    have hf := (hs.2 f (by simp)).1
    have hvol : ¬ ((ev && decide (nfc f.1 ∈ volatileHashFields)) = true) := by
      rw [hf.1, Bool.and_eq_true, decide_eq_true_eq]
      exact fun hv => hf.2 hv.1 hv.2
    have hfresh : nfc f.1 ∉ acc.map Prod.fst := by
      rw [hf.1]
      intro hmem
      have hn := hs.1
      rw [List.map_append, List.nodup_append] at hn
      exact hn.2.2 _ hmem f.1 (by simp) rfl
    rw [List.map_cons, members, if_neg hvol, if_neg hfresh, ok_bind, hf.1]
    have hcons : acc ++ f :: fs = (acc ++ [(f.1, f.2)]) ++ fs := by simp
    rw [hcons] at h ⊢
    exact ih h

lemma plainValue_self {ev : Bool} {j : Json} (h : Settled ev j) : plainValue ev j = .ok j := by
  induction j using Json.induction with
  | null => rfl
  | bool _ => rfl
  | int _ => rfl
  | str s =>
    have hs : nfc s = s := h.1
    rw [plainValue, hs]
  | arr xs ih =>
    rw [settled_arr] at h
    simp only [plainValue, plainElements_eq, map_ok, elements_ok, List.forall₂_map_left_iff]
    exact ⟨xs, List.forall₂_same.mpr fun x hx => ih x hx (h x hx), rfl⟩
  | obj fs ih =>
    have hs := settled_obj.mp h
    have hmap : (fs.map fun f => (Key.str f.1, plainValue ev f.2)) =
        fs.map fun f => (Key.str f.1, .ok f.2) :=
      List.map_congr_left fun f hf => by rw [ih f hf (hs.2 f hf).2]
    rw [plainValue, plainMembers_eq, hmap, @members_append _ ev fs [] h]
    rfl

lemma valueElements_eq (ev : Bool) (xs : List Value) :
    valueElements ev xs = xs.map (jsonValue ev) := by
  induction xs with
  | nil => rfl
  | cons x xs ih => simp [valueElements, ih]

lemma valueMembers_eq (ev : Bool) (is : List (Key × Value)) :
    valueMembers ev is = is.map fun i => (i.1, jsonValue ev i.2) := by
  induction is with
  | nil => rfl
  | cons i is ih => simp [valueMembers, ih]

lemma valueFields_eq (ev : Bool) (fs : List (String × Value)) :
    valueFields ev fs = fs.map fun f => (f.1, jsonValue ev f.2) := by
  induction fs with
  | nil => rfl
  | cons f fs ih => simp [valueFields, ih]

lemma jsonValue_settled_of_named {ev strict : Bool} (hev : strict = true → ev = true) {v : Value} {j : Json}
    (hv : Value.Named strict v) (h : jsonValue ev v = .ok j) : Settled strict j := by
  induction v using Value.induction generalizing j with
  | document d =>
    cases hv with
    | document hs =>
      simp only [jsonValue] at h
      split at h
      · exact settled_mono (by simp [hs]) (plainValue_settled h)
      · cases h
  | json _ => exact settled_mono hev (plainValue_settled h)
  | none => cases h; exact ⟨trivial, trivial⟩
  | bool _ => cases h; exact ⟨trivial, trivial⟩
  | enum v ih =>
    cases hv with
    | enum hv => exact ih hv h
  | int _ => cases h; exact ⟨trivial, trivial⟩
  | str s => cases h; exact settled_str (fixed_nfc s)
  | uuid u => cases h; exact settled_str (fixed_ascii (ascii_uuid u))
  | datetime d =>
    simp only [jsonValue] at h
    split at h
    · split at h
      · next s hs =>
        cases h
        exact settled_str (fixed_ascii (ascii_momentText hs))
      · cases h
    · cases h
  | dataclass fs ih =>
    cases hv with
    | dataclass hn ha hp =>
      simp only [jsonValue, valueFields_eq, map_ok] at h
      obtain ⟨gs, hgs, rfl⟩ := h
      obtain ⟨hsub, hmem⟩ := dataclassMembers_ok hgs
      rw [List.map_map] at hsub
      refine settled_obj.mpr ⟨hn.sublist hsub, fun g hg => ?_⟩
      obtain ⟨hmem, hvol⟩ := hmem g hg
      rw [List.mem_map] at hmem
      obtain ⟨f, hf, heq⟩ := hmem
      rw [Prod.mk.injEq] at heq
      rw [← heq.1] at hvol ⊢
      exact ⟨⟨ha f hf, fun hs => hvol (hev hs)⟩, ih f hf (hp f hf) heq.2⟩
  | mapping is ih =>
    cases hv with
    | mapping hp =>
      simp only [jsonValue, valueMembers_eq, map_ok] at h
      obtain ⟨gs, hgs, rfl⟩ := h
      refine members_settled hev ?_ settled_nil hgs
      intro i hi j hj
      rw [List.mem_map] at hi
      obtain ⟨i, hi, rfl⟩ := hi
      exact ih i hi (hp i hi) hj
  | seq xs ih =>
    cases hv with
    | seq hp =>
      simp only [jsonValue, valueElements_eq, map_ok, elements_ok, List.forall₂_map_left_iff] at h
      obtain ⟨js, hjs, rfl⟩ := h
      refine settled_arr.mpr fun x hx => ?_
      obtain ⟨y, hy, hyx⟩ := forall₂_mem_right hjs hx
      exact ih y hy (hp y hy) hyx
  | other _ => cases h

lemma jsonValue_settled {ev strict : Bool} (hev : strict = true → ev = true) {v : Value} {j : Json}
    (hv : Value.Proper strict v) (h : jsonValue ev v = .ok j) : Settled strict j :=
  jsonValue_settled_of_named hev hv.named' h

lemma canonicalDocument_ok {v : Value} {ev : Bool} {d : CanonicalDocument} :
    canonicalDocument v ev = .ok d ↔
      ∃ j s, jsonValue ev v = .ok j ∧ Json.dumps j = some s ∧ d = documentOf s := by
  unfold canonicalDocument
  cases hj : jsonValue ev v with
  | error e => cases e <;> simp
  | ok j =>
    cases hs : Json.dumps j with
    | none => simp [hs]
    | some s => simp [hs, eq_comm]

lemma verify_documentOf {j : Json} {s : String} (hj : Settled false j)
    (hs : Json.dumps j = some s) : verifyCanonicalDocument (documentOf s) = true := by
  have hload : Json.loads s = some (Json.sorted j) := Json.loads_dumps hj.2 hs
  have hvalue : jsonValue false (.json (Json.sorted j)) = .ok (Json.sorted j) :=
    plainValue_self (settled_sorted hj)
  have hdoc : canonicalDocument (.json (Json.sorted j)) false = .ok (documentOf s) :=
    canonicalDocument_ok.mpr ⟨_, s, hvalue, by rw [Json.dumps_sorted, hs], rfl⟩
  simp [verifyCanonicalDocument, canonicalDocumentFromBytes, documentOf, hload] at hdoc ⊢
  simp [hdoc]

/-- Every document the encoder returns is in canonical form under its own digest. -/
theorem verify_canonicalDocument {v : Value} {ev : Bool} {d : CanonicalDocument}
    (hv : Value.Proper false v) (h : canonicalDocument v ev = .ok d) : verifyCanonicalDocument d = true := by
  obtain ⟨j, s, hj, hs, rfl⟩ := canonicalDocument_ok.mp h
  exact verify_documentOf (jsonValue_settled (by simp) hv hj) hs

omit [Unicodedata] in
lemma lookup_dataclassMembers {items : List (String × Except PyException Json)}
    {fs : List (String × Json)} (h : dataclassMembers true items = .ok fs) {k : String}
    (hk : k ∉ volatileHashFields) : (fs.lookup k).map Except.ok = items.lookup k := by
  induction items generalizing fs with
  | nil =>
    cases h
    rfl
  | cons i items ih =>
    obtain ⟨name, r⟩ := i
    rw [dataclassMembers, Bool.true_and] at h
    split at h
    · next hvol =>
      have hne : (k == name) = false := by
        rw [beq_eq_false_iff_ne]
        rintro rfl
        exact hk (of_decide_eq_true hvol)
      rw [List.lookup_cons, hne, ih h]
    · obtain ⟨j, hj, h⟩ := bind_ok.mp h
      obtain ⟨js, hjs, h⟩ := bind_ok.mp h
      cases h
      rw [List.lookup_cons, List.lookup_cons]
      cases hname : k == name with
      | false => exact ih hjs
      | true => rw [hj, Option.map_some]

lemma get?_dataclass {fs : List (String × Value)} {j : Json}
    (hp : Value.Proper false (.dataclass fs)) (h : jsonValue true (.dataclass fs) = .ok j)
    {k : String} (hk : k ∉ volatileHashFields) {v : Value} (hv : fs.lookup k = some v) :
    ∃ x, jsonValue true v = .ok x ∧ (Json.sorted j).get? k = some (Json.sorted x) := by
  have hsettled := jsonValue_settled (fun _ => rfl) hp h
  rw [jsonValue, map_ok] at h
  obtain ⟨gs, hgs, rfl⟩ := h
  have hlookup := lookup_dataclassMembers hgs hk
  rw [valueFields_eq, Json.lookup_map, hv, Option.map_some] at hlookup
  obtain ⟨x, hx, hxv⟩ := Option.map_eq_some_iff.mp hlookup
  exact ⟨x, hxv.symm, by rw [Json.sorted_obj_get? _ (settled_obj.mp hsettled).1, hx, Option.map_some]⟩

lemma sorted_eq_of_canonicalJson {v v' : Value} {d d' : CanonicalDocument}
    (hv : Value.Proper false v) (hv' : Value.Proper false v')
    (hd : canonicalDocument v true = .ok d) (hd' : canonicalDocument v' true = .ok d')
    (h : d.canonicalJson = d'.canonicalJson) :
    ∃ j j', jsonValue true v = .ok j ∧ jsonValue true v' = .ok j' ∧
      Json.sorted j = Json.sorted j' := by
  obtain ⟨j, s, hj, hs, rfl⟩ := canonicalDocument_ok.mp hd
  obtain ⟨j', s', hj', hs', rfl⟩ := canonicalDocument_ok.mp hd'
  obtain rfl : s = s' := h
  have hload := Json.loads_dumps (jsonValue_settled (fun _ => rfl) hv hj).2 hs
  have hload' := Json.loads_dumps (jsonValue_settled (fun _ => rfl) hv' hj').2 hs'
  exact ⟨j, j', hj, hj', Option.some.inj (hload.symm.trans hload')⟩

end NhaTrangLaundry.Domain.Canonical

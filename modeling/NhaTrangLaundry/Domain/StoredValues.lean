import NhaTrangLaundry.Domain.CanonicalForm
import NhaTrangLaundry.Domain.QuoteParsing
import NhaTrangLaundry.Lib.JsonReads

/-! What the readers of a payload find of the values that were encoded into it, in whatever order
the payload keeps its members. -/

namespace NhaTrangLaundry.Domain.Canonical

open Lib Catalog Outcome StrEnum Quotes.Payload

variable [Unicodedata] {α β : Type}

/-- The payload is the encoding of the value, with the members of its objects in some order. -/
def Stores (payload : Json) (v : Value) : Prop :=
  ∃ j, jsonValue true v = .ok j ∧ Json.Same payload j ∧ payload.distinct

/-- In every payload that stores the value, `read` finds `a`. -/
def Recovers (read : Json → Option α) (v : Value) (a : α) : Prop :=
  ∀ payload, Stores payload v → read payload = some a

/-- The payload stores an object, none of whose names is volatile. -/
structure Holding (payload : Json) (fs : List (String × Value)) : Prop where
  stores : Stores payload (.dataclass fs)
  clear : ∀ name ∈ fs.map Prod.fst, name ∉ volatileHashFields

variable {payload : Json} {v : Value} {fs : List (String × Value)} {read : Json → Option α}

lemma stores_none (h : Stores payload .none) : payload = .null := by
  obtain ⟨j, hj, hsame, -⟩ := h
  cases hj
  exact Json.same_null hsame

lemma stores_int {n : Int} (h : Stores payload (.int n)) : payload = .int n := by
  obtain ⟨j, hj, hsame, -⟩ := h
  cases hj
  exact Json.same_int hsame

lemma stores_str {s : String} (hs : fixed s) (h : Stores payload (.str s)) : payload = .str s := by
  obtain ⟨j, hj, hsame, -⟩ := h
  cases hj
  rw [Json.same_str hsame, hs]

lemma stores_uuid {u : Uuid} (h : Stores payload (.uuid u)) : payload = .str u.str := by
  obtain ⟨j, hj, hsame, -⟩ := h
  cases hj
  exact Json.same_str hsame

lemma stores_enum [StrEnum α] {a : α} (h : Stores payload (.enum (.str (value a)))) :
    payload = .str (value a) := by
  obtain ⟨j, hj, hsame, -⟩ := h
  cases hj
  rw [Json.same_str hsame, fixed_ascii (value_ascii a)]

lemma stores_datetime {d : Datetime} (h : Stores payload (.datetime d)) :
    d.aware ∧ ∃ s, d.momentText = some s ∧ payload = .str s := by
  obtain ⟨j, hj, hsame, -⟩ := h
  rw [jsonValue] at hj
  split_ifs at hj with haware
  cases hs : d.momentText with
  | none =>
    rw [hs] at hj
    cases hj
  | some s =>
    rw [hs] at hj
    cases hj
    exact ⟨haware, s, rfl, Json.same_str hsame⟩

def inUtc (d : Datetime) : Datetime := d.toUtc.getD d

lemma recovers_int (n : Int) : Recovers integer (.int n) n := by
  intro payload h
  rw [stores_int h]
  rfl

lemma recovers_text {s : String} (hs : fixed s) : Recovers text (.str s) s := by
  intro payload h
  rw [stores_str hs h]
  rfl

lemma recovers_uuid (u : Uuid) : Recovers uuid (.uuid u) u := by
  intro payload h
  rw [stores_uuid h, uuid, text, Option.bind_eq_bind, Option.bind_some, Uuid.ofText_str]

lemma recovers_member [StrEnum α] (a : α) :
    Recovers (member α) (.enum (.str (value a))) a := by
  intro payload h
  rw [stores_enum h, member, text, Option.bind_eq_bind, Option.bind_some, Catalog.ofValue_value]

lemma recovers_moment (d : Datetime) : Recovers moment (.datetime d) (inUtc d) := by
  intro payload h
  obtain ⟨-, s, hs, rfl⟩ := stores_datetime h
  rw [moment, text, Option.bind_eq_bind, Option.bind_some, Datetime.ofMomentText_momentText hs]
  rw [Datetime.momentText, Option.map_eq_some_iff] at hs
  obtain ⟨u, hu, -⟩ := hs
  rw [inUtc, hu]
  rfl

lemma stores_seq {items : List α} {write : α → Value}
    (h : Stores payload (.seq (items.map write))) :
    ∃ xs, payload = .arr xs ∧ List.Forall₂ (fun x a => Stores x (write a)) xs items := by
  obtain ⟨j, hj, hsame, hdistinct⟩ := h
  simp only [jsonValue, valueElements_eq, map_ok, elements_ok, List.map_map,
    List.forall₂_map_left_iff] at hj
  obtain ⟨js, hjs, rfl⟩ := hj
  obtain ⟨xs, rfl, hxs⟩ := Json.same_arr hsame
  rw [Json.distinct, Json.distinctList_iff] at hdistinct
  refine ⟨xs, rfl, ?_⟩
  clear hsame
  induction hxs generalizing items with
  | nil =>
    cases hjs
    exact .nil
  | @cons x j xs js hx _ ih =>
    cases hjs with
    | cons ha hrest =>
      rw [List.forall_mem_cons] at hdistinct
      exact .cons ⟨j, ha, hx, hdistinct.1⟩ (ih hrest hdistinct.2)

lemma recovers_sequence {write : α → Value} {items : List α}
    (h : ∀ a ∈ items, Recovers read (write a) a) :
    Recovers (sequence read) (.seq (items.map write)) items := by
  intro payload hstores
  obtain ⟨xs, rfl, hxs⟩ := stores_seq hstores
  show xs.mapM read = some items
  clear hstores
  induction hxs with
  | nil => rfl
  | cons hx _ ih =>
    rw [List.forall_mem_cons] at h
    rw [List.mapM_cons, h.1 _ hx, ih h.2]
    rfl

omit [Unicodedata] in
lemma dataclassMembers_names {items : List (String × Except PyException Json)}
    {gs : List (String × Json)} (hclear : ∀ name ∈ items.map Prod.fst, name ∉ volatileHashFields)
    (h : dataclassMembers true items = .ok gs) : gs.map Prod.fst = items.map Prod.fst := by
  induction items generalizing gs with
  | nil =>
    cases h
    rfl
  | cons item items ih =>
    rw [List.map_cons, List.forall_mem_cons] at hclear
    have hkept : ¬ ((true && decide (item.1 ∈ volatileHashFields)) = true) := by
      simpa using hclear.1
    rw [dataclassMembers, if_neg hkept] at h
    obtain ⟨j, -, h⟩ := bind_ok.mp h
    obtain ⟨js, hjs, h⟩ := bind_ok.mp h
    cases h
    rw [List.map_cons, List.map_cons, ih hclear.2 hjs]

namespace Holding

lemma object (h : Holding payload fs) :
    ∃ fields, payload = .obj fields ∧ (fields.map Prod.fst).Perm (fs.map Prod.fst) := by
  obtain ⟨j, hj, hsame, -⟩ := h.stores
  rw [jsonValue, map_ok] at hj
  obtain ⟨gs, hgs, rfl⟩ := hj
  obtain ⟨fields, rfl⟩ := Json.same_obj hsame
  have hnames : gs.map Prod.fst = fs.map Prod.fst := by
    have hitems : (valueFields true fs).map Prod.fst = fs.map Prod.fst := by
      rw [valueFields_eq, List.map_map]
      rfl
    rw [dataclassMembers_names (hitems ▸ h.clear) hgs, hitems]
  refine ⟨fields, rfl, ?_⟩
  rw [← hnames]
  have heq : Json.sortFields (Json.sortedFields fields) = Json.sortFields (Json.sortedFields gs) := by
    simpa only [Json.Same, Json.sorted, Json.obj.injEq] using hsame
  exact (Json.names_sorted fields).symm.trans (heq ▸ Json.names_sorted gs)

lemma keywords (h : Holding payload fs) : Quotes.Payload.keywords (fs.map Prod.fst) payload = true := by
  obtain ⟨fields, rfl, hperm⟩ := h.object
  simp only [Quotes.Payload.keywords, Bool.and_eq_true, List.all_eq_true, decide_eq_true_eq]
  exact ⟨fun f hf => hperm.mem_iff.mp (List.mem_map_of_mem hf), fun n hn => hperm.mem_iff.mpr hn⟩

lemma get? (h : Holding payload fs) (key : String) (hv : fs.lookup key = some v) :
    ∃ kept, payload.get? key = some kept ∧ Stores kept v := by
  obtain ⟨j, hj, hsame, hdistinct⟩ := h.stores
  rw [jsonValue, map_ok] at hj
  obtain ⟨gs, hgs, rfl⟩ := hj
  have hname : key ∈ fs.map Prod.fst := by
    obtain ⟨before, after, rfl, -⟩ := List.lookup_eq_some_iff.mp hv
    simp
  have hlookup := lookup_dataclassMembers hgs (h.clear key hname)
  rw [valueFields_eq, Json.lookup_map, hv, Option.map_some] at hlookup
  obtain ⟨x, hx, hxv⟩ := Option.map_eq_some_iff.mp hlookup
  obtain ⟨kept, hkept, hkeeps, hd⟩ := Json.Holds.get? ⟨hsame, hdistinct⟩ hx
  exact ⟨kept, hkept, x, hxv.symm, hkeeps, hd⟩

lemma field (h : Holding payload fs) (key : String) {a : α} (hv : fs.lookup key = some v)
    (hread : Recovers read v a) : Quotes.Payload.field payload key read = some a := by
  obtain ⟨kept, hkept, hstores⟩ := h.get? key hv
  rw [Quotes.Payload.field, hkept]
  exact hread kept hstores

/-- An optional field reads as `None`, or as what its reader finds. -/
lemma optionalField (h : Holding payload fs) (key : String) {write : β → Value} {f : β → α}
    {o : Option β} (hv : fs.lookup key = some (Quotes.optional write o))
    (hread : ∀ b, Recovers read (write b) (f b)) (hsome : ∀ b, ¬ Stores .null (write b)) :
    Quotes.Payload.optionalField payload key read = some (o.map f) := by
  obtain ⟨kept, hkept, hstores⟩ := h.get? key hv
  obtain ⟨fields, rfl, -⟩ := h.object
  have hgetD : Quotes.Payload.getD (.obj fields) key = some kept := by
    rw [Quotes.Payload.getD, hkept]
    rfl
  rw [Quotes.Payload.optionalField, hgetD, Option.bind_eq_bind, Option.bind_some]
  cases o with
  | none =>
    rw [stores_none hstores]
    rfl
  | some b =>
    have hone : read kept = some (f b) := hread b kept hstores
    split
    · exact absurd hstores (hsome b)
    · rw [hone]
      rfl

end Holding

lemma null_not_uuid (u : Uuid) : ¬ Stores .null (.uuid u) := fun h => by cases stores_uuid h

lemma null_not_enum [StrEnum α] (a : α) : ¬ Stores .null (.enum (.str (value a))) :=
  fun h => by cases stores_enum h

lemma null_not_datetime (d : Datetime) : ¬ Stores .null (.datetime d) := by
  intro h
  obtain ⟨-, s, -, hs⟩ := stores_datetime h
  cases hs

def Captured (d : CanonicalDocument) : Prop :=
  ∃ j s, Settled true j ∧ Json.dumps j = some s ∧ d = documentOf s

lemma captured_of_named {d : CanonicalDocument} (hv : v.Named true)
    (h : canonicalDocument v true = .ok d) : Captured d := by
  obtain ⟨j, s, hj, hs, rfl⟩ := canonicalDocument_ok.mp h
  exact ⟨j, s, jsonValue_settled_of_named id hv hj, hs, rfl⟩

lemma Captured.recovers {d : CanonicalDocument} (h : Captured d) :
    Recovers (fun trace => (canonicalDocument (.json trace) true).toOption) (.document d) d := by
  rintro payload ⟨kept, hkept, hsame, hdistinct⟩
  obtain ⟨j, s, hj, hs, rfl⟩ := h
  have hloads : Json.loads (documentOf s).canonicalJson = some (Json.sorted j) :=
    Json.loads_dumps hj.2 hs
  have hplain : plainValue false (Json.sorted j) = .ok (Json.sorted j) :=
    plainValue_self (settled_mono (by simp) (settled_sorted hj))
  rw [jsonValue, hloads] at hkept
  simp only [hplain] at hkept
  cases hkept
  have hsorted : Json.sorted payload = Json.sorted j := hsame.trans (Json.same_sorted j)
  have hsettled : Settled true payload := by
    refine ⟨Json.allText_of_sorted ?_, hdistinct⟩
    rw [hsorted]
    exact Json.allText_sorted hj.1
  have hvalue : jsonValue true (.json payload) = .ok payload := plainValue_self hsettled
  have hdumps : Json.dumps payload = some s := by
    rw [← Json.dumps_sorted, hsorted, Json.dumps_sorted, hs]
  have hdoc : canonicalDocument (.json payload) true = .ok (documentOf s) :=
    canonicalDocument_ok.mpr ⟨payload, s, hvalue, hdumps, rfl⟩
  show (canonicalDocument (.json payload) true).toOption = some (documentOf s)
  rw [hdoc]
  rfl

lemma jsonValue_arr (xs : List Json) :
    jsonValue true (.json (.arr xs)) = jsonValue true (.seq (xs.map .json)) := by
  rw [jsonValue, plainValue, plainElements_eq, jsonValue, valueElements_eq, List.map_map]
  rfl

lemma members_eq {fs acc : List (String × Json)}
    (hnames : ((acc ++ fs).map Prod.fst).Nodup)
    (hfs : ∀ f ∈ fs, fixed f.1 ∧ f.1 ∉ volatileHashFields) :
    members true (plainMembers true fs) acc = (acc ++ ·) <$>
      dataclassMembers true (valueFields true (fs.map fun f => (f.1, .json f.2))) := by
  induction fs generalizing acc with
  | nil =>
    show Except.ok acc = Except.ok (acc ++ [])
    rw [List.append_nil]
  | cons f fs ih =>
    obtain ⟨⟨hfixed, hclear⟩, hrest⟩ := List.forall_mem_cons.mp hfs
    have hkept : ¬ ((true && decide (f.1 ∈ volatileHashFields)) = true) := by simpa using hclear
    have hfresh : f.1 ∉ acc.map Prod.fst := by
      rw [List.map_append, List.map_cons, List.nodup_append] at hnames
      exact fun hmem => hnames.2.2 _ hmem _ List.mem_cons_self rfl
    rw [plainMembers, members, hfixed, if_neg hkept, if_neg hfresh, List.map_cons, valueFields,
      dataclassMembers, if_neg hkept, jsonValue]
    cases hvalue : plainValue true f.2 with
    | error e => rfl
    | ok j =>
      rw [ok_bind, ok_bind, ih (by simpa using hnames) hrest]
      cases dataclassMembers true (valueFields true (fs.map fun f => (f.1, Value.json f.2))) with
      | error e => rfl
      | ok js =>
        show Except.ok (acc ++ [(f.1, j)] ++ js) = Except.ok (acc ++ (f.1, j) :: js)
        rw [List.append_assoc]
        rfl

lemma jsonValue_obj {fs : List (String × Json)} (hnames : (fs.map Prod.fst).Nodup)
    (hfs : ∀ f ∈ fs, fixed f.1 ∧ f.1 ∉ volatileHashFields) :
    jsonValue true (.json (.obj fs)) =
      jsonValue true (.dataclass (fs.map fun f => (f.1, .json f.2))) := by
  rw [jsonValue, plainValue, @members_eq _ fs [] hnames hfs, jsonValue]
  cases dataclassMembers true (valueFields true (fs.map fun f => (f.1, Value.json f.2))) with
  | error e => rfl
  | ok js => rfl

lemma Holding.of_obj {payload : Json} {fs : List (String × Json)} (names : List String)
    (hfs : fs.map Prod.fst = names) (hnames : names.Nodup)
    (hascii : ∀ name ∈ names, Text.ascii name ∧ name ∉ volatileHashFields)
    (h : Stores payload (.json (.obj fs))) :
    Holding payload (fs.map fun f => (f.1, .json f.2)) where
  stores := by
    subst hfs
    rw [Stores, jsonValue_obj hnames fun f hf =>
      ⟨fixed_ascii (hascii f.1 (List.mem_map_of_mem hf)).1,
        (hascii f.1 (List.mem_map_of_mem hf)).2⟩] at h
    exact h
  clear := by
    subst hfs
    rw [List.map_map]
    exact fun name hname => (hascii name hname).2

lemma stores_captured {v : Value} (hv : v.Named true) {d : CanonicalDocument}
    (h : canonicalDocument v true = .ok d) :
    ∃ payload, Json.loads d.canonicalJson = some payload ∧ Stores payload v := by
  obtain ⟨j, s, hj, hs, rfl⟩ := canonicalDocument_ok.mp h
  have hsettled := jsonValue_settled_of_named id hv hj
  exact ⟨Json.sorted j, Json.loads_dumps hsettled.2 hs, j, hj, Json.same_sorted j,
    Json.distinct_sorted hsettled.2⟩

end NhaTrangLaundry.Domain.Canonical

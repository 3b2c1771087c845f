import NhaTrangLaundry.Worker.CompletedCalls
import Mathlib.Data.List.Dedup

/-! The union at the root of a schema, merged into one object. -/

namespace NhaTrangLaundry.Worker.StrictSchema

open Lib Json JsonSchema Schema

variable {o : Outside} {notes : List Note} {variants : List Schema} {x y : Json}

def propertiesIn : Schema → List (String × Schema)
  | .object properties _ _ _ _ => properties
  | _ => []

def requiredIn : Schema → List String
  | .object _ required _ _ _ => requiredNames required
  | _ => []

def allProperties (variants : List Schema) : List (String × Schema) := variants.flatMap propertiesIn

def declaredAs (properties : List (String × Schema)) (name : String) : List Schema :=
  (properties.filter fun p => p.1 = name).map Prod.snd

/-- What is merged for a name that is declared so. -/
inductive Mix : List Schema → Json → Prop
  | first (s : Schema) : Mix [s] s.text
  | again {known : List Schema} {c : Json} {s : Schema} (h : Mix known c) (hc : c = s.text) :
    Mix (known ++ [s]) c
  | other {known : List Schema} {c : Json} {s : Schema} (h : Mix known c)
    (hc : same c s.text ≠ true) : Mix (known ++ [s]) (anyOf [c, s.text])

def Alike (properties : List (String × Schema)) : Prop :=
  ∀ p ∈ properties, ∀ q ∈ properties, p.1 = q.1 → same p.2.text q.2.text = true →
    p.2.text = q.2.text

lemma Mix.shape {known : List Schema} {c : Json} (h : Mix known c) :
    (∀ s ∈ known, s.text = c) ∨ ∃ a b, c = anyOf [a, b] := by
  induction h with
  | first s => exact .inl fun t ht => by rw [List.mem_singleton.mp ht]
  | again h hc ih =>
    rcases ih with hall | hunion
    · refine .inl fun t ht => ?_
      rcases List.mem_append.mp ht with ht | ht
      · exact hall t ht
      · rw [List.mem_singleton.mp ht, hc]
    · exact .inr hunion
  | other h _ ih => exact .inr ⟨_, _, rfl⟩

lemma Mix.eq_of_alike {known : List Schema} {c j : Json} (h : Mix known c)
    (hall : ∀ s ∈ known, s.text = j) : c = j := by
  induction h with
  | first s => exact hall s (List.mem_singleton_self s)
  | again h _ ih => exact ih fun s hs => hall s (List.mem_append_left _ hs)
  | other h hc ih =>
    have hold := ih fun s hs => hall s (List.mem_append_left _ hs)
    have hnew := hall _ (List.mem_append_right _ (List.mem_singleton_self _))
    exact absurd (by rw [hold, hnew, same_iff]) hc

lemma Mix.takes {known : List Schema} {c : Json} (h : Mix known c) (change : Json → Json)
    (hchange : ∀ a b, change (anyOf [a, b]) = anyOf [change a, change b]) {s : Schema}
    (hs : s ∈ known) (hx : valid o (change s.text) x = true) : valid o (change c) x = true := by
  have hunion : ∀ a b, valid o (change (anyOf [a, b])) x =
      (valid o (change a) x || valid o (change b) x) := by
    intro a b
    have h := @valid_anyVariant o [] x [change a, change b]
    rw [List.any_cons, List.any_cons, List.any_nil, Bool.or_false] at h
    rw [hchange]
    exact h
  induction h with
  | first t =>
    rw [List.mem_singleton.mp hs] at hx
    exact hx
  | again h hc ih =>
    rcases List.mem_append.mp hs with hs | hs
    · exact ih hs
    · rw [hc, ← List.mem_singleton.mp hs]
      exact hx
  | other h _ ih =>
    rw [hunion, Bool.or_eq_true]
    rcases List.mem_append.mp hs with hs | hs
    · exact .inl (ih hs)
    · rw [← List.mem_singleton.mp hs]
      exact .inr hx

lemma key_ne_anyOf (s : Schema) : ∀ f ∈ s.fields, f.1 ≠ "anyOf" := by
  have hplain : ∀ {F : Fields}, Plain F → ∀ f ∈ F, f.1 ≠ "anyOf" := by
    rintro F hF f hf heq
    exact hF f hf (heq ▸ by decide)
  intro f hf
  cases s with
  | scalar type nullable rules =>
    rcases List.mem_append.mp hf with hf | hf
    · revert hf
      cases type <;> cases nullable <;> simp +contextual [typeFields]
    · exact hplain (plain_scalarRules rules) f hf
  | list items rules =>
    rcases List.mem_append.mp hf with hf | hf
    · revert hf
      simp +contextual [or_imp]
    · exact hplain (plain_listRules rules) f hf
  | object properties required closed allOf notes =>
    rcases List.mem_append.mp hf with hf | hf
    · revert hf
      cases required <;> cases closed <;> cases allOf <;>
        simp +contextual [requiredFields, closedFields, allOfFields, or_imp]
    · exact hplain (plain_notes notes) f hf
  | oneOf variants notes =>
    rcases List.mem_cons.mp hf with rfl | hf
    · exact of_decide_eq_true rfl
    · exact hplain (plain_notes notes) f hf

lemma not_same_anyOf (a b : Json) (s : Schema) : same (anyOf [a, b]) s.text ≠ true := by
  intro h
  rw [same_iff, anyOf, Schema.text, sorted, sorted, Json.obj.injEq] at h
  have hmem : ("anyOf", sorted (.arr [a, b])) ∈ sortFields (sortedFields s.fields) :=
    h ▸ (sortFields_perm _).mem_iff.mpr List.mem_cons_self
  rw [(sortFields_perm _).mem_iff, sortedFields_eq] at hmem
  obtain ⟨f, hf, hpair⟩ := List.mem_map.mp hmem
  exact key_ne_anyOf s f hf (Prod.mk.inj hpair).1

lemma mem_declaredAs {properties : List (String × Schema)} {name : String} {s : Schema} :
    s ∈ declaredAs properties name ↔ (name, s) ∈ properties := by
  rw [declaredAs, List.mem_map]
  constructor
  · rintro ⟨p, hp, rfl⟩
    obtain ⟨hp, hname⟩ := List.mem_filter.mp hp
    rw [← of_decide_eq_true hname]
    exact hp
  · exact fun h => ⟨_, List.mem_filter.mpr ⟨h, decide_eq_true rfl⟩, rfl⟩

lemma declaredAs_snoc_self (before : List (String × Schema)) (p : String × Schema) :
    declaredAs (before ++ [p]) p.1 = declaredAs before p.1 ++ [p.2] := by
  simp [declaredAs]

lemma declaredAs_snoc_other {before : List (String × Schema)} {p : String × Schema} {name : String}
    (h : name ≠ p.1) : declaredAs (before ++ [p]) name = declaredAs before name := by
  simp [declaredAs, h.symm]

lemma lookup_replaceField (F : Fields) (name : String) (j : Json) (k : String) :
    (replaceField F name j).lookup k =
      if k = name then (F.lookup k).map (fun _ => j) else F.lookup k := by
  induction F with
  | nil => simp [replaceField]
  | cons f F ih =>
    rw [replaceField] at ih
    rw [replaceField, List.map_cons]
    by_cases hf : f.1 = name
    · rw [if_pos hf, List.lookup_cons, List.lookup_cons, ih, hf]
      by_cases hk : k = name
      · subst hk
        simp
      · rw [beq_eq_false_iff_ne.mpr hk]
    · rw [if_neg hf, List.lookup_cons, List.lookup_cons, ih]
      cases hk : k == f.1 with
      | true =>
        rw [beq_iff_eq] at hk
        subst hk
        exact (if_neg hf).symm
      | false => rfl

lemma map_fst_replaceField (F : Fields) (name : String) (j : Json) :
    (replaceField F name j).map Prod.fst = F.map Prod.fst := by
  rw [replaceField, List.map_map]
  refine List.map_congr_left fun f _ => ?_
  rw [Function.comp_apply]
  split_ifs with h
  · exact h.symm
  · rfl

/-- What the merge has gathered from the properties so far. -/
structure Gathers (properties : List (String × Schema)) (F : Fields) : Prop where
  nodup : (F.map Prod.fst).Nodup
  known : ∀ name c, F.lookup name = some c → Mix (declaredAs properties name) c
  unknown : ∀ name, F.lookup name = none → declaredAs properties name = []

lemma Mix.exists_mem {known : List Schema} {c : Json} (h : Mix known c) : ∃ s, s ∈ known := by
  cases h with
  | first s => exact ⟨s, List.mem_singleton_self s⟩
  | again _ _ => exact ⟨_, List.mem_append_right _ (List.mem_singleton_self _)⟩
  | other _ _ => exact ⟨_, List.mem_append_right _ (List.mem_singleton_self _)⟩

lemma Gathers.step {before : List (String × Schema)} {m : Merge} (h : Gathers before m.properties)
    (required : List String) (p : String × Schema) (halike : Alike (before ++ [p])) :
    Gathers (before ++ [p]) (mergeProperty required m (p.1, p.2.text)).properties := by
  cases hlookup : m.properties.lookup p.1 with
  | none =>
    have hproperties : (mergeProperty required m (p.1, p.2.text)).properties =
        m.properties ++ [(p.1, p.2.text)] := by
      simp only [mergeProperty, hlookup]
    have hnew : ∀ name, (m.properties ++ [(p.1, p.2.text)]).lookup name =
        if name = p.1 then some p.2.text else m.properties.lookup name := by
      intro name
      rw [List.lookup_append]
      split_ifs with hname
      · rw [hname, hlookup]
        simp
      · simp [List.lookup_cons, beq_eq_false_iff_ne.mpr hname]
    rw [hproperties]
    refine ⟨?_, fun name c hc => ?_, fun name hnone => ?_⟩
    · rw [List.map_append, List.nodup_append]
      refine ⟨h.nodup, List.nodup_singleton _, ?_⟩
      rintro k hk l hl rfl
      obtain ⟨f, hf, rfl⟩ := List.mem_map.mp hk
      have hkey : f.1 = p.1 := List.mem_singleton.mp hl
      have hne := List.lookup_eq_none_iff.mp hlookup f hf
      rw [hkey] at hne
      exact absurd hne (by simp)
    · rw [hnew] at hc
      split_ifs at hc with hname
      · cases hc
        rw [hname, declaredAs_snoc_self, h.unknown _ hlookup]
        exact .first p.2
      · rw [declaredAs_snoc_other hname]
        exact h.known name c hc
    · rw [hnew] at hnone
      split_ifs at hnone with hname
      rw [declaredAs_snoc_other hname]
      exact h.unknown name hnone
  | some c =>
    have hmix := h.known _ c hlookup
    have hproperties : (mergeProperty required m (p.1, p.2.text)).properties =
        if same c p.2.text then m.properties
        else replaceField m.properties p.1 (anyOf [c, p.2.text]) := by
      simp only [mergeProperty, hlookup]
    rw [hproperties]
    split_ifs with hsame
    · have halready : c = p.2.text := by
        rcases hmix.shape with hall | ⟨a, b, rfl⟩
        · obtain ⟨s, hs⟩ := hmix.exists_mem
          rw [← hall s hs] at hsame ⊢
          exact halike (p.1, s) (List.mem_append_left _ (mem_declaredAs.mp hs)) p
            (List.mem_append_right _ (List.mem_singleton_self p)) rfl hsame
        · exact absurd hsame (not_same_anyOf a b p.2)
      refine ⟨h.nodup, fun name c' hc' => ?_, fun name hnone => ?_⟩
      · by_cases hname : name = p.1
        · subst hname
          obtain rfl : c = c' := Option.some.inj (hlookup.symm.trans hc')
          rw [declaredAs_snoc_self]
          exact .again hmix halready
        · rw [declaredAs_snoc_other hname]
          exact h.known name c' hc'
      · have hname : name ≠ p.1 := by
          rintro rfl
          rw [hlookup] at hnone
          cases hnone
        rw [declaredAs_snoc_other hname]
        exact h.unknown name hnone
    · refine ⟨by rw [map_fst_replaceField]; exact h.nodup, fun name c' hc' => ?_, fun name hnone => ?_⟩
      · rw [lookup_replaceField] at hc'
        split_ifs at hc' with hname
        · subst hname
          rw [hlookup, Option.map_some, Option.some.injEq] at hc'
          subst hc'
          rw [declaredAs_snoc_self]
          exact .other hmix hsame
        · rw [declaredAs_snoc_other hname]
          exact h.known name c' hc'
      · rw [lookup_replaceField] at hnone
        have hname : name ≠ p.1 := by
          rintro rfl
          rw [if_pos rfl, hlookup] at hnone
          cases hnone
        rw [if_neg hname] at hnone
        rw [declaredAs_snoc_other hname]
        exact h.unknown name hnone

lemma Alike.left {before after : List (String × Schema)} (h : Alike (before ++ after)) :
    Alike before :=
  fun p hp q hq => h p (List.mem_append_left _ hp) q (List.mem_append_left _ hq)

lemma Gathers.properties {before : List (String × Schema)} {m : Merge} (required : List String) :
    ∀ (ps : List (String × Schema)), Gathers before m.properties → Alike (before ++ ps) →
      Gathers (before ++ ps) ((propertyFields ps).foldl (mergeProperty required) m).properties := by
  intro ps
  induction ps generalizing before m with
  | nil =>
    intro h _
    rw [List.append_nil]
    exact h
  | cons p ps ih =>
    intro h halike
    rw [List.append_cons] at halike ⊢
    rw [propertyFields, List.foldl_cons]
    exact ih (h.step required p halike.left) halike

lemma mergeVariant_object (m : Merge) {v : Schema} (hv : v.isObject = true) :
    mergeVariant m v.text =
      (propertyFields (propertiesIn v)).foldl (mergeProperty (requiredIn v)) m := by
  cases v with
  | object properties required closed allOf notes =>
    have hrequired : originallyRequired (Schema.object properties required closed allOf notes).fields =
        requiredNames required := by
      rw [originallyRequired, Schema.fields, List.lookup_append,
        lookup_plain (plain_notes notes) (by decide)]
      cases required with
      | none => cases closed <;> cases allOf <;> rfl
      | some names => exact namesIn_names names
    rw [requiredIn, ← hrequired]
    rfl
  | _ => cases hv

/-- The merge of all variants. -/
theorem gathers_variants (hobjects : ∀ v ∈ variants, v.isObject = true)
    (halike : Alike (allProperties variants)) :
    Gathers (allProperties variants) (mergeVariants (variants.map Schema.text)).properties := by
  have hfold : ∀ (vs : List Schema) (before : List (String × Schema)) (m : Merge),
      (∀ v ∈ vs, v.isObject = true) → Gathers before m.properties →
      Alike (before ++ allProperties vs) → Gathers (before ++ allProperties vs)
        ((vs.map Schema.text).foldl mergeVariant m).properties := by
    intro vs
    induction vs with
    | nil =>
      intro before m _ h _
      rw [allProperties, List.flatMap_nil, List.append_nil]
      exact h
    | cons v vs ih =>
      intro before m hvs h halike
      rw [List.forall_mem_cons] at hvs
      rw [allProperties, List.flatMap_cons, ← List.append_assoc] at halike ⊢
      rw [List.map_cons, List.foldl_cons, mergeVariant_object m hvs.1]
      exact ih _ _ hvs.2 (h.properties _ _ halike.left) halike
  exact hfold variants [] _ hobjects ⟨List.nodup_nil, fun _ _ h => (nomatch h), fun _ _ => rfl⟩
    halike

def requires (name : String) (v : Schema) : Bool :=
  name ∈ (propertiesIn v).map Prod.fst && name ∈ requiredIn v

lemma requiredCount_properties (required : List String) (name : String) :
    ∀ (ps : Fields) (m : Merge), (ps.map Prod.fst).Nodup →
      (ps.foldl (mergeProperty required) m).requiredCount name = m.requiredCount name +
        if name ∈ ps.map Prod.fst ∧ name ∈ required then 1 else 0 := by
  intro ps
  induction ps with
  | nil => intro m _; simp
  | cons p ps ih =>
    intro m hnodup
    rw [List.map_cons, List.nodup_cons] at hnodup
    rw [List.foldl_cons, ih _ hnodup.2]
    by_cases hname : name = p.1
    · subst hname
      by_cases hrequired : p.1 ∈ required <;>
        simp [mergeProperty, hrequired, hnodup.1]
    · have hmem : name ∈ (p :: ps).map Prod.fst ↔ name ∈ ps.map Prod.fst := by
        rw [List.map_cons, List.mem_cons, or_iff_right hname]
      simp only [hmem]
      by_cases hrequired : p.1 ∈ required <;>
        simp [mergeProperty, hrequired, hname, Function.update]

lemma requiredCount_variants (name : String) (hobjects : ∀ v ∈ variants, v.isObject = true)
    (hnodup : ∀ v ∈ variants, ((propertiesIn v).map Prod.fst).Nodup) :
    (mergeVariants (variants.map Schema.text)).requiredCount name =
      variants.countP (requires name) := by
  have hfold : ∀ (vs : List Schema) (m : Merge), (∀ v ∈ vs, v.isObject = true) →
      (∀ v ∈ vs, ((propertiesIn v).map Prod.fst).Nodup) →
      ((vs.map Schema.text).foldl mergeVariant m).requiredCount name =
        m.requiredCount name + vs.countP (requires name) := by
    intro vs
    induction vs with
    | nil => intro m _ _; rfl
    | cons v vs ih =>
      intro m hvs hnames
      rw [List.forall_mem_cons] at hvs hnames
      have hfst : (propertyFields (propertiesIn v)).map Prod.fst = (propertiesIn v).map Prod.fst := by
        rw [propertyFields_eq, List.map_map]
        rfl
      rw [List.map_cons, List.foldl_cons, ih _ hvs.2 hnames.2, mergeVariant_object m hvs.1,
        requiredCount_properties _ _ _ _ (hfst ▸ hnames.1), hfst, List.countP_cons, requires]
      simp only [Bool.and_eq_true, decide_eq_true_eq]
      omega
  have h := hfold variants ⟨[], fun _ => 0, fun _ => 0⟩ hobjects hnodup
  rw [Nat.zero_add] at h
  exact h

def mergedObject (variants : List Schema) (notes : List Note) : Fields :=
  let m := mergeVariants (variants.map Schema.text)
  notes.map Note.field ++ closing (.str "object") (.obj m.properties)
    ((m.properties.filter fun p => m.presence p.1 = variants.length ∧
      m.requiredCount p.1 = variants.length).map Prod.fst)

lemma popField_notes_append (G : Fields) {k : String} (hk : k ∈ structural) (hG : ∀ f ∈ G, f.1 ≠ k) :
    popField (notes.map Note.field ++ G) k = notes.map Note.field ++ G := by
  have hnotes : (notes.map Note.field).filter (fun f => f.1 ≠ k) = notes.map Note.field :=
    popField_plain (plain_notes notes) hk
  have hkept : G.filter (fun f => f.1 ≠ k) = G := by
    rw [List.filter_eq_self]
    exact fun f hf => decide_eq_true (hG f hf)
  rw [popField, List.filter_append, hnotes, hkept]

lemma isObjectSchema_text {v : Schema} (hv : v.isObject = true) : isObjectSchema v.text = true := by
  cases v with
  | object properties required closed allOf notes => rfl
  | _ => cases hv

lemma mergeRootObjectUnion_eq (variants : List Schema) (notes : List Note) :
    mergeRootObjectUnion (Schema.oneOf variants notes).fields (variants.map Schema.text) =
      mergedObject variants notes := by
  have hkept : ((Schema.oneOf variants notes).fields.filter fun f => f.1 ∉ replacedKeys) =
      notes.map Note.field := by
    rw [Schema.fields, List.filter_cons_of_neg (by simp [replacedKeys])]
    exact filter_plain (plain_notes notes) (by decide)
  rw [mergeRootObjectUnion, hkept, mergedObject, closing]
  simp only [List.length_map, List.map_map]
  rfl

lemma prepared_union (hobjects : ∀ v ∈ variants, v.isObject = true) :
    prepared (Schema.oneOf variants notes).fields = mergedObject variants notes := by
  have hunion : (Schema.oneOf variants notes).fields.lookup "oneOf" =
      some (.arr (variants.map Schema.text)) := by
    rw [Schema.fields, variantTexts_eq]
    rfl
  have htypeless : typeless (Schema.oneOf variants notes).fields = true := by
    have htype : (Schema.oneOf variants notes).fields.lookup "type" = none :=
      lookup_plain (plain_notes notes) (by decide)
    rw [typeless, htype]
  have hall : (variants.map Schema.text).all isObjectSchema = true := by
    rw [List.all_map, List.all_eq_true]
    exact fun v hv => isObjectSchema_text (hobjects v hv)
  have hallOf : popField (mergedObject variants notes) "allOf" = mergedObject variants notes :=
    popField_notes_append _ (by decide) (by simp [closing])
  have honeOf : popField (mergedObject variants notes) "oneOf" = mergedObject variants notes :=
    popField_notes_append _ (by decide) (by simp [closing])
  simp only [prepared, hunion, htypeless, hall, Bool.and_self, if_true, mergeRootObjectUnion_eq, hallOf,
    honeOf, ite_self]

lemma prepared_object {properties : List (String × Schema)} (required : Option (List String))
    (closed : Bool) (allOf : Option (List Json)) :
    prepared (Schema.object properties required closed allOf notes).fields =
      (Schema.object properties required closed none notes).fields := by
  have hnone : ∀ allOf', (Schema.object properties required closed allOf' notes).fields.lookup "oneOf" =
      none := by
    intro allOf'
    rw [Schema.fields, List.lookup_append, lookup_plain (plain_notes notes) (by decide)]
    cases required <;> cases closed <;> cases allOf' <;> rfl
  have hnotes : ∀ k ∈ structural, (notes.map Note.field).filter (fun f => f.1 ≠ k) =
      notes.map Note.field := fun k hk => popField_plain (plain_notes notes) hk
  have hallOf : popField (Schema.object properties required closed allOf notes).fields "allOf" =
      (Schema.object properties required closed none notes).fields := by
    rw [popField, Schema.fields, List.filter_append, hnotes _ (by decide), Schema.fields]
    cases required <;> cases closed <;> cases allOf <;> rfl
  have honeOf : popField (Schema.object properties required closed none notes).fields "oneOf" =
      (Schema.object properties required closed none notes).fields := by
    rw [popField, Schema.fields, List.filter_append, hnotes _ (by decide)]
    cases required <;> cases closed <;> rfl
  simp only [prepared, hnone, hallOf, honeOf, ite_self]

end NhaTrangLaundry.Worker.StrictSchema

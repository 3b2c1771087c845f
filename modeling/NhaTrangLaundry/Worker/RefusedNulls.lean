import NhaTrangLaundry.Worker.RootCalls
import Mathlib.Data.List.Pairwise

/-! The nulls that a strict schema refuses, where variants are told apart by their constants. -/

namespace NhaTrangLaundry.Worker.StrictSchema

open Lib Json JsonSchema Schema

variable {o : Outside} {notes : List Note} {variants : List Schema} {F : Fields} {x y : Json}

def isScalar : Schema → Bool
  | .scalar _ _ _ => true
  | _ => false

/-- Both variants require a scalar of which no value is one of both. -/
def Apart (o : Outside) (v w : Schema) : Prop :=
  ∃ name ∈ requiredIn v, name ∈ requiredIn w ∧ ∃ a b, (name, a) ∈ propertiesIn v ∧
    (name, b) ∈ propertiesIn w ∧ isScalar a = true ∧ isScalar b = true ∧
      ∀ y, valid o a.text y = true → valid o b.text y = true → False

mutual

def discriminated (o : Outside) : Schema → Prop
  | .scalar _ _ _ => True
  | .list items _ => discriminated o items
  | .object properties _ closed _ _ => closed = true ∧ discriminatedProperties o properties
  | .oneOf variants _ => variants.Pairwise (Apart o) ∧ discriminatedVariants o variants

def discriminatedProperties (o : Outside) : List (String × Schema) → Prop
  | [] => True
  | (_, s) :: properties => discriminated o s ∧ discriminatedProperties o properties

def discriminatedVariants (o : Outside) : List Schema → Prop
  | [] => True
  | s :: variants => discriminated o s ∧ discriminatedVariants o variants

end

lemma discriminatedProperties_iff {properties : List (String × Schema)} :
    discriminatedProperties o properties ↔ ∀ p ∈ properties, discriminated o p.2 := by
  induction properties with
  | nil => simp [discriminatedProperties]
  | cons p properties ih => rw [discriminatedProperties, ih, List.forall_mem_cons]

lemma discriminatedVariants_iff :
    discriminatedVariants o variants ↔ ∀ s ∈ variants, discriminated o s := by
  induction variants with
  | nil => simp [discriminatedVariants]
  | cons s variants ih => rw [discriminatedVariants, ih, List.forall_mem_cons]

lemma Apart.symm {v w : Schema} (h : Apart o v w) : Apart o w v := by
  obtain ⟨name, hv, hw, a, b, ha, hb, hsa, hsb, hnone⟩ := h
  exact ⟨name, hw, hv, b, a, hb, ha, hsb, hsa, fun y hbx hax => hnone y hax hbx⟩

instance : Std.Symm (Apart o) := ⟨fun _ _ => Apart.symm⟩

lemma apart_of_ne (h : variants.Pairwise (Apart o)) {v w : Schema} (hv : v ∈ variants)
    (hw : w ∈ variants) (hne : v ≠ w) : Apart o v w :=
  h.forall hv hw hne

lemma isObject_of_mem {v : Schema} {p : String × Schema} (h : p ∈ propertiesIn v) :
    v.isObject = true := by
  cases v with
  | object properties required closed allOf notes => rfl
  | _ => cases h

lemma settled_scalar {s : Schema} (h : isScalar s = true) : settled s = s.text := by
  cases s with
  | scalar type nullable rules => rfl
  | _ => cases h

lemma completed_scalar {s : Schema} (h : isScalar s = true) (y : Json) : completed o s y = y := by
  cases s with
  | scalar type nullable rules => rfl
  | _ => cases h

lemma Apart.not_both {v w : Schema} (h : Apart o v w) (hv : valid o v.text x = true)
    (hw : valid o w.text x = true) : False := by
  obtain ⟨name, hreqv, -, a, b, ha, hb, -, -, hnone⟩ := h
  obtain ⟨F, rfl, -, hpv, hrv⟩ := variant_object (isObject_of_mem ha) hv
  obtain ⟨F', hF', -, hpw, -⟩ := variant_object (isObject_of_mem hb) hw
  obtain rfl : F = F' := Json.obj.inj hF'
  obtain ⟨y, hy⟩ := hrv name hreqv
  exact hnone y (hpv _ ha y hy) (hpw _ hb y hy)

lemma Apart.not_settled {v w : Schema} (h : Apart o v w) (hv : v.ordinary)
    (hfree : nullFree x = true) (hvalid : valid o v.text x = true) :
    valid o (settled w) (completed o v x) ≠ true := by
  intro hw
  obtain ⟨name, hreqv, -, a, b, ha, hb, hsa, hsb, hnone⟩ := h
  obtain ⟨F, rfl, hcompleted, hpv, hrv⟩ := variant_object (isObject_of_mem ha) hvalid
  obtain ⟨hnodup, -⟩ := ordinary_variant (isObject_of_mem ha) hv
  obtain ⟨y, hy⟩ := hrv name hreqv
  rw [nullFree, nullFreeFields_iff] at hfree
  have hnull := (hfree _ (mem_of_lookup hy)).1
  have hlookup := @lookup_completeFields o _ F hnodup _ ha
  rw [hy, Option.map_some, Option.getD_some, completed_scalar hsa] at hlookup
  cases w with
  | object properties required closed allOf notes =>
    rw [settled_object, hcompleted, valid_closedObject] at hw
    obtain ⟨G, hG, hparts, -⟩ := hw
    obtain rfl := Json.obj.inj hG
    obtain ⟨z, hz, hzvalid⟩ := hparts _ (List.mem_map_of_mem hb)
    obtain rfl : y = z := Option.some.inj (hlookup.symm.trans hz)
    rw [valid_settledProperty _ _ hnull, settled_scalar hsb] at hzvalid
    exact hnone y (hpv _ ha y hy) hzvalid
  | _ => cases hb

lemma parts_of_valid {properties : List (String × Schema)} {g : String × Schema → Json}
    (hnodup : (properties.map Prod.fst).Nodup)
    (h : valid o (closedObject (listed properties g) notes)
      (.obj (completeFields (completions o properties) F)) = true) :
    ∀ p ∈ properties, (F.lookup p.1 = none → valid o (g p) .null = true) ∧
      ∀ y, F.lookup p.1 = some y → valid o (g p) (completed o p.2 y) = true := by
  rw [valid_closedObject] at h
  obtain ⟨G, hG, hparts, -⟩ := h
  obtain rfl := Json.obj.inj hG
  intro p hp
  obtain ⟨z, hz, hvalid⟩ := hparts _ (List.mem_map_of_mem hp)
  rw [lookup_completeFields hnodup hp] at hz
  constructor
  · intro hnone
    rw [hnone] at hz
    cases hz
    exact hvalid
  · intro y hy
    rw [hy] at hz
    cases hz
    exact hvalid

/-- Where a completed call is taken, all its nulls are. -/
theorem taken_of_valid (s : Schema) : s.ordinary → discriminated o s → ∀ x, nullFree x = true →
    valid o s.text x = true → valid o (settled s) (completed o s x) = true →
    nullsTaken o true s x := by
  induction s using Schema.induction with
  | scalar type nullable rules => exact fun _ _ _ _ _ _ => trivial
  | list items rules ih =>
    intro hs hd x hfree hx hstrict
    have hlist : valid o (listOf items.text rules) x = true := hx
    rw [valid_listOf, Bool.and_eq_true, Bool.and_eq_true, List.all_eq_true] at hlist
    obtain ⟨hislist, hitems, -⟩ := hlist
    cases x with
    | arr xs =>
      rw [nullFree, nullFreeItems_iff] at hfree
      rw [settled, completed] at hstrict
      dsimp only at hstrict
      rw [valid_listOf, Bool.and_eq_true, Bool.and_eq_true, List.all_eq_true] at hstrict
      exact fun y hy => ih hs.1 hd y (hfree y hy) (hitems y hy)
        (hstrict.2.1 _ (List.mem_map_of_mem hy))
    | _ => cases hislist
  | object properties required closed allOf notes ih =>
    intro hs hd x hfree hx hstrict
    obtain ⟨F, rfl, hproperties, hrequired, hclosed⟩ := valid_object hx
    obtain ⟨hnodup, -, hparts⟩ := hs
    rw [ordinaryProperties_iff] at hparts
    obtain ⟨hd, hdparts⟩ := hd
    rw [discriminatedProperties_iff] at hdparts
    rw [nullFree, nullFreeFields_iff] at hfree
    rw [settled_object] at hstrict
    have hvalid := parts_of_valid hnodup hstrict
    refine ⟨hclosed hd, propertiesTaken_iff.mpr fun p hp => ⟨fun hnone => ?_, fun y hy => ?_⟩⟩
    · have hoptional : p.1 ∉ requiredNames required := by
        intro hmem
        obtain ⟨y, hy⟩ := hrequired _ hmem
        exact Option.some_ne_none y (hy.symm.trans hnone)
      have hnull := (hvalid p hp).1 hnone
      rw [decide_eq_false hoptional, valid_settledProperty_null] at hnull
      exact hnull
    · have hy' := hfree _ (mem_of_lookup hy)
      have hpart := (hvalid p hp).2 y hy
      rw [valid_settledProperty _ _ fun hnull => hy'.1 (completed_null _ _ hnull)] at hpart
      exact ih p hp (hparts p hp) (hdparts p hp) y hy'.2 (hproperties p hp y hy) hpart
  | oneOf variants notes ih =>
    intro hs hd x hfree hx hstrict
    obtain ⟨hapart, hdparts⟩ := hd
    rw [discriminatedVariants_iff] at hdparts
    rw [ordinary, ordinaryVariants_iff] at hs
    rw [valid_oneOf, decide_eq_true_eq] at hx
    have htakes : ∃ v ∈ variants, valid o v.text x = true := by
      rw [← List.countP_pos_iff, hx]
      exact Nat.zero_lt_one
    obtain ⟨v, hv, hvalid, hcompleted⟩ := completedVariant_takes htakes
    rw [settled, settledVariants_eq, valid_anyVariant, List.any_map, List.any_eq_true, completed,
      hcompleted] at hstrict
    obtain ⟨w, hw, hwstrict⟩ := hstrict
    have hsame : v = w := by
      by_contra hne
      exact (apart_of_ne hapart hv hw hne).not_settled (hs v hv) hfree hvalid hwstrict
    subst hsame
    refine variantsTaken_iff.mpr fun u hu huvalid => ?_
    have hown : u = v := by
      by_contra hne
      exact (apart_of_ne hapart hu hv hne).not_both huvalid hvalid
    subst hown
    exact ih u hu (hs u hu) (hdparts u hu) x hfree huvalid hwstrict

/-- The variants of a union at the root are apart, and what they describe differently is scalar. -/
def toldApart (o : Outside) : Schema → Prop
  | .oneOf variants _ => variants.Pairwise (Apart o) ∧ (∀ v ∈ variants, discriminated o v) ∧
      ∀ p ∈ allProperties variants, ∀ q ∈ allProperties variants, p.1 = q.1 →
        p.2.text ≠ q.2.text → isScalar p.2 = true
  | s => discriminated o s

lemma discriminated_variant {v : Schema} (hv : v.isObject = true) (hd : discriminated o v)
    (hvalid : valid o v.text (.obj F) = true) :
    (∀ f ∈ F, f.1 ∈ (propertiesIn v).map Prod.fst) ∧ ∀ p ∈ propertiesIn v, discriminated o p.2 := by
  cases v with
  | object properties required closed allOf notes =>
    obtain ⟨F', hF', -, -, hclosed⟩ := valid_object hvalid
    obtain rfl := Json.obj.inj hF'
    exact ⟨hclosed hd.1, discriminatedProperties_iff.mp hd.2⟩
  | _ => cases hv

lemma Merged.part_of_valid (h : Merged variants) {k : Nat} {names : List String}
    (hlevels : ∀ p ∈ allProperties variants, p.2.levels ≤ k)
    (hmixed : ∀ p ∈ allProperties variants, ∀ q ∈ allProperties variants, p.1 = q.1 →
      p.2.text ≠ q.2.text → isScalar p.2 = true) {G : Fields}
    (hG : valid o (closedObject ((mergeVariants (variants.map Schema.text)).properties.map fun p =>
      (p.1, nullableUnless (p.1 ∈ names) (strictNode k (strictNode (k + 1) p.2)))) notes)
      (.obj G) = true) {p : String × Schema} (hp : p ∈ allProperties variants) :
    ∃ z, G.lookup p.1 = some z ∧ ((∀ s ∈ declaredAs (allProperties variants) p.1,
      s.text = p.2.text) → valid o (nullableUnless (p.1 ∈ names) (settled p.2)) z = true) ∧
      (isScalar p.2 = true ∨ ∀ s ∈ declaredAs (allProperties variants) p.1, s.text = p.2.text) := by
  obtain ⟨c, hc, hmix, hdeclared⟩ := h.lookup_declared hp
  rw [valid_closedObject] at hG
  obtain ⟨G', hG', hparts, -⟩ := hG
  obtain rfl := Json.obj.inj hG'
  obtain ⟨z, hz, hvalid⟩ := hparts _ (List.mem_map_of_mem hc)
  refine ⟨z, hz, fun hall => ?_, ?_⟩
  · rw [hmix.eq_of_alike hall, h.compiled hlevels hp] at hvalid
    exact hvalid
  · by_cases hall : ∀ s ∈ declaredAs (allProperties variants) p.1, s.text = p.2.text
    · exact .inr hall
    · push Not at hall
      obtain ⟨s, hs, hne⟩ := hall
      exact .inl (hmixed p hp (p.1, s) (mem_declaredAs.mp hs) rfl hne.symm)

lemma lookup_withNulls_of {names : List String} {G : Fields}
    (hG : withNulls names (.obj F) = .obj G) {name : String} (hname : name ∈ names) :
    G.lookup name = some ((F.lookup name).getD .null) := by
  obtain ⟨G', hG', hlookup⟩ := lookup_withNulls F hname
  obtain rfl := Json.obj.inj (hG.symm.trans hG')
  exact hlookup

/-- Where the strict schema takes a completed call, it takes all its nulls. -/
theorem callTaken_of_valid (s : Schema) (hrooted : rooted s) (hs : s.ordinary) (hd : toldApart o s)
    (hfree : nullFree x = true) (hvalid : valid o s.text x = true)
    (hstrict : valid o (providerStrictSchema s.fields) (completedCall o s x) = true) :
    callTaken o s x := by
  cases s with
  | object properties required closed allOf notes =>
    obtain ⟨F, rfl, hproperties, hrequired, hclosed⟩ := valid_object hvalid
    rw [strict_object hs] at hstrict
    obtain ⟨hnodup, -, hparts⟩ := hs
    rw [ordinaryProperties_iff] at hparts
    obtain ⟨hd, hdparts⟩ := hd
    rw [discriminatedProperties_iff] at hdparts
    rw [nullFree, nullFreeFields_iff] at hfree
    have hpart := parts_of_valid hnodup hstrict
    refine ⟨hclosed hd, propertiesTaken_iff.mpr fun p hp => ⟨fun hnone => ?_, fun y hy => ?_⟩⟩
    · have hoptional : p.1 ∉ requiredNames required := by
        intro hmem
        obtain ⟨y, hy⟩ := hrequired _ hmem
        exact Option.some_ne_none y (hy.symm.trans hnone)
      have hnull := (hpart p hp).1 hnone
      rw [decide_eq_false hoptional] at hnull
      exact (valid_nullable_null p.2).symm.trans hnull
    · have hy' := hfree _ (mem_of_lookup hy)
      have hown := (hpart p hp).2 y hy
      rw [valid_nullableUnless _ _ fun hnull => hy'.1 (completed_null _ _ hnull)] at hown
      exact taken_of_valid p.2 (hparts p hp) (hdparts p hp) y hy'.2 (hproperties p hp y hy) hown
  | oneOf variants notes =>
    have hmerged : Merged variants := ⟨hrooted.1, hrooted.2, ordinaryVariants_iff.mp hs⟩
    obtain ⟨hapart, hdparts, hmixed⟩ := hd
    rw [valid_oneOf, decide_eq_true_eq] at hvalid
    have htakes : ∃ v ∈ variants, valid o v.text x = true := by
      rw [← List.countP_pos_iff, hvalid]
      exact Nat.zero_lt_one
    obtain ⟨v, hv, hvx, hcompleted⟩ := completedVariant_takes htakes
    have hown : ∀ u ∈ variants, valid o u.text x = true → u = v := by
      intro u hu hux
      by_contra hne
      exact (apart_of_ne hapart hu hv hne).not_both hux hvx
    obtain ⟨F, rfl, hfields, hproperties, hrequired⟩ := variant_object (hrooted.1 v hv) hvx
    obtain ⟨hnodup, -, hparts⟩ := ordinary_variant (hrooted.1 v hv) (hmerged.ordinary v hv)
    obtain ⟨hknown, hdv⟩ := discriminated_variant (hrooted.1 v hv) (hdparts v hv) hvx
    obtain ⟨k, names, hlevels, hnames, hcompiled⟩ := @Merged.strict notes _ hmerged
    rw [nullFree, nullFreeFields_iff] at hfree
    rw [completedCall] at hstrict
    dsimp only at hstrict
    obtain ⟨G, hG⟩ : ∃ G, withNulls (propertyNames variants)
        (.obj (completeFields (completions o (propertiesIn v)) F)) = .obj G := ⟨_, rfl⟩
    rw [hcompleted, hfields, hcompiled, hG] at hstrict
    have hmem : ∀ p ∈ propertiesIn v, p ∈ allProperties variants := fun p hp =>
      mem_allProperties.mpr ⟨v, hv, hp⟩
    refine ⟨fun u hu hux => ?_, fun p hp hnone hall => ?_⟩
    · rw [hown u hu hux]
      refine ⟨hknown, fun p hp y hy => ?_⟩
      obtain ⟨z, hz, htaken, hscalar⟩ := hmerged.part_of_valid hlevels hmixed hstrict (hmem p hp)
      rcases hscalar with hscalar | hall
      · cases hp2 : p.2 with
        | scalar type nullable rules => trivial
        | _ => rw [hp2] at hscalar; cases hscalar
      · have hy' := hfree _ (mem_of_lookup hy)
        rw [lookup_withNulls_of hG (List.mem_map_of_mem (hmem p hp)),
          lookup_completeFields hnodup hp, Option.getD_some] at hz
        change F.lookup p.1 = some y at hy
        rw [hy] at hz
        cases hz
        have htaken := htaken hall
        rw [Option.map_some, Option.getD_some,
          valid_nullableUnless _ _ fun hnull => hy'.1 (completed_null _ _ hnull)] at htaken
        exact taken_of_valid p.2 (hparts p hp) (hdv p hp) y hy'.2 (hproperties p hp y hy) htaken
    · obtain ⟨z, hz, htaken, -⟩ := hmerged.part_of_valid hlevels hmixed hstrict hp
      have hoptional : p.1 ∉ names := by
        intro hname
        obtain ⟨y, hy⟩ := hrequired _ (hnames _ hname v hv)
        exact Option.some_ne_none y (hy.symm.trans hnone)
      change F.lookup p.1 = none at hnone
      rw [lookup_withNulls_of hG (List.mem_map_of_mem hp),
        lookup_completeFields_absent hnodup hnone] at hz
      cases hz
      have htaken := htaken hall
      rw [decide_eq_false hoptional] at htaken
      exact (valid_nullable_null p.2).symm.trans htaken
  | _ => exact hrooted.elim

end NhaTrangLaundry.Worker.StrictSchema

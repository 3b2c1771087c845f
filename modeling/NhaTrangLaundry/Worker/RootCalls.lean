import NhaTrangLaundry.Worker.RootUnions

/-! Whole calls under the schemas of the registry. -/

namespace NhaTrangLaundry.Worker.StrictSchema

open Lib Json JsonSchema Schema

variable {o : Outside} {notes : List Note} {variants : List Schema} {F : Fields} {x y : Json}

/-- `null` for every name that is absent. -/
def withNulls (names : List String) : Json → Json
  | .obj fields => .obj (fields ++
      (names.filter fun name => (fields.lookup name).isNone).dedup.map fun name => (name, .null))
  | x => x

def propertyNames (variants : List Schema) : List String := (allProperties variants).map Prod.fst

/-- A call with null for every property that it leaves out; a union at the root is one object. -/
def completedCall (o : Outside) : Schema → Json → Json
  | .oneOf variants _ => fun x => withNulls (propertyNames variants) (completedVariant o variants x)
  | s => completed o s

def membersTaken (o : Outside) (properties : List (String × Schema)) (x : Json) : Prop :=
  (∀ f ∈ members x, f.1 ∈ properties.map Prod.fst) ∧
    ∀ p ∈ properties, ∀ y, (members x).lookup p.1 = some y → nullsTaken o true p.2 y

/-- What a whole call leaves out may be given as null. Of the union at the root that is asked of a
property that all variants having it describe alike. -/
def callTaken (o : Outside) : Schema → Json → Prop
  | .oneOf variants _ => fun x =>
    (∀ v ∈ variants, valid o v.text x = true → membersTaken o (propertiesIn v) x) ∧
      ∀ p ∈ allProperties variants, (members x).lookup p.1 = none →
        (∀ s ∈ declaredAs (allProperties variants) p.1, s.text = p.2.text) →
          takesNull false p.2 = true
  | s => nullsTaken o false s

/-- The schema of a request: an object, or a union of objects. -/
def rooted : Schema → Prop
  | .object _ _ _ _ _ => True
  | .oneOf variants _ => (∀ v ∈ variants, v.isObject = true) ∧ Alike (allProperties variants)
  | _ => False

lemma depth_item {xs : List Json} (h : x ∈ xs) : depth x < depth (.arr xs) := by
  rw [depth, Nat.lt_succ_iff]
  induction xs with
  | nil => cases h
  | cons z xs ih =>
    rw [depthItems]
    rcases List.mem_cons.mp h with rfl | h
    · exact le_max_left _ _
    · exact (ih h).trans (le_max_right _ _)

lemma depth_field {f : String × Json} (h : f ∈ F) : depth f.2 < depth (.obj F) := by
  rw [depth, Nat.lt_succ_iff]
  induction F with
  | nil => cases h
  | cons g F ih =>
    rw [depthFields]
    rcases List.mem_cons.mp h with rfl | h
    · exact le_max_left _ _
    · exact (ih h).trans (le_max_right _ _)

lemma levelsOfProperties_le {properties : List (String × Schema)} {n : Nat}
    (h : ∀ p ∈ properties, p.2.levels ≤ n) : levelsOfProperties properties ≤ n := by
  induction properties with
  | nil => exact Nat.zero_le n
  | cons p properties ih =>
    rw [List.forall_mem_cons] at h
    exact max_le h.1 (ih h.2)

lemma levelsOfVariants_le {n : Nat} (h : ∀ s ∈ variants, s.levels ≤ n) :
    levelsOfVariants variants ≤ n := by
  induction variants with
  | nil => exact Nat.zero_le n
  | cons s variants ih =>
    rw [List.forall_mem_cons] at h
    exact max_le h.1 (ih h.2)

lemma levels_le_depth (s : Schema) : s.levels ≤ depth s.text := by
  induction s using Schema.induction with
  | scalar type nullable rules => exact Nat.zero_le _
  | list items rules ih =>
    have hfield : depth items.text < depth (Schema.list items rules).text :=
      depth_field (f := ("items", items.text)) (by simp [Schema.fields, Schema.text])
    exact ih.trans hfield.le
  | object properties required closed allOf notes ih =>
    have hfield : depth (.obj (propertyFields properties)) <
        depth (Schema.object properties required closed allOf notes).text :=
      depth_field (f := ("properties", .obj (propertyFields properties))) (by simp [Schema.fields])
    refine Nat.succ_le_of_lt (lt_of_le_of_lt (levelsOfProperties_le fun p hp => ?_) hfield)
    have hproperty : depth p.2.text < depth (.obj (propertyFields properties)) := by
      rw [propertyFields_eq]
      exact depth_field (f := (p.1, p.2.text)) (List.mem_map.mpr ⟨p, hp, rfl⟩)
    exact (ih p hp).trans hproperty.le
  | oneOf variants notes ih =>
    refine levelsOfVariants_le fun s hs => ?_
    have hitem : depth s.text < depth (.arr (variantTexts variants)) := by
      rw [variantTexts_eq]
      exact depth_item (List.mem_map_of_mem hs)
    have hfield : depth (.arr (variantTexts variants)) < depth (Schema.oneOf variants notes).text :=
      depth_field (f := ("oneOf", .arr (variantTexts variants))) List.mem_cons_self
    exact ((ih s hs).trans hitem.le).trans hfield.le

lemma Mix.depth_le {known : List Schema} {c : Json} (h : Mix known c) {s : Schema} (hs : s ∈ known) :
    depth s.text ≤ depth c := by
  have hunion : ∀ a b, depth a ≤ depth (anyOf [a, b]) ∧ depth b ≤ depth (anyOf [a, b]) := by
    intro a b
    have hfield : depth (.arr [a, b]) < depth (anyOf [a, b]) :=
      depth_field (f := ("anyOf", .arr [a, b])) List.mem_cons_self
    exact ⟨((depth_item List.mem_cons_self).trans hfield).le,
      ((depth_item (List.mem_cons_of_mem _ List.mem_cons_self)).trans hfield).le⟩
  induction h with
  | first t => rw [List.mem_singleton.mp hs]
  | again h hc ih =>
    rcases List.mem_append.mp hs with hs | hs
    · exact ih hs
    · rw [List.mem_singleton.mp hs, hc]
  | other h _ ih =>
    rcases List.mem_append.mp hs with hs | hs
    · exact (ih hs).trans (hunion _ _).1
    · rw [List.mem_singleton.mp hs]
      exact (hunion _ _).2

lemma strict_object {properties : List (String × Schema)} {required : Option (List String)}
    {closed : Bool} {allOf : Option (List Json)}
    (h : (Schema.object properties required closed allOf notes).ordinary) :
    providerStrictSchema (Schema.object properties required closed allOf notes).fields =
      closedObject (listed properties fun p =>
        nullableUnless (p.1 ∈ requiredNames required) (settled p.2)) notes := by
  have hordinary : (Schema.object properties required closed none notes).ordinary := h
  have hlevels := levels_le_depth (Schema.object properties required closed none notes)
  rw [providerStrictSchema, prepared_object]
  exact (compiles _ hordinary _ hlevels).first.trans (by rw [once, listed])

lemma valid_nullableUnless (b : Bool) (s : Schema) (hx : x ≠ .null) :
    valid o (nullableUnless b (settled s)) x = valid o (settled s) x := by
  rw [nullableUnless]
  split_ifs
  · rfl
  · exact valid_nullable s hx

lemma mem_allProperties {p : String × Schema} :
    p ∈ allProperties variants ↔ ∃ v ∈ variants, p ∈ propertiesIn v := List.mem_flatMap

lemma ordinary_variant {v : Schema} (hv : v.isObject = true) (h : v.ordinary) :
    ((propertiesIn v).map Prod.fst).Nodup ∧
      (∀ p ∈ propertiesIn v, p.1 ∉ ["oneOf", "allOf", "properties"]) ∧
      ∀ p ∈ propertiesIn v, p.2.ordinary := by
  cases v with
  | object properties required closed allOf notes =>
    exact ⟨h.1, h.2.1, ordinaryProperties_iff.mp h.2.2⟩
  | _ => cases hv

structure Merged (variants : List Schema) : Prop where
  objects : ∀ v ∈ variants, v.isObject = true
  alike : Alike (allProperties variants)
  ordinary : ∀ v ∈ variants, v.ordinary

section Merged

variable (h : Merged variants)

include h

lemma Merged.gathers :
    Gathers (allProperties variants) (mergeVariants (variants.map Schema.text)).properties :=
  gathers_variants h.objects h.alike

lemma Merged.mix {p : String × Json} (hp : p ∈ (mergeVariants (variants.map Schema.text)).properties) :
    Mix (declaredAs (allProperties variants) p.1) p.2 :=
  h.gathers.known _ _ (lookup_of_nodup h.gathers.nodup hp)

lemma Merged.part {p : String × Schema} (hp : p ∈ allProperties variants) :
    p.1 ∉ ["oneOf", "allOf", "properties"] ∧ p.2.ordinary := by
  obtain ⟨v, hv, hpv⟩ := mem_allProperties.mp hp
  obtain ⟨-, hnames, hparts⟩ := ordinary_variant (h.objects v hv) (h.ordinary v hv)
  exact ⟨hnames p hpv, hparts p hpv⟩

lemma Merged.ordinary_properties :
    Ordinary (mergeVariants (variants.map Schema.text)).properties := by
  intro p hp
  have hmix := h.mix hp
  obtain ⟨s, hs⟩ := hmix.exists_mem
  refine ⟨(h.part (mem_declaredAs.mp hs)).1, ?_⟩
  rcases hmix.shape with hall | ⟨a, b, hunion⟩
  · exact ⟨_, (hall s hs).symm⟩
  · exact ⟨_, hunion⟩

lemma Merged.lookup_declared {p : String × Schema} (hp : p ∈ allProperties variants) :
    ∃ c, (p.1, c) ∈ (mergeVariants (variants.map Schema.text)).properties ∧
      Mix (declaredAs (allProperties variants) p.1) c ∧
        p.2 ∈ declaredAs (allProperties variants) p.1 := by
  have hdeclared : p.2 ∈ declaredAs (allProperties variants) p.1 := mem_declaredAs.mpr hp
  cases hlookup : (mergeVariants (variants.map Schema.text)).properties.lookup p.1 with
  | none =>
    rw [h.gathers.unknown _ hlookup] at hdeclared
    cases hdeclared
  | some c => exact ⟨c, mem_of_lookup hlookup, h.gathers.known _ _ hlookup, hdeclared⟩

lemma Merged.strict : ∃ (k : Nat) (names : List String), (∀ p ∈ allProperties variants, p.2.levels ≤ k) ∧
    (∀ name ∈ names, ∀ v ∈ variants, name ∈ requiredIn v) ∧
    providerStrictSchema (Schema.oneOf variants notes).fields =
      closedObject ((mergeVariants (variants.map Schema.text)).properties.map fun p =>
        (p.1, nullableUnless (p.1 ∈ names) (strictNode k (strictNode (k + 1) p.2)))) notes := by
  obtain ⟨k, hk⟩ : ∃ k, depth (.obj (mergedObject variants notes)) = k + 1 := ⟨_, rfl⟩
  refine ⟨k, ((mergeVariants (variants.map Schema.text)).properties.filter fun p =>
    (mergeVariants (variants.map Schema.text)).presence p.1 = variants.length ∧
      (mergeVariants (variants.map Schema.text)).requiredCount p.1 = variants.length).map Prod.fst,
    fun p hp => ?_, fun name hname v hv => ?_, ?_⟩
  · obtain ⟨c, hc, hmix, hdeclared⟩ := h.lookup_declared hp
    have hproperty : depth c < depth (.obj (mergeVariants (variants.map Schema.text)).properties) :=
      depth_field hc
    have hobject : depth (.obj (mergeVariants (variants.map Schema.text)).properties) <
        depth (.obj (mergedObject variants notes)) :=
      depth_field (f := ("properties", .obj (mergeVariants (variants.map Schema.text)).properties))
        (List.mem_append_right _ (by simp [closing]))
    have hlevels := levels_le_depth p.2
    have hdepth := hmix.depth_le hdeclared
    omega
  · obtain ⟨p, hp, rfl⟩ := List.mem_map.mp hname
    have hcount := (of_decide_eq_true (List.mem_filter.mp hp).2).2
    rw [requiredCount_variants _ h.objects fun v hv =>
      (ordinary_variant (h.objects v hv) (h.ordinary v hv)).1, List.countP_eq_length] at hcount
    have hrequires := hcount v hv
    rw [requires, Bool.and_eq_true, decide_eq_true_eq, decide_eq_true_eq] at hrequires
    exact hrequires.2
  · rw [providerStrictSchema, prepared_union h.objects]
    rw [hk, strictNode, mergedObject]
    exact node_closing h.ordinary_properties _

lemma Merged.compiled {k : Nat} (hlevels : ∀ p ∈ allProperties variants, p.2.levels ≤ k)
    {p : String × Schema} (hp : p ∈ allProperties variants) :
    strictNode k (strictNode (k + 1) p.2.text) = settled p.2 := by
  have hordinary := (h.part hp).2
  rw [(compiles p.2 hordinary (k + 1) ((hlevels p hp).trans (Nat.le_succ k))).first,
    (compiles p.2 hordinary k (hlevels p hp)).second]

end Merged

lemma strict_anyOf (k : Nat) (a b : Json) : strictNode k (strictNode (k + 1) (anyOf [a, b])) =
    anyOf [strictNode k (strictNode (k + 1) a), strictNode k (strictNode (k + 1) b)] := by
  obtain ⟨compile, hcompile⟩ := strictNode_eq k
  rw [strictNode, hcompile, node_anyOf, node_anyOf, List.map_map]
  rfl

lemma nullable_anyOf (schemas : List Json) :
    nullableSchema (anyOf schemas) = anyOf [anyOf schemas, typeNull] :=
  rfl

lemma Merged.valid_mix (h : Merged variants) {k : Nat}
    (hlevels : ∀ p ∈ allProperties variants, p.2.levels ≤ k) {p : String × Schema}
    (hp : p ∈ allProperties variants) {c : Json}
    (hmix : Mix (declaredAs (allProperties variants) p.1) c) (b : Bool) (hx : x ≠ .null)
    (hvalid : valid o (settled p.2) x = true) :
    valid o (nullableUnless b (strictNode k (strictNode (k + 1) c))) x = true := by
  have hdeclared : p.2 ∈ declaredAs (allProperties variants) p.1 := mem_declaredAs.mpr hp
  have htaken : valid o (strictNode k (strictNode (k + 1) c)) x = true :=
    hmix.takes (fun j => strictNode k (strictNode (k + 1) j)) (strict_anyOf k) hdeclared
      (by rw [h.compiled hlevels hp]; exact hvalid)
  rcases hmix.shape with hall | ⟨d, e, rfl⟩
  · rw [← hall _ hdeclared, h.compiled hlevels hp, valid_nullableUnless b _ hx]
    exact hvalid
  · rw [nullableUnless]
    split_ifs
    · exact htaken
    · rw [strict_anyOf] at htaken ⊢
      rw [nullable_anyOf, valid_anyOf_null, htaken, Bool.true_or]

lemma Merged.valid_mix_null (h : Merged variants) {k : Nat}
    (hlevels : ∀ p ∈ allProperties variants, p.2.levels ≤ k) {p : String × Schema}
    (hp : p ∈ allProperties variants) {c : Json}
    (hmix : Mix (declaredAs (allProperties variants) p.1) c)
    (htaken : (∀ s ∈ declaredAs (allProperties variants) p.1, s.text = p.2.text) →
      takesNull false p.2 = true) :
    valid o (nullableSchema (strictNode k (strictNode (k + 1) c))) .null = true := by
  have hdeclared : p.2 ∈ declaredAs (allProperties variants) p.1 := mem_declaredAs.mpr hp
  rcases hmix.shape with hall | ⟨d, e, rfl⟩
  · rw [← hall _ hdeclared, h.compiled hlevels hp, valid_nullable_null]
    exact htaken fun s hs => (hall s hs).trans (hall _ hdeclared).symm
  · rw [strict_anyOf, nullable_anyOf, valid_anyOf_null]
    exact Bool.or_true _

lemma lookup_withNulls (F : Fields) {names : List String} {name : String} (hname : name ∈ names) :
    ∃ G, withNulls names (.obj F) = .obj G ∧
      G.lookup name = some ((F.lookup name).getD .null) := by
  refine ⟨_, rfl, ?_⟩
  rw [List.lookup_append]
  cases hF : F.lookup name with
  | some y => rfl
  | none =>
    have hmem : (name, Json.null) ∈ ((names.filter fun name => (F.lookup name).isNone).dedup.map
        fun name => (name, Json.null)) := by
      refine List.mem_map.mpr ⟨name, List.mem_dedup.mpr (List.mem_filter.mpr ⟨hname, ?_⟩), rfl⟩
      rw [hF]
      rfl
    have hnodup : ((((names.filter fun name => (F.lookup name).isNone).dedup.map
        fun name => (name, Json.null))).map Prod.fst).Nodup := by
      rw [List.map_map]
      exact (List.nodup_dedup _).map fun _ _ h => h
    exact lookup_of_nodup hnodup hmem

lemma names_withNulls {names : List String} (hF : ∀ f ∈ F, f.1 ∈ names) :
    ∃ G, withNulls names (.obj F) = .obj G ∧ ∀ f ∈ G, f.1 ∈ names := by
  refine ⟨_, rfl, fun f hf => ?_⟩
  rcases List.mem_append.mp hf with hf | hf
  · exact hF f hf
  · obtain ⟨name, hname, rfl⟩ := List.mem_map.mp hf
    exact (List.mem_filter.mp (List.mem_dedup.mp hname)).1

lemma dropNullFields_nulls (F : Fields) (names : List String) :
    dropNullFields (F ++ names.map fun name => (name, .null)) = dropNullFields F := by
  have hgone : ((names.map fun name => (name, Json.null)).filter fun f => !isNull f.2) = [] := by
    rw [List.filter_eq_nil_iff]
    intro f hf
    obtain ⟨name, -, rfl⟩ := List.mem_map.mp hf
    exact Bool.false_ne_true
  rw [dropNullFields_eq, dropNullFields_eq, List.filter_append, hgone, List.append_nil]

/-- What is added to a whole call is dropped again. -/
theorem dropNull_completedCall (s : Schema) (hx : nullFree x = true) :
    dropNullObjectFields (completedCall o s x) = x := by
  cases s with
  | oneOf variants notes =>
    have hcompleted : dropNullObjectFields (completedVariant o variants x) = x :=
      dropNull_completed (.oneOf variants notes) x hx
    rw [completedCall]
    dsimp only
    cases hv : completedVariant o variants x with
    | obj fields =>
      rw [hv] at hcompleted
      rw [withNulls, dropNullObjectFields, dropNullFields_nulls]
      exact hcompleted
    | _ =>
      rw [hv] at hcompleted
      exact hcompleted
  | _ => exact dropNull_completed _ x hx

lemma variant_object {v : Schema} (hv : v.isObject = true) (hvalid : valid o v.text x = true) :
    ∃ F, x = .obj F ∧
      completed o v x = .obj (completeFields (completions o (propertiesIn v)) F) ∧
      (∀ p ∈ propertiesIn v, ∀ y, F.lookup p.1 = some y → valid o p.2.text y = true) ∧
      ∀ name ∈ requiredIn v, ∃ y, F.lookup name = some y := by
  cases v with
  | object properties required closed allOf notes =>
    obtain ⟨F, rfl, hproperties, hrequired, -⟩ := valid_object hvalid
    exact ⟨F, rfl, rfl, hproperties, hrequired⟩
  | _ => cases hv

lemma lookup_completeFields_unknown {properties : List (String × Schema)} {name : String}
    (hname : name ∉ properties.map Prod.fst) (hF : F.lookup name = none) :
    (completeFields (completions o properties) F).lookup name = none := by
  rw [List.lookup_eq_none_iff] at hF ⊢
  intro f hf
  rcases List.mem_append.mp hf with hf | hf
  · obtain ⟨g, hg, rfl⟩ := List.mem_map.mp hf
    exact hF g hg
  · obtain ⟨c, hc, rfl⟩ := List.mem_map.mp hf
    rw [completions_eq] at hc
    obtain ⟨p, hp, rfl⟩ := List.mem_map.mp (List.mem_filter.mp hc).1
    rw [bne_iff_ne]
    rintro rfl
    exact hname (List.mem_map_of_mem hp)

lemma lookup_completeFields_absent {properties : List (String × Schema)} {name : String}
    (hnodup : (properties.map Prod.fst).Nodup) (hF : F.lookup name = none) :
    ((completeFields (completions o properties) F).lookup name).getD .null = .null := by
  by_cases hown : name ∈ properties.map Prod.fst
  · obtain ⟨t, ht, rfl⟩ := List.mem_map.mp hown
    rw [lookup_completeFields hnodup ht, hF]
    rfl
  · rw [lookup_completeFields_unknown hown hF]
    rfl

lemma mem_propertyNames {name : String} (h : name ∈ propertyNames variants) :
    ∃ s, (name, s) ∈ allProperties variants := by
  obtain ⟨p, hp, rfl⟩ := List.mem_map.mp h
  exact ⟨p.2, hp⟩

lemma Merged.valid_completed (h : Merged variants) {v : Schema} (hv : v ∈ variants)
    (hfree : nullFree x = true) (hvalid : valid o v.text x = true)
    (hmembers : membersTaken o (propertiesIn v) x)
    (habsent : ∀ p ∈ allProperties variants, (members x).lookup p.1 = none →
      (∀ s ∈ declaredAs (allProperties variants) p.1, s.text = p.2.text) →
        takesNull false p.2 = true) :
    valid o (providerStrictSchema (Schema.oneOf variants notes).fields)
      (withNulls (propertyNames variants) (completed o v x)) = true := by
  obtain ⟨F, rfl, hcompleted, hproperties, hrequired⟩ := variant_object (h.objects v hv) hvalid
  obtain ⟨hnodup, -, hparts⟩ := ordinary_variant (h.objects v hv) (h.ordinary v hv)
  obtain ⟨k, names, hlevels, hnames, hstrict⟩ := @Merged.strict notes _ h
  obtain ⟨hknown, htaken⟩ := hmembers
  rw [nullFree, nullFreeFields_iff] at hfree
  have hmem : ∀ p ∈ propertiesIn v, p ∈ allProperties variants := fun p hp =>
    mem_allProperties.mpr ⟨v, hv, hp⟩
  have hinside : ∀ f ∈ completeFields (completions o (propertiesIn v)) F,
      f.1 ∈ propertyNames variants := by
    intro f hf
    obtain ⟨p, hp, heq⟩ := List.mem_map.mp (names_completeFields hknown f hf)
    exact List.mem_map.mpr ⟨p, hmem p hp, heq⟩
  rw [hcompleted, hstrict, valid_closedObject]
  obtain ⟨G, hG, hclosed⟩ := names_withNulls hinside
  refine ⟨G, hG, fun q hq => ?_, fun f hf => ?_⟩
  · obtain ⟨p, hp, rfl⟩ := List.mem_map.mp hq
    have hmix := h.mix hp
    obtain ⟨s, hs⟩ := hmix.exists_mem
    have hdeclared : (p.1, s) ∈ allProperties variants := mem_declaredAs.mp hs
    obtain ⟨G', hG', hlookup⟩ := lookup_withNulls (completeFields (completions o (propertiesIn v)) F)
      (List.mem_map.mpr ⟨_, hdeclared, rfl⟩ : p.1 ∈ propertyNames variants)
    obtain rfl : G = G' := Json.obj.inj (hG.symm.trans hG')
    refine ⟨_, hlookup, ?_⟩
    cases hF : F.lookup p.1 with
    | some y =>
      obtain ⟨t, ht, hname⟩ := List.mem_map.mp (hknown _ (mem_of_lookup hF))
      dsimp only at hname
      rw [← hname] at hF hmix ⊢
      have hy := hfree _ (mem_of_lookup hF)
      rw [lookup_completeFields hnodup ht, hF]
      exact h.valid_mix hlevels (hmem t ht) hmix _ (fun hnull => hy.1 (completed_null _ _ hnull))
        (StrictSchema.valid_completed t.2 (hparts t ht) y hy.2 (hproperties t ht y hF)
          (htaken t ht y hF))
    | none =>
      have hoptional : p.1 ∉ names := by
        intro hname
        obtain ⟨y, hy⟩ := hrequired _ (hnames _ hname v hv)
        exact Option.some_ne_none y (hy.symm.trans hF)
      rw [lookup_completeFields_absent hnodup hF, decide_eq_false hoptional]
      exact h.valid_mix_null hlevels hdeclared hmix (habsent _ hdeclared hF)
  · obtain ⟨s, hs⟩ := mem_propertyNames (hclosed f hf)
    obtain ⟨c, hc, -⟩ := h.lookup_declared hs
    rw [List.map_map]
    exact List.mem_map.mpr ⟨_, hc, rfl⟩

/-- A call of which every null is taken is one that the strict schema takes. -/
theorem valid_completedCall (s : Schema) (hrooted : rooted s) (hs : s.ordinary)
    (hfree : nullFree x = true) (hvalid : valid o s.text x = true) (htaken : callTaken o s x) :
    valid o (providerStrictSchema s.fields) (completedCall o s x) = true := by
  cases s with
  | object properties required closed allOf notes =>
    obtain ⟨F, rfl, hproperties, hrequired, -⟩ := valid_object hvalid
    rw [strict_object hs]
    obtain ⟨hnodup, -, hparts⟩ := hs
    rw [ordinaryProperties_iff] at hparts
    obtain ⟨hknown, htaken⟩ := htaken
    rw [propertiesTaken_iff] at htaken
    rw [nullFree, nullFreeFields_iff] at hfree
    refine valid_completeFields hnodup hknown (fun p hp hnone => ?_) fun p hp y hy => ?_
    · have hoptional : p.1 ∉ requiredNames required := by
        intro hmem
        obtain ⟨y, hy⟩ := hrequired _ hmem
        exact Option.some_ne_none y (hy.symm.trans hnone)
      rw [decide_eq_false hoptional]
      exact (valid_nullable_null p.2).trans ((htaken p hp).1 hnone)
    · have hy' := hfree _ (mem_of_lookup hy)
      rw [valid_nullableUnless _ _ fun hnull => hy'.1 (completed_null _ _ hnull)]
      exact valid_completed p.2 (hparts p hp) y hy'.2 (hproperties p hp y hy) ((htaken p hp).2 y hy)
  | oneOf variants notes =>
    have hmerged : Merged variants := ⟨hrooted.1, hrooted.2, ordinaryVariants_iff.mp hs⟩
    rw [valid_oneOf, decide_eq_true_eq] at hvalid
    have htakes : ∃ v ∈ variants, valid o v.text x = true := by
      rw [← List.countP_pos_iff, hvalid]
      exact Nat.zero_lt_one
    obtain ⟨v, hv, hvx, hcompleted⟩ := completedVariant_takes htakes
    rw [completedCall]
    dsimp only
    rw [hcompleted]
    exact hmerged.valid_completed hv hfree hvx (htaken.1 v hv hvx) htaken.2
  | _ => exact hrooted.elim

end NhaTrangLaundry.Worker.StrictSchema

import NhaTrangLaundry.Worker.StrictValidity

/-! Calls with a null for every property that they leave out. -/

namespace NhaTrangLaundry.Worker.StrictSchema

open Lib Json JsonSchema Schema

def isNull : Json → Bool
  | .null => true
  | _ => false

mutual

def nullFree : Json → Bool
  | .obj fields => nullFreeFields fields
  | .arr items => nullFreeItems items
  | _ => true

def nullFreeFields : Fields → Bool
  | [] => true
  | (_, value) :: fields => !isNull value && nullFree value && nullFreeFields fields

def nullFreeItems : List Json → Bool
  | [] => true
  | item :: items => nullFree item && nullFreeItems items

end

/-- The members as the properties complete them, and a null for each that is absent. -/
def completeFields (properties : List (String × (Json → Json))) (fields : Fields) : Fields :=
  fields.map (fun f => (f.1, (properties.lookup f.1).getD id f.2)) ++
    (properties.filter fun p => (fields.lookup p.1).isNone).map fun p => (p.1, .null)

mutual

/-- A call with null for every property absent from an object, under the variant that takes it. -/
def completed (o : Outside) : Schema → Json → Json
  | .scalar _ _ _ => id
  | .list items _ => fun
    | .arr xs => .arr (xs.map (completed o items))
    | x => x
  | .object properties _ _ _ _ => fun
    | .obj fields => .obj (completeFields (completions o properties) fields)
    | x => x
  | .oneOf variants _ => completedVariant o variants

def completions (o : Outside) : List (String × Schema) → List (String × (Json → Json))
  | [] => []
  | (name, s) :: properties => (name, completed o s) :: completions o properties

def completedVariant (o : Outside) : List Schema → Json → Json
  | [] => id
  | s :: variants => fun x =>
    if valid o s.text x then completed o s x else completedVariant o variants x

end

mutual

/-- Every property that an object leaves out may be given as null, and every property that it has
is one of its schema; `inner` is about an object that is a property or an item. -/
def nullsTaken (o : Outside) (inner : Bool) : Schema → Json → Prop
  | .scalar _ _ _ => fun _ => True
  | .list items _ => fun x => ∀ y ∈ elements x, nullsTaken o true items y
  | .object properties _ _ _ _ => fun x =>
    (∀ f ∈ members x, f.1 ∈ properties.map Prod.fst) ∧ propertiesTaken o inner properties (members x)
  | .oneOf variants _ => variantsTaken o variants

def propertiesTaken (o : Outside) (inner : Bool) : List (String × Schema) → Fields → Prop
  | [] => fun _ => True
  | (name, s) :: properties => fun fields =>
    (match fields.lookup name with
      | none => takesNull inner s = true
      | some y => nullsTaken o true s y) ∧ propertiesTaken o inner properties fields

def variantsTaken (o : Outside) : List Schema → Json → Prop
  | [] => fun _ => True
  | s :: variants => fun x =>
    (valid o s.text x = true → nullsTaken o true s x) ∧ variantsTaken o variants x

end

variable {o : Outside} {properties : List (String × Schema)} {variants : List Schema}
  {notes : List Note} {fields : Fields} {x y : Json}

lemma isNull_iff : isNull x = true ↔ x = .null := by
  cases x <;> simp [isNull]

lemma nullFreeFields_iff : nullFreeFields fields = true ↔
    ∀ f ∈ fields, f.2 ≠ .null ∧ nullFree f.2 = true := by
  induction fields with
  | nil => simp [nullFreeFields]
  | cons f fields ih =>
    rw [nullFreeFields, Bool.and_eq_true, ih, List.forall_mem_cons, Bool.and_eq_true,
      Bool.not_eq_true', ← Bool.not_eq_true, isNull_iff]

lemma nullFreeItems_iff {items : List Json} : nullFreeItems items = true ↔
    ∀ x ∈ items, nullFree x = true := by
  induction items with
  | nil => simp [nullFreeItems]
  | cons x items ih => rw [nullFreeItems, Bool.and_eq_true, ih, List.forall_mem_cons]

lemma completions_eq : completions o properties = properties.map fun p => (p.1, completed o p.2) := by
  induction properties with
  | nil => rfl
  | cons p properties ih => rw [completions, ih, List.map_cons]

lemma propertiesTaken_iff {inner : Bool} : propertiesTaken o inner properties fields ↔
    ∀ p ∈ properties, (fields.lookup p.1 = none → takesNull inner p.2 = true) ∧
      ∀ y, fields.lookup p.1 = some y → nullsTaken o true p.2 y := by
  induction properties with
  | nil => simp [propertiesTaken]
  | cons p properties ih =>
    rw [propertiesTaken]
    dsimp only
    rw [ih, List.forall_mem_cons]
    cases fields.lookup p.1 <;> simp

lemma variantsTaken_iff : variantsTaken o variants x ↔
    ∀ s ∈ variants, valid o s.text x = true → nullsTaken o true s x := by
  induction variants with
  | nil => simp [variantsTaken]
  | cons s variants ih =>
    rw [variantsTaken]
    dsimp only
    rw [ih, List.forall_mem_cons]

lemma completedVariant_cons (s : Schema) : completedVariant o (s :: variants) x =
    if valid o s.text x then completed o s x else completedVariant o variants x :=
  rfl

lemma dropNullFields_eq (fields : Fields) : dropNullFields fields =
    (fields.filter fun f => !isNull f.2).map fun f => (f.1, dropNullObjectFields f.2) := by
  induction fields with
  | nil => rfl
  | cons f fields ih =>
    obtain ⟨key, value⟩ := f
    cases value <;> simp [dropNullFields, isNull, ih]

lemma dropNullItems_eq (items : List Json) :
    dropNullItems items = items.map dropNullObjectFields := by
  induction items with
  | nil => rfl
  | cons item items ih => rw [dropNullItems, ih, List.map_cons]

lemma dropNull_nullFree (x : Json) (h : nullFree x = true) : dropNullObjectFields x = x := by
  induction x using Json.induction with
  | arr items ih =>
    rw [nullFree, nullFreeItems_iff] at h
    rw [dropNullObjectFields, dropNullItems_eq]
    exact congrArg Json.arr ((List.map_congr_left fun x hx => ih x hx (h x hx)).trans
      (List.map_id items))
  | obj fields ih =>
    rw [nullFree, nullFreeFields_iff] at h
    have hkept : (fields.filter fun f => !isNull f.2) = fields := by
      rw [List.filter_eq_self]
      intro f hf
      rw [Bool.not_eq_true', ← Bool.not_eq_true, isNull_iff]
      exact (h f hf).1
    rw [dropNullObjectFields, dropNullFields_eq, hkept]
    refine congrArg Json.obj ((List.map_congr_left fun f hf => ?_).trans (List.map_id fields))
    rw [ih f hf (h f hf).2]
    rfl
  | _ => rfl

lemma completedVariant_takes (h : ∃ s ∈ variants, valid o s.text x = true) :
    ∃ s ∈ variants, valid o s.text x = true ∧ completedVariant o variants x = completed o s x := by
  induction variants with
  | nil =>
    obtain ⟨s, hs, -⟩ := h
    cases hs
  | cons s variants ih =>
    rw [completedVariant_cons]
    by_cases hs : valid o s.text x = true
    · rw [if_pos hs]
      exact ⟨s, List.mem_cons_self, hs, rfl⟩
    · obtain ⟨t, ht, htx⟩ := h
      have htail : t ∈ variants := (List.mem_cons.mp ht).resolve_left fun heq => hs (heq ▸ htx)
      obtain ⟨u, hu, hvalid, hcompleted⟩ := ih ⟨t, htail, htx⟩
      rw [if_neg hs]
      exact ⟨u, List.mem_cons_of_mem _ hu, hvalid, hcompleted⟩

lemma completedVariant_null (h : ∀ s ∈ variants, ∀ x, completed o s x = .null → x = .null) :
    completedVariant o variants x = .null → x = .null := by
  induction variants with
  | nil => exact id
  | cons s variants ih =>
    rw [List.forall_mem_cons] at h
    rw [completedVariant_cons]
    split_ifs
    · exact h.1 x
    · exact ih h.2

lemma completed_null (s : Schema) : ∀ x, completed o s x = .null → x = .null := by
  induction s using Schema.induction with
  | scalar type nullable rules => exact fun _ h => h
  | list items rules _ =>
    intro x h
    cases x with
    | arr xs => cases h
    | _ => exact h
  | object properties required closed allOf notes _ =>
    intro x h
    cases x with
    | obj fields => cases h
    | _ => exact h
  | oneOf variants notes ih => exact fun _ h => completedVariant_null ih h

/-- The nulls that are added are dropped again. -/
theorem dropNull_completed (s : Schema) :
    ∀ x, nullFree x = true → dropNullObjectFields (completed o s x) = x := by
  induction s using Schema.induction with
  | scalar type nullable rules => exact dropNull_nullFree
  | list items rules ih =>
    intro x hx
    cases x with
    | arr xs =>
      rw [nullFree, nullFreeItems_iff] at hx
      rw [completed, dropNullObjectFields, dropNullItems_eq, List.map_map]
      exact congrArg Json.arr ((List.map_congr_left fun x hmem => ih x (hx x hmem)).trans
        (List.map_id xs))
    | _ => exact dropNull_nullFree _ hx
  | object properties required closed allOf notes ih =>
    intro x hx
    cases x with
    | obj fields =>
      rw [nullFree, nullFreeFields_iff] at hx
      have hvalue : ∀ f ∈ fields, dropNullObjectFields
          (((completions o properties).lookup f.1).getD id f.2) = f.2 ∧
          ((completions o properties).lookup f.1).getD id f.2 ≠ .null := by
        intro f hf
        cases hlookup : (completions o properties).lookup f.1 with
        | none => exact ⟨dropNull_nullFree _ (hx f hf).2, (hx f hf).1⟩
        | some c =>
          rw [List.lookup_eq_some_iff, completions_eq] at hlookup
          obtain ⟨before, after, hsplit, -⟩ := hlookup
          obtain ⟨p, hp, hpair⟩ := List.mem_map.mp
            (hsplit ▸ List.mem_append_right before List.mem_cons_self)
          obtain ⟨-, rfl⟩ := Prod.mk.inj hpair
          exact ⟨ih p hp _ (hx f hf).2, fun hnull => (hx f hf).1 (completed_null _ _ hnull)⟩
      rw [completed]
      dsimp only
      rw [dropNullObjectFields, completeFields, dropNullFields_eq, List.filter_append, List.map_append]
      have hkept : ((fields.map fun f =>
          (f.1, ((completions o properties).lookup f.1).getD id f.2)).filter fun f => !isNull f.2) =
          fields.map fun f => (f.1, ((completions o properties).lookup f.1).getD id f.2) := by
        rw [List.filter_eq_self]
        intro f hf
        obtain ⟨g, hg, rfl⟩ := List.mem_map.mp hf
        rw [Bool.not_eq_true', ← Bool.not_eq_true, isNull_iff]
        exact (hvalue g hg).2
      have hgone : ((((completions o properties).filter fun p => (fields.lookup p.1).isNone).map
          fun p => (p.1, Json.null)).filter fun f => !isNull f.2) = [] := by
        rw [List.filter_eq_nil_iff]
        intro f hf
        obtain ⟨p, -, rfl⟩ := List.mem_map.mp hf
        exact Bool.false_ne_true
      rw [hkept, hgone, List.map_map, List.map_nil, List.append_nil]
      refine congrArg Json.obj ((List.map_congr_left fun f hf => ?_).trans (List.map_id fields))
      rw [Function.comp_apply, (hvalue f hf).1]
      rfl
    | _ => exact dropNull_nullFree _ hx
  | oneOf variants notes ih =>
    intro x hx
    rw [completed]
    induction variants with
    | nil => exact dropNull_nullFree x hx
    | cons s variants ihv =>
      rw [List.forall_mem_cons] at ih
      rw [completedVariant_cons]
      split_ifs
      · exact ih.1 x hx
      · exact ihv ih.2

lemma lookup_of_nodup {β : Type} {l : List (String × β)} (hnodup : (l.map Prod.fst).Nodup)
    {p : String × β} (hp : p ∈ l) : l.lookup p.1 = some p.2 := by
  induction l with
  | nil => cases hp
  | cons q l ih =>
    rw [List.map_cons, List.nodup_cons] at hnodup
    rcases List.mem_cons.mp hp with rfl | htail
    · exact List.lookup_cons_self
    · have hne : (p.1 == q.1) = false := by
        rw [beq_eq_false_iff_ne]
        exact fun heq => hnodup.1 (heq ▸ List.mem_map_of_mem htail)
      rw [List.lookup_cons, hne]
      exact ih hnodup.2 htail

lemma lookup_map_fields (g : String → Json → Json) (k : String) :
    (fields.map fun f => (f.1, g f.1 f.2)).lookup k = (fields.lookup k).map (g k) := by
  induction fields with
  | nil => rfl
  | cons f fields ih =>
    rw [List.map_cons, List.lookup_cons, List.lookup_cons]
    cases hk : k == f.1 with
    | true =>
      rw [beq_iff_eq] at hk
      subst hk
      rfl
    | false => exact ih

lemma lookup_completeFields (hnodup : (properties.map Prod.fst).Nodup) {p : String × Schema}
    (hp : p ∈ properties) : (completeFields (completions o properties) fields).lookup p.1 =
      some (((fields.lookup p.1).map (completed o p.2)).getD .null) := by
  have hcompletion : (completions o properties).lookup p.1 = some (completed o p.2) := by
    have hmem : (p.1, completed o p.2) ∈ completions o properties := by
      rw [completions_eq]
      exact List.mem_map_of_mem hp
    refine lookup_of_nodup ?_ hmem
    rw [completions_eq, List.map_map]
    exact hnodup
  rw [completeFields, List.lookup_append,
    lookup_map_fields (fun k y => ((completions o properties).lookup k).getD id y), hcompletion]
  cases hfield : fields.lookup p.1 with
  | some y => rfl
  | none =>
    have hmem : (p.1, completed o p.2) ∈ (completions o properties).filter fun c =>
        (fields.lookup c.1).isNone := by
      rw [List.mem_filter, completions_eq]
      refine ⟨List.mem_map_of_mem hp, ?_⟩
      rw [hfield]
      rfl
    have hnull : ∀ l : List (String × (Json → Json)), (∃ c ∈ l, c.1 = p.1) →
        (l.map fun c => (c.1, Json.null)).lookup p.1 = some .null := by
      intro l
      induction l with
      | nil => rintro ⟨c, hc, -⟩; cases hc
      | cons c l ih =>
        rintro ⟨d, hd, hkey⟩
        rw [List.map_cons, List.lookup_cons]
        cases hc : p.1 == c.1 with
        | true => rfl
        | false =>
          refine ih ⟨d, (List.mem_cons.mp hd).resolve_left ?_, hkey⟩
          rintro rfl
          rw [beq_eq_false_iff_ne] at hc
          exact hc hkey.symm
    exact hnull _ ⟨_, hmem, rfl⟩

lemma names_completeFields (hknown : ∀ f ∈ fields, f.1 ∈ properties.map Prod.fst) :
    ∀ f ∈ completeFields (completions o properties) fields, f.1 ∈ properties.map Prod.fst := by
  intro f hf
  rcases List.mem_append.mp hf with hf | hf
  · obtain ⟨g, hg, rfl⟩ := List.mem_map.mp hf
    exact hknown g hg
  · obtain ⟨c, hc, rfl⟩ := List.mem_map.mp hf
    rw [completions_eq] at hc
    obtain ⟨p, hp, rfl⟩ := List.mem_map.mp (List.mem_filter.mp hc).1
    exact List.mem_map_of_mem hp

lemma valid_completeFields {g : String × Schema → Json} (hnodup : (properties.map Prod.fst).Nodup)
    (hknown : ∀ f ∈ fields, f.1 ∈ properties.map Prod.fst)
    (habsent : ∀ p ∈ properties, fields.lookup p.1 = none → valid o (g p) .null = true)
    (hpresent : ∀ p ∈ properties, ∀ y, fields.lookup p.1 = some y →
      valid o (g p) (completed o p.2 y) = true) :
    valid o (closedObject (listed properties g) notes)
      (.obj (completeFields (completions o properties) fields)) = true := by
  rw [valid_closedObject]
  refine ⟨_, rfl, fun q hq => ?_, fun f hf => ?_⟩
  · obtain ⟨p, hp, rfl⟩ := List.mem_map.mp hq
    refine ⟨_, lookup_completeFields hnodup hp, ?_⟩
    cases hfield : fields.lookup p.1 with
    | none => exact habsent p hp hfield
    | some y => exact hpresent p hp y hfield
  · rw [listed, List.map_map]
    exact names_completeFields hknown f hf

lemma mem_of_lookup {α : Type} {fields : List (String × α)} {k : String} {y : α}
    (h : fields.lookup k = some y) : (k, y) ∈ fields := by
  obtain ⟨before, after, rfl, -⟩ := List.lookup_eq_some_iff.mp h
  exact List.mem_append_right _ List.mem_cons_self

lemma listRules_completed {items : Schema} {rules : List ListRule} {xs : List Json}
    (hunique : .uniqueItems ∈ rules → ∃ t n r, items = .scalar t n r)
    (h : (rules.all fun r => listRuleHolds o r (.arr xs)) = true) :
    (rules.all fun r => listRuleHolds o r (.arr (xs.map (completed o items)))) = true := by
  rw [List.all_eq_true] at h ⊢
  intro r hr
  have hr' := h r hr
  cases r with
  | note n => cases n <;> rfl
  | minItems bound =>
    have hholds : ∀ ys : List Json, listRuleHolds o (.minItems bound) (.arr ys) =
        decide ((bound : Int) ≤ ys.length) := fun _ => rfl
    rw [hholds, List.length_map, ← hholds]
    exact hr'
  | maxItems bound =>
    have hholds : ∀ ys : List Json, listRuleHolds o (.maxItems bound) (.arr ys) =
        decide ((ys.length : Int) ≤ bound) := fun _ => rfl
    rw [hholds, List.length_map, ← hholds]
    exact hr'
  | uniqueItems =>
    obtain ⟨t, n, rules', rfl⟩ := hunique hr
    have hsame : xs.map (completed o (.scalar t n rules')) = xs := List.map_id xs
    rw [hsame]
    exact hr'

/-- Whatever a schema takes, completed, is taken by what it is compiled to. -/
theorem valid_completed (s : Schema) : s.ordinary → ∀ x, nullFree x = true →
    valid o s.text x = true → nullsTaken o true s x → valid o (settled s) (completed o s x) = true := by
  induction s using Schema.induction with
  | scalar type nullable rules => exact fun _ x _ hx _ => hx
  | list items rules ih =>
    intro hs x hfree hx htaken
    have hlist : valid o (listOf items.text rules) x = true := hx
    rw [valid_listOf, Bool.and_eq_true, Bool.and_eq_true, List.all_eq_true] at hlist
    obtain ⟨hislist, hitems, hrules⟩ := hlist
    cases x with
    | arr xs =>
      rw [nullFree, nullFreeItems_iff] at hfree
      rw [settled, completed]
      dsimp only
      rw [valid_listOf, listRules_completed hs.2 hrules, Bool.and_true, isList, Bool.true_and, elements,
        List.all_map, List.all_eq_true]
      exact fun y hy => ih hs.1 y (hfree y hy) (hitems y hy) (htaken y hy)
    | _ => cases hislist
  | object properties required closed allOf notes ih =>
    intro hs x hfree hx htaken
    obtain ⟨F, rfl, hproperties, hrequired, -⟩ := valid_object hx
    obtain ⟨hnodup, -, hparts⟩ := hs
    rw [ordinaryProperties_iff] at hparts
    obtain ⟨hknown, htaken⟩ := htaken
    rw [propertiesTaken_iff] at htaken
    rw [nullFree, nullFreeFields_iff] at hfree
    rw [settled_object, completed]
    refine valid_completeFields hnodup hknown (fun p hp hnone => ?_) fun p hp y hy => ?_
    · have hoptional : p.1 ∉ requiredNames required := by
        intro hmem
        obtain ⟨y, hy⟩ := hrequired _ hmem
        exact Option.some_ne_none y (hy.symm.trans hnone)
      rw [decide_eq_false hoptional, valid_settledProperty_null]
      exact (htaken p hp).1 hnone
    · have hy' := hfree _ (mem_of_lookup hy)
      rw [valid_settledProperty _ _ fun hnull => hy'.1 (completed_null _ _ hnull)]
      exact ih p hp (hparts p hp) y hy'.2 (hproperties p hp y hy) ((htaken p hp).2 y hy)
  | oneOf variants notes ih =>
    intro hs x hfree hx htaken
    rw [valid_oneOf, decide_eq_true_eq] at hx
    have htakes : ∃ v ∈ variants, valid o v.text x = true := by
      rw [← List.countP_pos_iff, hx]
      exact Nat.zero_lt_one
    obtain ⟨v, hv, hvalid, hcompleted⟩ := completedVariant_takes htakes
    rw [ordinary, ordinaryVariants_iff] at hs
    rw [nullsTaken, variantsTaken_iff] at htaken
    rw [settled, settledVariants_eq, valid_anyVariant, List.any_map, List.any_eq_true, completed,
      hcompleted]
    exact ⟨v, hv, ih v hv (hs v hv) x hfree hvalid (htaken v hv hvalid)⟩

end NhaTrangLaundry.Worker.StrictSchema

import NhaTrangLaundry.Domain.Remedies
import NhaTrangLaundry.Lib.RemainderShares

/-! One remedy credit over the lines of a bill, and one credit after another over what
the earlier ones left. -/

namespace NhaTrangLaundry.Domain.Remedies

open Lib Sorting LargestRemainder

/-- The lines of a bill with what is left to pay on each. -/
structure Nets (nets : List (String × Int)) : Prop where
  distinct : (nets.map Prod.fst).Nodup
  nonneg : ∀ w ∈ nets, 0 ≤ w.2

/-- `net_amount_vnd - per_line_vnd[line_id]`, line by line. -/
def netsAfter (nets : List (String × Int)) (allocation : Allocation String) : List (String × Int) :=
  nets.map fun w => (w.1, w.2 - ((perLine allocation).lookup w.1).getD 0)

/-- A credit that is refused is carried and leaves the bill as it was. -/
def applyCredit (nets : List (String × Int)) (creditVnd : Int) : List (String × Int) :=
  match allocateRemedyCredit nets creditVnd with
  | .ok allocation => netsAfter nets allocation
  | .error _ => nets

def applyCredits (nets : List (String × Int)) (credits : List Int) : List (String × Int) :=
  credits.foldl applyCredit nets

/-- The credit fits: it is an amount the documents can hold, and no more than is left. -/
def fits (nets : List (String × Int)) (creditVnd : Int) : Prop :=
  creditVnd ≤ weightsTotal nets ∧ creditVnd ≤ maxJcsInteger

variable {nets nets' : List (String × Int)} {creditVnd : Int} {allocation : Allocation String}

lemma allocate_sorted (nets : List (String × Int)) (creditVnd : Int) :
    perLine (allocate (sortBy Prod.fst nets) creditVnd (weightsTotal nets) creditVnd) =
      sharesOf nets creditVnd (weightsTotal nets) creditVnd := by
  rw [perLine, sharesOf, allocate, allocate, sortBy_idem]

lemma allocateRemedyCredit_ok (hpos : 0 < creditVnd) :
    allocateRemedyCredit nets creditVnd = .ok allocation ↔ fits nets creditVnd ∧
      allocation = allocate (sortBy Prod.fst nets) creditVnd (weightsTotal nets) creditVnd := by
  rw [allocateRemedyCredit, fits]
  split_ifs with hamount hroom
  · have hover : ¬ (creditVnd ≤ weightsTotal nets ∧ creditVnd ≤ maxJcsInteger) := by omega
    simp [hover]
  · have hempty : nets.isEmpty = true → weightsTotal nets = 0 := by
      intro h
      rw [List.isEmpty_iff.mp h]
      rfl
    have hover : ¬ (creditVnd ≤ weightsTotal nets ∧ creditVnd ≤ maxJcsInteger) := by
      rintro ⟨hroom', -⟩
      rcases hroom with hnone | hzero | hshort
      · have := hempty hnone
        omega
      · omega
      · omega
    simp [hover]
  · rw [Except.ok.injEq, eq_comm]
    constructor
    · exact fun h => ⟨by omega, h⟩
    · exact And.right

lemma allocateRemedyCredit_error (hpos : 0 < creditVnd) :
    (∃ refusal, allocateRemedyCredit nets creditVnd = .error refusal) ↔ ¬ fits nets creditVnd := by
  cases h : allocateRemedyCredit nets creditVnd with
  | ok allocation =>
    have hfits := ((allocateRemedyCredit_ok hpos).mp h).1
    simp [hfits]
  | error refusal =>
    have hnot : ¬ fits nets creditVnd := by
      intro hfits
      rw [(allocateRemedyCredit_ok hpos).mpr ⟨hfits, rfl⟩] at h
      cases h
    simp [hnot]

/-- What the allocation of a credit gives the lines. -/
structure Spread (nets : List (String × Int)) (creditVnd : Int) (shares : List (String × Int)) :
    Prop where
  keys : (shares.map Prod.fst).Perm (nets.map Prod.fst)
  total : (shares.map Prod.snd).sum = creditVnd
  share : ∀ k x, (k, x) ∈ shares → ∃ w, (k, w) ∈ nets ∧ 0 ≤ x ∧ x ≤ w ∧
    (x = w * creditVnd / weightsTotal nets ∨
      x = (w * creditVnd + (weightsTotal nets - 1)) / weightsTotal nets)

lemma ceiling_eq {n d : Int} (hd : 0 < d) (h : n % d ≠ 0) : (n + (d - 1)) / d = n / d + 1 := by
  have hdiv := Int.mul_ediv_add_emod n d
  have hlow := Int.emod_nonneg n hd.ne'
  have hhigh := Int.emod_lt_of_pos n hd
  have hsplit : n + (d - 1) = (n % d - 1) + d * (n / d + 1) := by
    rw [Int.mul_add, Int.mul_one]
    omega
  rw [hsplit, Int.add_mul_ediv_left _ _ hd.ne', Int.ediv_eq_zero_of_lt (by omega) (by omega),
    Int.zero_add]

lemma spread_of_ok (hnets : Nets nets) (hpos : 0 < creditVnd)
    (h : allocateRemedyCredit nets creditVnd = .ok allocation) :
    Spread nets creditVnd (perLine allocation) := by
  obtain ⟨⟨hroom, -⟩, rfl⟩ := (allocateRemedyCredit_ok hpos).mp h
  rw [allocate_sorted]
  have htotal : 0 < weightsTotal nets := lt_of_lt_of_le hpos hroom
  have hbalanced : Balanced nets creditVnd (weightsTotal nets) creditVnd := balanced_exact htotal
  constructor
  · rw [map_fst_sharesOf]
    exact (sortBy_perm _ _).map _
  · rw [map_snd_sharesOf]
    exact sum_finalAllocations htotal hbalanced
  · intro k x hx
    obtain ⟨w, hw, hshare⟩ := mem_sharesOf htotal hbalanced hx
    obtain ⟨hlow, hhigh⟩ := share_bounds (hnets.nonneg _ hw) hpos.le hroom htotal hshare
    refine ⟨w, hw, hlow, hhigh, ?_⟩
    rcases hshare with hfloor | ⟨hceiling, hnonzero⟩
    · exact .inl hfloor
    · exact .inr (by rw [hceiling, ceiling_eq htotal hnonzero])

lemma weightsTotal_perm (h : nets.Perm nets') : weightsTotal nets = weightsTotal nets' :=
  (h.map _).sum_eq

lemma isEmpty_perm (h : nets.Perm nets') : nets.isEmpty = nets'.isEmpty := by
  rw [Bool.eq_iff_iff, List.isEmpty_iff, List.isEmpty_iff]
  exact ⟨fun hnil => by rw [hnil] at h; exact h.nil_eq.symm, fun hnil => by rw [hnil] at h; exact h.eq_nil⟩

lemma allocateRemedyCredit_perm (hdistinct : (nets.map Prod.fst).Nodup) (h : nets.Perm nets') :
    allocateRemedyCredit nets creditVnd = allocateRemedyCredit nets' creditVnd := by
  rw [allocateRemedyCredit, allocateRemedyCredit, weightsTotal_perm h, isEmpty_perm h,
    sortBy_eq_of_perm h hdistinct]

lemma map_fst_netsAfter : (netsAfter nets allocation).map Prod.fst = nets.map Prod.fst := by
  rw [netsAfter, List.map_map]
  rfl

lemma sum_sub (f : String × Int → Int) :
    ((nets.map fun w => (w.1, w.2 - f w)).map Prod.snd).sum = weightsTotal nets - (nets.map f).sum := by
  induction nets with
  | nil => simp [weightsTotal]
  | cons w nets ih =>
    simp only [List.map_cons, List.sum_cons, weightsTotal] at ih ⊢
    linarith

lemma nets_after (hnets : Nets nets) (hpos : 0 < creditVnd)
    (h : allocateRemedyCredit nets creditVnd = .ok allocation) :
    Nets (netsAfter nets allocation) ∧
      weightsTotal (netsAfter nets allocation) = weightsTotal nets - creditVnd := by
  have hspread := spread_of_ok hnets hpos h
  have hkeys : ((perLine allocation).map Prod.fst).Nodup := hspread.keys.nodup_iff.mpr hnets.distinct
  refine ⟨⟨by rw [map_fst_netsAfter]; exact hnets.distinct, ?_⟩, ?_⟩
  · intro after hafter
    obtain ⟨line, hline, rfl⟩ := List.mem_map.mp hafter
    obtain ⟨⟨k, x⟩, hshare, hk⟩ :=
      List.mem_map.mp (hspread.keys.mem_iff.mpr (List.mem_map_of_mem (f := Prod.fst) hline))
    obtain ⟨w, hw, -, hle, -⟩ := hspread.share k x hshare
    have hsame : (k, w) = line := List.inj_on_of_nodup_map hnets.distinct hw hline hk
    have hfound : (perLine allocation).lookup line.1 = some x := by
      rw [← hk]
      exact lookup_of_mem hkeys hshare
    rw [hfound, Option.getD_some, ← hsame]
    simpa using hle
  · rw [weightsTotal, netsAfter, sum_sub]
    have hlookup := sum_lookup hkeys hnets.distinct fun k hk => hspread.keys.mem_iff.mp hk
    rw [List.map_map] at hlookup
    rw [← hspread.total, ← hlookup]
    rfl

lemma nets_applyCredit (hnets : Nets nets) (hpos : 0 < creditVnd) :
    Nets (applyCredit nets creditVnd) := by
  rw [applyCredit]
  split
  · next allocation hok => exact (nets_after hnets hpos hok).1
  · exact hnets

lemma nets_applyCredits {credits : List Int} (hnets : Nets nets) (hpos : ∀ c ∈ credits, 0 < c) :
    Nets (applyCredits nets credits) := by
  induction credits generalizing nets with
  | nil => exact hnets
  | cons credit credits ih =>
    rw [List.forall_mem_cons] at hpos
    exact ih (nets_applyCredit hnets hpos.1) hpos.2

/-- Any number of credits on a bill, one after another: what is left stays a bill, and a
further credit is taken exactly when it fits on what is left, in shares that are its exact
ones rounded down or up. -/
theorem credits_spread (nets : List (String × Int)) (hnets : Nets nets)
    (credits : List Int) (hcredits : ∀ c ∈ credits, 0 < c) (creditVnd : Int)
    (hpos : 0 < creditVnd) :
    Nets (applyCredits nets credits) ∧
      ((∃ refusal, allocateRemedyCredit (applyCredits nets credits) creditVnd = .error refusal) ↔
        weightsTotal (applyCredits nets credits) < creditVnd ∨ maxJcsInteger < creditVnd) ∧
      (∀ allocation, allocateRemedyCredit (applyCredits nets credits) creditVnd = .ok allocation →
        Spread (applyCredits nets credits) creditVnd (perLine allocation) ∧
        weightsTotal (applyCredits nets (credits ++ [creditVnd])) =
          weightsTotal (applyCredits nets credits) - creditVnd) ∧
      ∀ nets', (applyCredits nets credits).Perm nets' →
        allocateRemedyCredit nets' creditVnd =
          allocateRemedyCredit (applyCredits nets credits) creditVnd := by
  have hleft := nets_applyCredits hnets hcredits
  refine ⟨hleft, ?_, fun allocation hok => ⟨spread_of_ok hleft hpos hok, ?_⟩, fun nets' hperm => ?_⟩
  · rw [allocateRemedyCredit_error hpos, fits]
    omega
  · have hstep : applyCredits nets (credits ++ [creditVnd]) =
        netsAfter (applyCredits nets credits) allocation := by
      rw [applyCredits, List.foldl_append]
      change applyCredit (applyCredits nets credits) creditVnd = _
      rw [applyCredit, hok]
    rw [hstep]
    exact (nets_after hleft hpos hok).2
  · exact (allocateRemedyCredit_perm hleft.distinct hperm).symm

def twoLines : List (String × Int) := [("line-1", 120000), ("line-2", 80000)]

theorem twoLines_spread :
    Nets (applyCredits twoLines [50001]) ∧
      ((∃ refusal, allocateRemedyCredit (applyCredits twoLines [50001]) 30000 = .error refusal) ↔
        weightsTotal (applyCredits twoLines [50001]) < 30000 ∨ maxJcsInteger < 30000) ∧
      (∀ allocation, allocateRemedyCredit (applyCredits twoLines [50001]) 30000 = .ok allocation →
        Spread (applyCredits twoLines [50001]) 30000 (perLine allocation) ∧
        weightsTotal (applyCredits twoLines ([50001] ++ [30000])) =
          weightsTotal (applyCredits twoLines [50001]) - 30000) ∧
      ∀ nets', (applyCredits twoLines [50001]).Perm nets' →
        allocateRemedyCredit nets' 30000 =
          allocateRemedyCredit (applyCredits twoLines [50001]) 30000 :=
  credits_spread twoLines ⟨by decide, by decide⟩ [50001] (by decide) 30000 (by decide)

/-- A credit that no document can hold is refused though the bill has room for it. -/
theorem oversized_credit_refused :
    allocateRemedyCredit [("line-1", 9007199254740992)] 9007199254740992 =
        .error .remedyCreditUnallocatable ∧
      9007199254740992 ≤ weightsTotal [("line-1", 9007199254740992)] := by
  decide

end NhaTrangLaundry.Domain.Remedies

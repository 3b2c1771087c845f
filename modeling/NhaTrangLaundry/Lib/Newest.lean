import Mathlib.Data.Finset.Card

/-! Reading only the newest moments of a record: what such a reading still tells of the moments
since a start. -/

namespace NhaTrangLaundry.Lib.Newest

variable {κ δ : Type*} [LinearOrder κ] {start bound : κ} {moments : List κ} {limit count : Nat}

def onSince (start : κ) (moments : List κ) : List κ := moments.filter fun moment => start ≤ moment

def NewestFirst (moments : List κ) : Prop := moments.Pairwise fun a b => b ≤ a

lemma onSince_take (h : NewestFirst moments) :
    onSince start (moments.take limit) = (onSince start moments).take limit := by
  induction moments generalizing limit with
  | nil => simp [onSince]
  | cons moment moments ih =>
    obtain ⟨hfirst, hrest⟩ := List.pairwise_cons.mp h
    cases limit with
    | zero => rfl
    | succ limit =>
      rw [List.take_succ_cons]
      by_cases hsince : start ≤ moment
      · rw [onSince, List.filter_cons_of_pos (by simpa using hsince), onSince,
          List.filter_cons_of_pos (by simpa using hsince), List.take_succ_cons]
        exact congrArg (List.cons moment) (ih hrest)
      · have hnone : ∀ later ∈ moments, ¬ start ≤ later :=
          fun later hmem hle => hsince (hle.trans (hfirst later hmem))
        rw [onSince, List.filter_cons_of_neg (by simpa using hsince), onSince,
          List.filter_cons_of_neg (by simpa using hsince)]
        have hfront : (moments.take limit).filter (fun moment => start ≤ moment) = [] :=
          List.filter_eq_nil_iff.mpr fun later hmem => by
            simpa using hnone later (List.mem_of_mem_take hmem)
        have hall : moments.filter (fun moment => start ≤ moment) = [] :=
          List.filter_eq_nil_iff.mpr fun later hmem => by simpa using hnone later hmem
        rw [hfront, hall, List.take_nil]

lemma enough_take (h : NewestFirst moments) (hcount : count ≤ limit) :
    count ≤ (onSince start (moments.take limit)).length ↔ count ≤ (onSince start moments).length := by
  rw [onSince_take h, List.length_take]
  omega

lemma bounded_take (h : NewestFirst moments) (hlimit : 0 < limit) :
    (∀ moment ∈ onSince start (moments.take limit), moment < bound) ↔
      ∀ moment ∈ onSince start moments, moment < bound := by
  constructor
  · intro hbound moment hmem
    have hnewest : NewestFirst (onSince start moments) := List.Pairwise.filter _ h
    rw [onSince_take h] at hbound
    obtain ⟨limit, rfl⟩ := Nat.exists_eq_succ_of_ne_zero hlimit.ne'
    cases hall : onSince start moments with
    | nil =>
      rw [hall] at hmem
      exact absurd hmem List.not_mem_nil
    | cons first rest =>
      rw [hall] at hmem hbound hnewest
      have hfirst : first < bound := hbound first (by rw [List.take_succ_cons]; exact List.mem_cons_self)
      rcases List.mem_cons.mp hmem with rfl | hmem
      · exact hfirst
      · exact ((List.pairwise_cons.mp hnewest).1 moment hmem).trans_lt hfirst
  · intro hbound moment hmem
    rw [onSince_take h] at hmem
    exact hbound moment (List.mem_of_mem_take hmem)

lemma days_take_le [DecidableEq δ] (day : κ → δ) :
    ((onSince start (moments.take limit)).map day).toFinset.card ≤
      ((onSince start moments).map day).toFinset.card := by
  refine Finset.card_le_card fun d hd => ?_
  rw [List.mem_toFinset, List.mem_map] at hd ⊢
  obtain ⟨moment, hmem, rfl⟩ := hd
  obtain ⟨htake, hsince⟩ := List.mem_filter.mp hmem
  exact ⟨moment, List.mem_filter.mpr ⟨List.mem_of_mem_take htake, hsince⟩, rfl⟩

end NhaTrangLaundry.Lib.Newest

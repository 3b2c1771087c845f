import NhaTrangLaundry.Worker.TurnBudget

/-! Whatever the provider, the tools and the clock do, a model turn ends, and what it reserved is
what it settled and what it released. -/

namespace NhaTrangLaundry.Worker.ResponsesRuntime

open Lib Lib.Decimal Contracts

/-- A configuration whose rates are below 10^9 USD per million tokens: the costs of a turn have
few enough digits for decimal arithmetic. -/
structure PricedConfig extends RuntimeConfig where
  input_lt : inputCostPerMillionUsd.value < 10 ^ 9
  output_lt : outputCostPerMillionUsd.value < 10 ^ 9

variable (config : PricedConfig) {limit : Nat} {budget budget' : TurnBudget}
  {reservation : Reservation} {i c o : Nat}

def cost (i c o : Nat) : ℚ :=
  (((i - c : Nat) : ℚ) * config.inputCostPerMillionUsd.value +
    c * config.cachedInputCostPerMillionUsd.value +
    o * config.outputCostPerMillionUsd.value) / 10 ^ 6

def dearest : ℚ := 9200000

variable {config}

lemma cached_le : config.cachedInputCostPerMillionUsd.value ≤ config.inputCostPerMillionUsd.value :=
  le_iff.mp config.cached_le

lemma cached_nonneg : 0 ≤ config.cachedInputCostPerMillionUsd.value :=
  value_nonneg (config.money _ (by simp)).nonneg

lemma input_nonneg : 0 ≤ config.inputCostPerMillionUsd.value := cached_nonneg.trans cached_le

lemma output_nonneg : 0 ≤ config.outputCostPerMillionUsd.value :=
  value_nonneg (config.money _ (by simp)).nonneg

lemma cost_mono {i' o' : Nat} (hc : c ≤ i) (hi : i ≤ i') (ho : o ≤ o') :
    cost config i c o ≤ cost config i' 0 o' := by
  have hinput : ((i - c : Nat) : ℚ) + c ≤ i' := by
    rw [Nat.cast_sub hc, sub_add_cancel]
    exact_mod_cast hi
  have hcached : (c : ℚ) * config.cachedInputCostPerMillionUsd.value ≤
      c * config.inputCostPerMillionUsd.value :=
    mul_le_mul_of_nonneg_left cached_le (Nat.cast_nonneg c)
  have houtput : (o : ℚ) * config.outputCostPerMillionUsd.value ≤
      o' * config.outputCostPerMillionUsd.value :=
    mul_le_mul_of_nonneg_right (by exact_mod_cast ho) output_nonneg
  have hrate : 0 ≤ config.inputCostPerMillionUsd.value := input_nonneg
  have hpriced := mul_le_mul_of_nonneg_right hinput hrate
  rw [cost, cost, Nat.sub_zero, Nat.cast_zero, zero_mul, add_zero]
  refine div_le_div_of_nonneg_right ?_ (by norm_num)
  rw [add_mul] at hpriced
  linarith

lemma cost_nonneg : 0 ≤ cost config i c o :=
  div_nonneg (add_nonneg (add_nonneg (mul_nonneg (Nat.cast_nonneg _) input_nonneg)
    (mul_nonneg (Nat.cast_nonneg _) cached_nonneg))
    (mul_nonneg (Nat.cast_nonneg _) output_nonneg)) (by norm_num)

lemma cost_le (hc : c ≤ i) (hi : i ≤ 8000) (ho : o ≤ 1200) : cost config i c o ≤ dearest := by
  refine (cost_mono hc hi ho).trans ?_
  have hinput := config.input_lt
  have houtput := config.output_lt
  rw [cost, dearest, Nat.sub_zero, Nat.cast_zero, zero_mul, add_zero]
  rw [div_le_iff₀ (by norm_num)]
  push_cast
  linarith

lemma exact_priced {n : Nat} {rate : Decimal} (hrate : Within (-12) rate) (hn : n ≤ 8000)
    (hlt : rate.value < 10 ^ 9) :
    Exact (-12) (mul (ofInt n) rate) (n * rate.value) := by
  have hn' : (n : ℚ) ≤ 8000 := by exact_mod_cast hn
  have hle : (n : ℚ) * rate.value ≤ 8000 * 10 ^ 9 :=
    mul_le_mul hn' hlt.le (value_nonneg hrate.nonneg) (by norm_num)
  have hexact : Exact (-12) rate rate.value := ⟨hrate, rfl⟩
  have hproduct := (exact_ofInt n).mul hexact (hle.trans_lt (by norm_num))
  rwa [zero_add] at hproduct

lemma tokenCost_exact (hc : c ≤ i) (hi : i ≤ 8000) (ho : o ≤ 1200) :
    Exact (-18) (tokenCost config.toRuntimeConfig i c o) (cost config i c o) := by
  have hinput : Exact (-12) _ _ := exact_priced (n := i - c)
    (config.money config.inputCostPerMillionUsd (by simp)) ((Nat.sub_le i c).trans hi)
    config.input_lt
  have hcached : Exact (-12) _ _ := exact_priced (n := c)
    (config.money config.cachedInputCostPerMillionUsd (by simp)) (hc.trans hi)
    (cached_le.trans_lt config.input_lt)
  have houtput : Exact (-12) _ _ := exact_priced (n := o)
    (config.money config.outputCostPerMillionUsd (by simp)) (ho.trans (by norm_num))
    config.output_lt
  have hle : cost config i c o ≤ dearest := cost_le hc hi ho
  have hnonneg := houtput.nonneg
  rw [cost, dearest, div_le_iff₀ (by norm_num)] at hle
  have hsum := hinput.add hcached (by norm_num; linarith)
  have htotal := hsum.add houtput (by norm_num; linarith)
  exact htotal.divPow 6 (by rw [div_lt_iff₀ (by norm_num)]; norm_num; linarith)

variable (config limit)

/-- What is reserved is settled, released, or still open; and what is settled, with what is open,
is within the cap. -/
structure Balanced (budget : TurnBudget) (opened : ℚ) : Prop where
  reserved : Within (-18) budget.reservedCost
  settled : Within (-18) budget.settledCost
  released : Within (-18) budget.releasedCost
  balance : budget.reservedCost.value =
    budget.settledCost.value + budget.releasedCost.value + opened
  capped : budget.settledCost.value + opened ≤ config.maxTurnCostUsd.value
  bounded : budget.reservedCost.value ≤ budget.modelAttempts * dearest
  attempts : budget.modelAttempts ≤ limit
  counted : budget.reservationCount = budget.modelAttempts
  input : budget.inputTokens ≤ config.maxInputTokens
  output : budget.outputTokens ≤ config.maxOutputTokens
  cached : budget.cachedInputTokens ≤ budget.inputTokens

/-- A reservation that was just made holds all the tokens that are left, at their price. -/
structure Reserved (budget : TurnBudget) (reservation : Reservation) : Prop where
  balanced : Balanced config limit budget (cost config reservation.inputTokens 0
    reservation.outputTokens)
  price : Exact (-18) reservation.costUsd (cost config reservation.inputTokens 0
    reservation.outputTokens)
  input : budget.inputTokens + reservation.inputTokens = config.maxInputTokens
  output : budget.outputTokens + reservation.outputTokens = config.maxOutputTokens
  output_pos : 1 ≤ reservation.outputTokens

variable {config limit}

lemma balanced_new : Balanced config limit .new 0 where
  reserved := (exact_ofInt 0).within.lower (by decide)
  settled := (exact_ofInt 0).within.lower (by decide)
  released := (exact_ofInt 0).within.lower (by decide)
  balance := by simp [TurnBudget.new]
  capped := by
    have hcap := value_nonneg (config.money config.maxTurnCostUsd (by simp)).nonneg
    simpa [TurnBudget.new] using hcap
  bounded := by simp [TurnBudget.new]
  attempts := Nat.zero_le _
  counted := rfl
  input := Nat.zero_le _
  output := Nat.zero_le _
  cached := Nat.le_refl _

lemma Balanced.small {opened : ℚ} (h : Balanced config limit budget opened)
    (hlimit : limit ≤ 3) (hopened : 0 ≤ opened) :
    budget.reservedCost.value ≤ 3 * dearest ∧ budget.settledCost.value ≤ 3 * dearest ∧
      budget.releasedCost.value ≤ 3 * dearest := by
  have hattempts : (budget.modelAttempts : ℚ) ≤ 3 := by exact_mod_cast h.attempts.trans hlimit
  have hreserved : budget.reservedCost.value ≤ 3 * dearest :=
    h.bounded.trans (mul_le_mul_of_nonneg_right hattempts (by norm_num [dearest]))
  have hsettled := value_nonneg h.settled.nonneg
  have hreleased := value_nonneg h.released.nonneg
  have hbalance := h.balance
  exact ⟨hreserved, by linarith, by linarith⟩

/-- What `reserve` returns. -/
lemma reserve_spec (h : Balanced config limit budget 0) (hlimit : limit ≤ 3)
    (hreserve : budget.reserve config.toRuntimeConfig limit = .ok (budget', reservation)) :
    Reserved config limit budget' reservation ∧
      budget'.modelAttempts = budget.modelAttempts + 1 := by
  simp only [TurnBudget.reserve] at hreserve
  split_ifs at hreserve with hattempts htokens hcost
  cases hreserve
  have hinput := config.input_bounds.2
  have houtput := config.output_bounds.2
  have hprice : Exact (-18) _ (cost config _ 0 _) := tokenCost_exact (Nat.zero_le _)
    ((Nat.sub_le config.maxInputTokens budget.inputTokens).trans hinput)
    ((Nat.sub_le config.maxOutputTokens budget.outputTokens).trans houtput)
  have hle : cost config (config.maxInputTokens - budget.inputTokens) 0
      (config.maxOutputTokens - budget.outputTokens) ≤ dearest :=
    cost_le (Nat.zero_le _) ((Nat.sub_le _ _).trans hinput) ((Nat.sub_le _ _).trans houtput)
  obtain ⟨hreserved, hsettled, -⟩ := h.small hlimit (le_refl 0)
  have hsum := Exact.add ⟨h.reserved, rfl⟩ hprice (by norm_num [dearest] at *; linarith)
  have hspent := Exact.add ⟨h.settled, rfl⟩ hprice (by norm_num [dearest] at *; linarith)
  rw [lt_iff, hspent.value, not_lt] at hcost
  refine ⟨?_, rfl⟩
  exact
    { balanced :=
        { reserved := hsum.within
          settled := h.settled
          released := h.released
          balance := by
            rw [hsum.value, h.balance]
            ring
          capped := hcost
          bounded := by
            have hbounded := h.bounded
            rw [hsum.value, Nat.cast_add, Nat.cast_one, add_mul, one_mul]
            linarith
          attempts := by
            dsimp only
            omega
          counted := congrArg (· + 1) h.counted
          input := h.input
          output := h.output
          cached := h.cached }
      price := hprice
      input := by
        dsimp only
        omega
      output := by
        dsimp only
        omega
      output_pos := by
        dsimp only
        omega }

lemma Reserved.release (h : Reserved config limit budget reservation) (hlimit : limit ≤ 3) :
    Balanced config limit (budget.release reservation) 0 := by
  have hcost : 0 ≤ cost config reservation.inputTokens 0 reservation.outputTokens := cost_nonneg
  have hbalance := h.balanced.balance
  have hsettled := value_nonneg h.balanced.settled.nonneg
  obtain ⟨hreserved, -, -⟩ := h.balanced.small hlimit hcost
  have hsum := Exact.add ⟨h.balanced.released, rfl⟩ h.price
    (by norm_num [dearest] at *; linarith)
  exact
    { h.balanced with
      released := hsum.within
      balance := by
        show budget.reservedCost.value = budget.settledCost.value +
          (Decimal.add budget.releasedCost reservation.costUsd).value + 0
        rw [hsum.value, hbalance]
        ring
      capped := by
        have hcapped := h.balanced.capped
        show budget.settledCost.value + 0 ≤ _
        linarith }

lemma Reserved.settleAmbiguous (h : Reserved config limit budget reservation)
    (hlimit : limit ≤ 3) : Balanced config limit (budget.settleAmbiguous reservation) 0 := by
  have hcost : 0 ≤ cost config reservation.inputTokens 0 reservation.outputTokens := cost_nonneg
  have hbalance := h.balanced.balance
  have hreleased := value_nonneg h.balanced.released.nonneg
  obtain ⟨hreserved, -, -⟩ := h.balanced.small hlimit hcost
  have hsum := Exact.add ⟨h.balanced.settled, rfl⟩ h.price
    (by norm_num [dearest] at *; linarith)
  exact
    { h.balanced with
      settled := hsum.within
      balance := by
        show budget.reservedCost.value =
          (Decimal.add budget.settledCost reservation.costUsd).value + budget.releasedCost.value + 0
        rw [hsum.value, hbalance]
        ring
      capped := by
        show (Decimal.add budget.settledCost reservation.costUsd).value + 0 ≤ _
        rw [hsum.value, add_zero]
        exact h.balanced.capped }

lemma Reserved.settleUsage (h : Reserved config limit budget reservation) (hlimit : limit ≤ 3)
    (usage : ResponsesUsage) :
    Balanced config limit
      (budget.settleUsage config.toRuntimeConfig reservation usage).1 0 := by
  rw [TurnBudget.settleUsage]
  split_ifs with hover
  · exact h.settleAmbiguous hlimit
  rw [not_or, not_lt, not_lt] at hover
  obtain ⟨hinput, houtput⟩ := hover
  have hmaxInput := config.input_bounds.2
  have hmaxOutput := config.output_bounds.2
  have hleftInput := h.input
  have hleftOutput := h.output
  have hactual : Exact (-18) _ (cost config _ _ _) := tokenCost_exact usage.cached_le
    (show usage.inputTokens ≤ 8000 by omega) (show usage.outputTokens ≤ 1200 by omega)
  have hmono : cost config usage.inputTokens usage.cachedInputTokens usage.outputTokens ≤
      cost config reservation.inputTokens 0 reservation.outputTokens :=
    cost_mono usage.cached_le hinput houtput
  have hnonneg := hactual.nonneg
  have hbalance := h.balanced.balance
  have hsettled := value_nonneg h.balanced.settled.nonneg
  have hreleased := value_nonneg h.balanced.released.nonneg
  obtain ⟨hreserved, -, -⟩ := h.balanced.small hlimit h.price.nonneg
  have hrest := h.price.sub hactual hmono (by norm_num [dearest] at *; linarith)
  have hspent := Exact.add ⟨h.balanced.settled, rfl⟩ hactual (by norm_num [dearest] at *; linarith)
  have hback := Exact.add ⟨h.balanced.released, rfl⟩ hrest (by norm_num [dearest] at *; linarith)
  have hcached := h.balanced.cached
  have hcachedUsage := usage.cached_le
  exact
    { h.balanced with
      settled := hspent.within
      released := hback.within
      balance := by
        rw [hspent.value, hback.value, hbalance]
        ring
      capped := by
        have hcapped := h.balanced.capped
        rw [hspent.value]
        linarith
      input := by
        dsimp only
        omega
      output := by
        dsimp only
        omega
      cached := by
        dsimp only
        omega }

variable (config limit)

/-- A turn between two rounds: nothing is open, and each request was bounded by the output that
was left. -/
structure Sound (turn : Turn) : Prop where
  balanced : Balanced config limit turn.budget 0
  calls : turn.sent.length ≤ turn.budget.modelAttempts
  bounds : ∀ sent ∈ turn.sent, 1 ≤ sent.maxOutput ∧
    sent.usedOutput + sent.maxOutput ≤ config.maxOutputTokens

variable {config limit} {turn turn' : Turn} {r : Round}

lemma settleUsage_attempts (config : RuntimeConfig) (budget : TurnBudget)
    (reservation : Reservation) (usage : ResponsesUsage) :
    (budget.settleUsage config reservation usage).1.modelAttempts = budget.modelAttempts := by
  rw [TurnBudget.settleUsage]
  split_ifs
  · rfl
  · rfl

lemma callProvider_attempts (config : RuntimeConfig) (reservation : Reservation)
    (budget : TurnBudget) (r : Round) :
    (callProvider config reservation budget r).1.modelAttempts = budget.modelAttempts := by
  rw [callProvider]
  cases r.outcome with
  | answered usage =>
    have hsettled := settleUsage_attempts config budget reservation usage
    dsimp only
    revert hsettled
    generalize budget.settleUsage config reservation usage = settled
    intro hsettled
    obtain ⟨budget', e | u⟩ := settled
    · exact hsettled
    · dsimp only
      split_ifs
      · exact hsettled
      · exact hsettled
  | connectionFailure => rfl
  | outcomeAmbiguous => rfl
  | requestCancelled => rfl
  | transportTimeout => rfl
  | unclassified => rfl
  | malformed => rfl

lemma Reserved.callProvider (h : Reserved config limit budget reservation) (hlimit : limit ≤ 3)
    (r : Round) :
    Balanced config limit (callProvider config.toRuntimeConfig reservation budget r).1 0 := by
  rw [ResponsesRuntime.callProvider]
  cases r.outcome with
  | answered usage =>
    have hsettled := h.settleUsage hlimit usage
    dsimp only
    revert hsettled
    generalize budget.settleUsage config.toRuntimeConfig reservation usage = settled
    intro hsettled
    obtain ⟨budget', e | u⟩ := settled
    · exact hsettled
    · dsimp only
      split_ifs
      · exact hsettled
      · exact hsettled
  | connectionFailure => exact h.release hlimit
  | outcomeAmbiguous => exact h.settleAmbiguous hlimit
  | requestCancelled => exact h.settleAmbiguous hlimit
  | transportTimeout => exact h.settleAmbiguous hlimit
  | unclassified => exact h.settleAmbiguous hlimit
  | malformed => exact h.settleAmbiguous hlimit

lemma request_ok {built : Except Raised Unit} {maxOutput : Nat}
    (h : request config.toRuntimeConfig budget built = .ok maxOutput) :
    1 ≤ maxOutput ∧ budget.outputTokens + maxOutput ≤ config.maxOutputTokens := by
  rw [request] at h
  split_ifs at h with hnone
  cases built with
  | error e => cases h
  | ok u =>
    obtain rfl := Except.ok.inj h
    omega

lemma Sound.spend (hturn : Sound config limit turn) (hlimit : limit ≤ 3)
    (h : Reserved config limit budget reservation)
    (hattempts : budget.modelAttempts = turn.budget.modelAttempts + 1) (r : Round) :
    Sound config limit (spend config.toRuntimeConfig turn budget reservation r).1 ∧
      (spend config.toRuntimeConfig turn budget reservation r).1.budget.modelAttempts =
        turn.budget.modelAttempts + 1 := by
  have hcalls := hturn.calls
  have hreleased : Sound config limit ⟨budget.release reservation, turn.sent⟩ := by
    refine ⟨h.release hlimit, ?_, hturn.bounds⟩
    show turn.sent.length ≤ budget.modelAttempts
    omega
  rw [ResponsesRuntime.spend]
  cases hrequest : request config.toRuntimeConfig budget r.request with
  | error e => exact ⟨hreleased, hattempts⟩
  | ok maxOutput =>
    dsimp only
    split_ifs
    · have hbalanced := h.callProvider hlimit r
      have hsame := callProvider_attempts config.toRuntimeConfig reservation budget r
      have hsent : Sound config limit
          ⟨(callProvider config.toRuntimeConfig reservation budget r).1,
            turn.sent ++ [⟨budget.outputTokens, maxOutput⟩]⟩ := by
        refine ⟨hbalanced, ?_, ?_⟩
        · rw [List.length_append, List.length_singleton, hsame]
          omega
        · intro sent hmem
          rcases List.mem_append.mp hmem with hold | hnew
          · exact hturn.bounds sent hold
          · rw [List.mem_singleton.mp hnew]
            exact request_ok hrequest
      revert hsent hsame
      generalize callProvider config.toRuntimeConfig reservation budget r = called
      obtain ⟨budget', e | u⟩ := called
      · exact fun hsame hsent => ⟨hsent, hsame.trans hattempts⟩
      · exact fun hsame hsent => ⟨hsent, hsame.trans hattempts⟩
    · exact ⟨hreleased, hattempts⟩

lemma Sound.round (hturn : Sound config limit turn) (hlimit : limit ≤ 3) (r : Round) :
    Sound config limit (round config.toRuntimeConfig limit turn r).1 ∧
      ((round config.toRuntimeConfig limit turn r).2 = none →
        (round config.toRuntimeConfig limit turn r).1.budget.modelAttempts =
          turn.budget.modelAttempts + 1) := by
  rw [ResponsesRuntime.round]
  split_ifs
  · exact ⟨hturn, fun h => by cases h⟩
  · cases hreserve : turn.budget.reserve config.toRuntimeConfig limit with
    | error e => exact ⟨hturn, fun h => by cases h⟩
    | ok reserved =>
      obtain ⟨budget, reservation⟩ := reserved
      obtain ⟨hreserved, hattempts⟩ := reserve_spec hturn.balanced hlimit hreserve
      obtain ⟨hsound, hmore⟩ := hturn.spend hlimit hreserved hattempts r
      exact ⟨hsound, fun _ => hmore⟩
  · exact ⟨hturn, fun h => by cases h⟩

lemma loop_ends (hlimit : limit ≤ 3) (rounds : Nat → Round) (fuel n : Nat)
    (hturn : Sound config limit turn) (hfuel : limit < fuel + turn.budget.modelAttempts) :
    ∃ turn' ending, loop config.toRuntimeConfig limit rounds fuel n turn = some (turn', ending) ∧
      Sound config limit turn' := by
  induction fuel generalizing n turn with
  | zero =>
    have hattempts := hturn.balanced.attempts
    omega
  | succ fuel ih =>
    obtain ⟨hsound, hmore⟩ := hturn.round hlimit (rounds n)
    rw [loop]
    revert hsound hmore
    generalize ResponsesRuntime.round config.toRuntimeConfig limit turn (rounds n) = done
    obtain ⟨turn', ending⟩ := done
    intro hsound hmore
    cases ending with
    | some ending => exact ⟨turn', ending, rfl, hsound⟩
    | none =>
      have hattempts : turn'.budget.modelAttempts = turn.budget.modelAttempts + 1 := hmore rfl
      exact ih (n + 1) hsound (by omega)

lemma sound_new : Sound config limit .new :=
  ⟨balanced_new, Nat.le_refl _, fun _ h => absurd h List.not_mem_nil⟩

lemma modelLimit_le (capability : ReleaseCapability) :
    modelLimit config.toRuntimeConfig capability ≤ 3 :=
  (min_le_left _ _).trans config.calls_bounds.2

/-- Every turn ends after at most its limit of provider calls, each bounded by the output that was
left; then all that was reserved is settled or released, what is settled is within the turn's cap,
and the tokens are within their bounds. -/
theorem model_turn_settles (config : PricedConfig) (capability : ReleaseCapability)
    (loaded : Except Raised Unit) (rounds : Nat → Round) :
    ∃ turn ending,
      invoke config.toRuntimeConfig capability loaded rounds
        (modelLimit config.toRuntimeConfig capability + 1) = some (turn, ending) ∧
      turn.sent.length ≤ turn.budget.modelAttempts ∧
      turn.budget.modelAttempts ≤ modelLimit config.toRuntimeConfig capability ∧
      turn.budget.reservationCount = turn.budget.modelAttempts ∧
      (∀ sent ∈ turn.sent, 1 ≤ sent.maxOutput ∧
        sent.usedOutput + sent.maxOutput ≤ config.maxOutputTokens) ∧
      turn.budget.reservedCost.value =
        turn.budget.settledCost.value + turn.budget.releasedCost.value ∧
      0 ≤ turn.budget.settledCost.value ∧ 0 ≤ turn.budget.releasedCost.value ∧
      Decimal.le turn.budget.settledCost config.maxTurnCostUsd ∧
      turn.budget.inputTokens ≤ config.maxInputTokens ∧
      turn.budget.outputTokens ≤ config.maxOutputTokens ∧
      turn.budget.cachedInputTokens ≤ turn.budget.inputTokens := by
  have hends : ∃ turn ending, invoke config.toRuntimeConfig capability loaded rounds
      (modelLimit config.toRuntimeConfig capability + 1) = some (turn, ending) ∧
      Sound config (modelLimit config.toRuntimeConfig capability) turn := by
    cases loaded with
    | error e => exact ⟨.new, .raised e, rfl, sound_new⟩
    | ok u =>
      refine loop_ends (modelLimit_le capability) rounds _ 0 sound_new ?_
      show _ < _ + 1 + 0
      omega
  obtain ⟨turn, ending, hinvoke, hsound⟩ := hends
  have hbalanced := hsound.balanced
  refine ⟨turn, ending, hinvoke, hsound.calls, hbalanced.attempts, hbalanced.counted,
    hsound.bounds, ?_, value_nonneg hbalanced.settled.nonneg,
    value_nonneg hbalanced.released.nonneg, ?_, hbalanced.input, hbalanced.output,
    hbalanced.cached⟩
  · rw [hbalanced.balance, add_zero]
  · have hcapped := hbalanced.capped
    rw [add_zero] at hcapped
    exact le_iff.mpr hcapped

/-! A turn that calls a tool, and then answers. -/

lemma shadow_money : ∀ usd ∈ [(⟨5, -2⟩ : Decimal), ⟨250, -2⟩, ⟨25, -2⟩, ⟨1000, -2⟩],
    Decimal.Within (-12) usd := by
  intro usd hmem
  simp only [List.mem_cons, List.not_mem_nil, or_false] at hmem
  rcases hmem with rfl | rfl | rfl | rfl
  all_goals exact ⟨by decide, by decide⟩

lemma shadow_cached : Decimal.le ⟨25, -2⟩ ⟨250, -2⟩ := by decide

def shadowRuntime : RuntimeConfig where
  maxModelCalls := 3
  maxInputTokens := 8000
  maxOutputTokens := 1200
  maxTurnCostUsd := ⟨5, -2⟩
  inputCostPerMillionUsd := ⟨250, -2⟩
  cachedInputCostPerMillionUsd := ⟨25, -2⟩
  outputCostPerMillionUsd := ⟨1000, -2⟩
  calls_bounds := by decide
  input_bounds := by decide
  output_bounds := by decide
  money := shadow_money
  cached_le := shadow_cached

lemma shadow_input : shadowRuntime.inputCostPerMillionUsd.value < 10 ^ 9 := by
  norm_num [shadowRuntime, Decimal.value]

lemma shadow_output : shadowRuntime.outputCostPerMillionUsd.value < 10 ^ 9 := by
  norm_num [shadowRuntime, Decimal.value]

def shadowConfig : PricedConfig := ⟨shadowRuntime, shadow_input, shadow_output⟩

def toolThenDraft : Nat → Round
  | 0 => ⟨false, true, .ok (), true, .answered ⟨6000, 1000, 500, by decide⟩, true, .toolCalled⟩
  | _ => ⟨false, true, .ok (), true, .answered ⟨900, 0, 100, by decide⟩, true, .draft "Dạ"⟩

theorem shadow_turn_settles : ∃ turn ending,
    invoke shadowRuntime .internalShadow (.ok ()) toolThenDraft 4 = some (turn, ending) ∧
      turn.sent = [⟨0, 1200⟩, ⟨500, 700⟩] ∧
      (∀ sent ∈ turn.sent, sent.usedOutput + sent.maxOutput ≤ 1200) ∧
      turn.budget.reservedCost.value =
        turn.budget.settledCost.value + turn.budget.releasedCost.value ∧
      Decimal.le turn.budget.settledCost ⟨5, -2⟩ := by
  obtain ⟨turn, ending, hinvoke, -, -, -, hbounds, hbalance, -, -, hcapped, -⟩ :=
    model_turn_settles shadowConfig .internalShadow (.ok ()) toolThenDraft
  have hsent : (invoke shadowRuntime .internalShadow (.ok ()) toolThenDraft 4).map
      (fun ended => ended.1.sent) = some [⟨0, 1200⟩, ⟨500, 700⟩] := by
    decide
  refine ⟨turn, ending, hinvoke, ?_, fun sent hmem => (hbounds sent hmem).2, hbalance, hcapped⟩
  have hinvoke' : invoke shadowRuntime .internalShadow (.ok ()) toolThenDraft 4 =
      some (turn, ending) := hinvoke
  rw [hinvoke'] at hsent
  exact Option.some.inj hsent

end NhaTrangLaundry.Worker.ResponsesRuntime

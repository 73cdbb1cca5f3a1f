import ComposeToPodman.Binary64
import Mathlib.Algebra.Group.Int.Defs
import Mathlib.Algebra.Group.Nat.Defs

/-! Large integers as binary numbers. An integer of 64 bits that needs all of them is rounded to a
multiple of 2048, and the text of that number is a multiple of 1000. -/
namespace ComposeToPodman.Binary64

theorem divideToEven_near (num den : Nat) (positive : 0 < den) :
    2 * num ≤ 2 * (divideToEven num den * den) + den ∧
      2 * (divideToEven num den * den) ≤ 2 * num + den := by
  have whole : num / den * den + num % den = num := Nat.div_add_mod' num den
  have small : num % den < den := Nat.mod_lt num positive
  have next : (num / den + 1) * den = num / den * den + den := Nat.succ_mul _ _
  unfold divideToEven
  dsimp only
  split
  next => omega
  next =>
    split
    next => omega
    next =>
      rcases Nat.mod_two_eq_zero_or_one (num / den) with even | odd
      · rw [even,Nat.add_zero]
        omega
      · rw [odd]
        omega

theorem ofQuotient_of_scaled {negative : Bool} {num den n d : Nat} {e : Int} (nonzero : num ≠ 0)
    (exponent : exponentFor num den = e) (scale : scaled num den e = (n,d)) :
    ofQuotient negative num den =
      if divideToEven n d = Nat.pow 2 53 then
        if 971 < e + 1 then .infinite negative else .finite negative (Nat.pow 2 52) (e + 1)
      else if 971 < e then .infinite negative else .finite negative (divideToEven n d) e := by
  rw [ofQuotient,if_neg nonzero,exponent]
  extract_lets power
  have scale : scaled num den power = (n,d) := scale
  rw [scale]
  split
  next n' d' same =>
  obtain ⟨rfl,rfl⟩ := Prod.mk.inj same
  extract_lets m
  by_cases wide : m = Nat.pow 2 53
  · rw [if_pos wide,if_pos wide]
  · rw [if_neg wide,if_neg wide]

section Large

variable {n : Nat}

theorem exponentFor_of_large (lower : 2 ^ 63 ≤ n) (upper : n < 2 ^ 64) : exponentFor n 1 = 11 := by
  have log : n.log2 = 63 := (Nat.log2_eq_iff (by omega)).mpr ⟨lower,upper⟩
  have one : Nat.log2 1 = 0 := by decide
  have enough : ¬n < 1 * Nat.pow 2 11 * Nat.pow 2 52 := Nat.not_lt.mpr lower
  have told : exponentFor n 1 =
      max (-1074) (if n < 1 * Nat.pow 2 11 * Nat.pow 2 52 then 10 else 11) := by
    rw [exponentFor,log,one]
    rfl
  rw [told,if_neg enough]
  decide

/-- The mantissa counts multiples of 2048, unless it is too large for 53 bits. -/
theorem ofQuotient_of_large (lower : 2 ^ 63 ≤ n) (upper : n < 2 ^ 64) :
    (∃ m, ofQuotient false n 1 = .finite false m 11 ∧ 2 ^ 52 ≤ m ∧ m < 2 ^ 53 ∧
      n ≤ 2048 * m + 1024 ∧ 2048 * m ≤ n + 1024) ∨
    ofQuotient false n 1 = .finite false (2 ^ 52) 12 ∧ 2 ^ 64 ≤ n + 1024 := by
  obtain ⟨below,above⟩ := divideToEven_near n 2048 (by decide)
  have told : ofQuotient false n 1 =
      if divideToEven n 2048 = 2 ^ 53 then .finite false (2 ^ 52) 12
      else .finite false (divideToEven n 2048) 11 := by
    rw [ofQuotient_of_scaled (by omega) (exponentFor_of_large lower upper) rfl]
    rfl
  rw [told]
  split
  next wide => exact .inr ⟨rfl,by omega⟩
  next => exact .inl ⟨_,rfl,by omega,by omega,by omega,by omega⟩

end Large

section Interval

variable {i : Interval} {tie : Tie} {power : Int} {n : Nat}

theorem Interval.bounds_of_contains (whole : 0 ≤ power) (reads : i.contains n power) :
    i.low ≤ n * 10 ^ power.toNat * i.den ∧ n * 10 ^ power.toNat * i.den ≤ i.high := by
  simp only [contains,whole,if_true,Nat.mul_one] at reads
  split at reads
  next => simpa using reads
  next =>
    obtain ⟨low,high⟩ : i.low < n * 10 ^ power.toNat * i.den ∧
        n * 10 ^ power.toNat * i.den < i.high := by simpa using reads
    exact ⟨Nat.le_of_lt low,Nat.le_of_lt high⟩

theorem Interval.contains_of_between (whole : 0 ≤ power)
    (low : i.low < n * 10 ^ power.toNat * i.den) (high : n * 10 ^ power.toNat * i.den < i.high) :
    i.contains n power := by
  simp only [contains,whole,if_true,Nat.mul_one]
  split
  next => simpa using ⟨Nat.le_of_lt low,Nat.le_of_lt high⟩
  next => simpa using ⟨low,high⟩

theorem Interval.contains_of_onGrid (taken : i.onGrid power tie = some n) : i.contains n power := by
  unfold onGrid at taken
  dsimp only at taken
  generalize (if 0 ≤ power then i.value else _) = num at taken
  generalize (if 0 ≤ power then i.den * _ else _) = den at taken
  split at taken
  next here _ => exact Option.some.inj taken ▸ here
  next _ next => exact Option.some.inj taken ▸ next
  next => cases taken
  next here next =>
    split at taken
    case isTrue => exact Option.some.inj taken ▸ here
    split at taken
    case isTrue => exact Option.some.inj taken ▸ next
    split at taken
    case h_2 => exact Option.some.inj taken ▸ next
    rcases Nat.mod_two_eq_zero_or_one (num / den) with even | odd
    · rw [even] at taken
      exact Option.some.inj taken ▸ here
    · rw [odd] at taken
      exact Option.some.inj taken ▸ next

/-- A step that fits between the value and the upper halfway point leaves a point on the grid. -/
theorem Interval.isSome_onGrid {k : Nat} (whole : i.den = 1) (below : i.low ≤ i.value)
    (room : i.value + 10 ^ k < i.high) (tie : Tie) : (i.onGrid k tie).isSome := by
  have step : (i.value / 10 ^ k + 1) * 10 ^ k = i.value / 10 ^ k * 10 ^ k + 10 ^ k :=
    Nat.succ_mul _ _
  have parts : i.value / 10 ^ k * 10 ^ k + i.value % 10 ^ k = i.value := Nat.div_add_mod' _ _
  have small : i.value % 10 ^ k < 10 ^ k := Nat.mod_lt _ (Nat.pow_pos (by decide))
  have next : i.contains (i.value / 10 ^ k + 1) k := by
    refine contains_of_between (Int.natCast_nonneg k) ?_ ?_
    all_goals
      rw [Int.toNat_natCast,whole]
      omega
  have power : Nat.pow 10 k = 10 ^ k := rfl
  simp only [onGrid,Int.natCast_nonneg,if_true,Int.toNat_natCast,whole,Nat.one_mul,power,next]
  split
  next => rfl
  next => rfl
  next _ absent => cases absent
  next => split <;> first | rfl | (split <;> first | rfl | (split <;> rfl))

theorem shortestFrom_spec {lead : Int} {count last : Nat} (fuel : Nat) (before : count ≤ last)
    (enough : last ≤ count + fuel) (found : (i.onGrid (lead - last) tie).isSome) :
    ∃ n stop : Nat, stop ≤ last ∧ i.onGrid (lead - stop) tie = some n ∧
      shortestFrom i tie lead fuel count = ⟨n,lead - stop⟩ := by
  -- By induction on the fuel: the search stops no later than on a grid that has a point.
  induction fuel generalizing count with
  | zero =>
    obtain rfl : count = last := by omega
    obtain ⟨n,given⟩ := Option.isSome_iff_exists.mp found
    exact ⟨n,count,Nat.le_refl _,given,by simp [shortestFrom,given]⟩
  | succ fuel ih =>
    cases given : i.onGrid (lead - count) tie with
    | some n => exact ⟨n,count,before,given,by simp [shortestFrom,given]⟩
    | none =>
      have later : count ≠ last := by
        rintro rfl
        simp [given] at found
      have next : count + 1 ≤ last := by omega
      simpa [shortestFrom,given] using ih next (by omega)

theorem Interval.leadingPower_of_whole (whole : i.den = 1) (positive : 0 < i.value) :
    i.leadingPower = ((Nat.toDigits 10 i.value).length : Int) - 1 := by
  have wide : 1 ≤ i.value := positive
  simp [leadingPower,whole,wide]

end Interval

theorem toDigits_mul_pow {n : Nat} (positive : 0 < n) (k : Nat) :
    Nat.toDigits 10 (n * 10 ^ k) = Nat.toDigits 10 n ++ List.replicate k '0' := by
  induction k with
  | zero => simp
  | succ k ih =>
    have step := Nat.toDigits_append_toDigits (b := 10) (n := n * 10 ^ k) (d := 0) (by decide)
      (Nat.mul_pos positive (Nat.pow_pos (by decide))) (by decide)
    have next : n * 10 ^ (k + 1) = 10 * (n * 10 ^ k) + 0 := by
      rw [Nat.pow_succ',Nat.mul_left_comm,Nat.add_zero]
    rw [next,← step,ih,List.append_assoc,List.replicate_succ']
    rfl

def Decimal.integer (d : Decimal) : Nat := d.digits * 10 ^ d.power.toNat

theorem positional_whole {d : Decimal} (whole : 0 ≤ d.power) (positive : 0 < d.integer) :
    positional d "" = toString d.integer := by
  have digits : 0 < d.digits := Nat.pos_of_mul_pos_right positive
  rw [Nat.toString_eq_ofList_toDigits,Decimal.integer,toDigits_mul_pow digits]
  simp [positional,whole,zeros,String.ofList_append]

/-- Moving zeros to the power does not change the value. -/
theorem Decimal.normal_whole (fuel : Nat) {d : Decimal} (whole : 0 ≤ d.power) :
    d.power ≤ (normal fuel d).power ∧ (normal fuel d).integer = d.integer := by
  induction fuel generalizing d with
  | zero => exact ⟨Int.le_refl _,rfl⟩
  | succ fuel ih =>
    rw [normal]
    split
    next zero =>
      have whole : 0 ≤ d.power + 1 := by omega
      obtain ⟨power,value⟩ := ih (d := ⟨d.digits / 10,d.power + 1⟩) whole
      refine ⟨Int.le_trans (Int.le_add_of_nonneg_right (by decide)) power,value.trans ?_⟩
      have next : (d.power + 1).toNat = d.power.toNat + 1 := by omega
      have tens : d.digits / 10 * 10 = d.digits := Nat.div_mul_cancel (Nat.dvd_of_mod_eq_zero zero.2)
      rw [integer,integer,next,Nat.pow_succ',← Nat.mul_assoc,tens]
    next => exact ⟨Int.le_refl _,rfl⟩

/-- From an exponent of two on the halfway points are whole. -/
theorem interval_whole {e : Int} (wide : 2 ≤ e) (m : Nat) : interval m e =
    ⟨(4 * m - if m = 2 ^ 52 then 1 else 2) * 2 ^ (e - 2).toNat,4 * m * 2 ^ (e - 2).toNat,
      (4 * m + 2) * 2 ^ (e - 2).toNat,1,m % 2 = 0⟩ := by
  have whole : ¬e < 2 := Int.not_lt.mpr wide
  have normal : -1074 < e := by omega
  simp [interval,whole,normal]

/-- If a step of `10 ^ k` fits, what is found is a multiple of it and reads back. -/
theorem shortest_multiple {m : Nat} {e : Int} {k : Nat} (tie : Tie) (nonzero : m ≠ 0)
    (whole : (interval m e).den = 1) (below : (interval m e).low ≤ (interval m e).value)
    (room : (interval m e).value + 10 ^ k < (interval m e).high)
    (lower : 10 ^ k ≤ (interval m e).value) (upper : (interval m e).value < 10 ^ (k + 18)) :
    0 ≤ (shortest tie m e).power ∧ 10 ^ k ∣ (shortest tie m e).integer ∧
      (interval m e).low ≤ (shortest tie m e).integer ∧
      (shortest tie m e).integer ≤ (interval m e).high := by
  generalize interval_eq : interval m e = i at *
  have positive : 0 < i.value := Nat.lt_of_lt_of_le (Nat.pow_pos (by decide)) lower
  have length_le : (Nat.toDigits 10 i.value).length ≤ k + 18 :=
    (Nat.length_toDigits_le_iff (by decide) (by omega)).mpr upper
  have length_gt : k < (Nat.toDigits 10 i.value).length := by
    rcases Nat.eq_zero_or_pos k with rfl | some
    · exact Nat.length_toDigits_pos
    · exact Nat.not_le.mp fun short =>
        absurd ((Nat.length_toDigits_le_iff (by decide) some).mp short) (Nat.not_lt.mpr lower)
  obtain ⟨last,lead⟩ : ∃ last : Nat, last ≤ 17 ∧ i.leadingPower - last = k := by
    refine ⟨(Nat.toDigits 10 i.value).length - 1 - k,by omega,?_⟩
    rw [Interval.leadingPower_of_whole whole positive]
    omega
  have found : (i.onGrid (i.leadingPower - last) tie).isSome :=
    lead.2 ▸ Interval.isSome_onGrid whole below room tie
  obtain ⟨n,stop,early,taken,start⟩ :=
    shortestFrom_spec 17 (Nat.zero_le last) (by omega) found
  have high : (k : Int) ≤ i.leadingPower - stop := by omega
  have fits := Interval.bounds_of_contains (by omega) (Interval.contains_of_onGrid taken)
  rw [whole,Nat.mul_one] at fits
  have start_whole : 0 ≤ (Decimal.mk n (i.leadingPower - stop)).power := by
    dsimp only
    omega
  obtain ⟨power,value⟩ := Decimal.normal_whole 20 start_whole
  have step : 10 ^ k ∣ 10 ^ (i.leadingPower - stop).toNat := Nat.pow_dvd_pow 10 (by omega)
  rw [shortest,if_neg nonzero]
  dsimp only
  rw [interval_eq,start,value]
  exact ⟨Int.le_trans start_whole power,Nat.dvd_trans step (Nat.dvd_mul_left _ _),fits⟩

/-- The text of an integer that needs all of 64 bits is that of a near multiple of 1000. -/
theorem plainText_ofInt_of_large {i : Int} (lower : 2 ^ 63 ≤ i) (upper : i < 2 ^ 64) :
    ∃ n : Nat, (ofInt i).plainText = toString n ∧ 1000 ∣ n ∧ (n : Int) ≤ i + 2048 ∧ i ≤ n + 2048 := by
  obtain ⟨v,rfl⟩ := Int.eq_ofNat_of_zero_le (show 0 ≤ i by omega)
  have same : ofInt v = ofQuotient false v 1 := by
    have sign : ¬(v : Int) < 0 := by omega
    simp [ofInt,sign]
  rw [same]
  rcases ofQuotient_of_large (n := v) (by omega) (by omega) with ⟨m,told,bounds⟩ | ⟨told,bound⟩
  · have between := interval_whole (e := 11) (by decide) m
    have low : (interval m 11).low = (4 * m - if m = 2 ^ 52 then 1 else 2) * 512 :=
      congrArg Interval.low between
    have value : (interval m 11).value = 4 * m * 512 := congrArg Interval.value between
    have high : (interval m 11).high = (4 * m + 2) * 512 := congrArg Interval.high between
    obtain ⟨whole,multiple,below,above⟩ := shortest_multiple (k := 3) .up
      (m := m) (e := 11) (by omega) rfl (by omega) (by omega) (by omega) (by omega)
    have near : (interval m 11).value ≤ (interval m 11).low + 1024 := by
      split at low <;> omega
    refine ⟨(shortest .up m 11).integer,?_,multiple,by omega,by omega⟩
    rw [told,plainText,positional_whole whole (by omega)]
    rfl
  · have text : plainText (.finite false (2 ^ 52) 12) = toString 18446744073709552000 := by
      decide +kernel
    exact ⟨18446744073709552000,by rw [told,text],by decide,by omega,by omega⟩

end ComposeToPodman.Binary64

import Retag.Unicode.Letter

/-!
# Tables as runs

A table lists the lengths of runs of code points, and a code point is looked up by halving where the
runs end. What is found is what a walk over the runs finds, so what two tables say of every code
point is compared by walking over both at once.
-/

namespace Retag.Unicode.Table

/-! ## Looking up -/

/-- `place` parts the positions into those at or below `n` and those above. -/
structure Parts (starts : List Nat) (n place : Nat) : Prop where
  within : place ≤ starts.length
  below : ∀ i k, i < place → starts[i]? = some k → k ≤ n
  above : ∀ i k, place ≤ i → starts[i]? = some k → n < k

/-- Halving keeps the place where the positions part between the bounds, and meets it. -/
theorem rankIn_eq {starts : Array Nat} {n place : Nat} (h : Parts starts.toList n place)
    {fuel lo hi : Nat} (hlo : lo ≤ place) (hhi : place ≤ hi) (hsize : hi ≤ starts.size)
    (hfuel : hi - lo ≤ fuel) : rankIn starts n fuel lo hi = place := by
  induction fuel generalizing lo hi with
  | zero =>
    rw [rankIn]
    omega
  | succ fuel ih =>
    rw [rankIn]
    by_cases hopen : lo < hi
    case neg =>
      rw [if_neg hopen]
      omega
    have hmid : (lo + hi) / 2 < starts.size := by omega
    have hget : starts.toList[(lo + hi) / 2]? = some (starts.getD ((lo + hi) / 2) 0) := by
      rw [Array.getElem?_toList, Array.getD_eq_getD_getElem?, Array.getElem?_eq_getElem hmid,
        Option.getD_some]
    by_cases hle : starts.getD ((lo + hi) / 2) 0 ≤ n
    · have hplace : (lo + hi) / 2 < place :=
        Nat.not_le.mp fun hplace => absurd (h.above _ _ hplace hget) (Nat.not_lt.mpr hle)
      rw [if_pos hopen, if_pos hle]
      exact ih hplace hhi hsize (by omega)
    · have hplace : place ≤ (lo + hi) / 2 :=
        Nat.not_lt.mp fun hplace => hle (h.below _ _ hplace hget)
      rw [if_pos hopen, if_neg hle]
      exact ih hlo hplace (by omega) (by omega)

theorem rank_eq {starts : Array Nat} {n place : Nat} (h : Parts starts.toList n place) :
    rank starts n = place :=
  rankIn_eq h (Nat.zero_le _) h.within (Nat.le_refl _) (Nat.le_refl _)

/-- How many runs end at or below `n`. -/
def runIndex : List Nat → Nat → Nat
  | [], _ => 0
  | k :: runs, n => if n < k then 0 else runIndex runs (n - k) + 1

theorem le_of_mem_sums {runs : List Nat} {start k : Nat} (h : k ∈ sums start runs) : start ≤ k := by
  induction runs generalizing start with
  | nil => cases h
  | cons length runs ih =>
    rcases List.mem_cons.mp h with rfl | h
    · exact Nat.le_add_right _ _
    · exact Nat.le_trans (Nat.le_add_right _ _) (ih h)

theorem parts_sums (runs : List Nat) {start n : Nat} (hstart : start ≤ n) :
    Parts (sums start runs) n (runIndex runs (n - start)) := by
  induction runs generalizing start with
  | nil => exact ⟨Nat.le_refl _, nofun, nofun⟩
  | cons length runs ih =>
    rw [sums, runIndex]
    split
    · next hlt =>
      refine ⟨Nat.zero_le _, nofun, fun i k _ hk => ?_⟩
      have hend : start + length ≤ k := by
        rcases List.mem_cons.mp (List.mem_of_getElem? hk) with rfl | hk
        · exact Nat.le_refl _
        · exact le_of_mem_sums hk
      omega
    · next hge =>
      have hnext := @ih (start + length) (by omega)
      rw [← Nat.sub_sub] at hnext
      refine ⟨Nat.succ_le_succ hnext.within, fun i k hi hk => ?_, fun i k hi hk => ?_⟩
      · rcases i with - | i
        · cases hk
          omega
        · exact hnext.below i k (Nat.lt_of_succ_lt_succ hi) hk
      · rcases i with - | i
        · cases hi
        · exact hnext.above i k (Nat.le_of_succ_le_succ hi) hk

theorem rank_sums (runs : List Nat) (n : Nat) :
    rank (sums 0 runs).toArray n = runIndex runs n := rank_eq (parts_sums runs (Nat.zero_le n))

/-! ## Walks -/

/-- Whether `n` is inside, where each gap turns that over. -/
def inside (state : Bool) : List Nat → Nat → Bool
  | [], _ => state
  | k :: gaps, n => if n < k then state else inside (!state) gaps (n - k)

theorem inside_eq (state : Bool) (gaps : List Nat) (n : Nat) :
    inside state gaps n = (state != (runIndex gaps n % 2 == 1)) := by
  induction gaps generalizing state n with
  | nil => exact (Bool.bne_false state).symm
  | cons k gaps ih =>
    rw [inside, runIndex]
    split
    · exact (Bool.bne_false state).symm
    · rw [ih]
      rcases Nat.mod_two_eq_zero_or_one (runIndex gaps (n - k)) with h | h <;>
        cases state <;> simp [h, Nat.add_mod]

/-- Whether the run that holds `n` is marked. -/
def marked : List (Bool × Nat) → Nat → Bool
  | [], _ => false
  | (mark, k) :: runs, n => if n < k then mark else marked runs (n - k)

/-- The label of the run that holds `n` is of a kind exactly if a walk with the runs of that kind
marked finds a mark. -/
theorem label_eq_marked {α β : Type} {kind : β → Bool} {other : β} (hother : kind other = false)
    (label : α → β) (size : α → Nat) (runs : List α) (n : Nat) :
    kind ((runs.map label).toArray.getD (runIndex (runs.map size) n) other)
      = marked (runs.map fun run => (kind (label run), size run)) n := by
  rw [Array.getD_eq_getD_getElem?, List.getElem?_toArray]
  induction runs generalizing n with
  | nil => exact hother
  | cons run runs ih =>
    simp only [List.map_cons, runIndex, marked]
    split
    · rfl
    · exact ih _

theorem marked_mono {α : Type} {mark wider : α → Bool} (hwider : ∀ run, mark run → wider run)
    {size : α → Nat} {runs : List α} {n : Nat}
    (h : marked (runs.map fun run => (mark run, size run)) n = true) :
    marked (runs.map fun run => (wider run, size run)) n = true := by
  induction runs generalizing n with
  | nil => cases h
  | cons run runs ih =>
    rw [List.map_cons, marked] at h ⊢
    split at h
    · next hn => rw [if_pos hn, hwider run h]
    · next hn =>
      rw [if_neg hn]
      exact ih h

/-! ## Two walks at once -/

/-- What is left of a walk after `n`. -/
def skip : Nat → Bool → List Nat → Bool × List Nat
  | _, state, [] => (state, [])
  | n, state, k :: gaps => if n < k then (state, (k - n) :: gaps) else skip (n - k) (!state) gaps

theorem inside_skip (n m : Nat) (state : Bool) (gaps : List Nat) :
    inside (skip n state gaps).1 (skip n state gaps).2 m = inside state gaps (n + m) := by
  induction gaps generalizing n state with
  | nil => rfl
  | cons k gaps ih =>
    rw [skip]
    split
    · next hn =>
      have hleft : m < k - n ↔ n + m < k := by omega
      have hrest : m - (k - n) = n + m - k := by omega
      simp only [inside, hleft, hrest]
    · next hn =>
      rw [ih, inside, if_neg (by omega), Nat.sub_add_comm (by omega)]

/-- None of the next `n` is inside. -/
def clear (n : Nat) (state : Bool) : List Nat → Bool
  | [] => !state
  | k :: _ => !state && n ≤ k

theorem inside_of_clear {n m : Nat} {state : Bool} {gaps : List Nat}
    (h : clear n state gaps = true) (hm : m < n) : inside state gaps m = false := by
  rcases gaps with - | ⟨k, gaps⟩
  · rw [inside]
    simpa [clear] using h
  · simp only [clear, Bool.and_eq_true, Bool.not_eq_true', decide_eq_true_eq] at h
    rw [inside, if_pos (by omega), h.1]

/-- No marked run reaches inside. -/
def apart : List (Bool × Nat) → Bool → List Nat → Bool
  | [], _, _ => true
  | (mark, n) :: runs, state, gaps =>
    (!mark || clear n state gaps) &&
      match skip n state gaps with
      | (state, gaps) => apart runs state gaps

theorem inside_of_apart {runs : List (Bool × Nat)} {state : Bool} {gaps : List Nat}
    (h : apart runs state gaps = true) {n : Nat} (hn : marked runs n = true) :
    inside state gaps n = false := by
  induction runs generalizing state gaps n with
  | nil => cases hn
  | cons run runs ih =>
    obtain ⟨mark, k⟩ := run
    rw [apart, Bool.and_eq_true] at h
    rw [marked] at hn
    split at hn
    · next hlt =>
      rw [hn, Bool.not_true, Bool.false_or] at h
      exact inside_of_clear h.1 hlt
    · next hge =>
      have hrest := ih h.2 hn
      rwa [inside_skip, Nat.add_sub_of_le (Nat.not_lt.mp hge)] at hrest

end Retag.Unicode.Table

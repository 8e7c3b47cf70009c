import Mathlib.Data.List.Nodup
import Mathlib.Data.List.Perm.Subperm
import RowLoader.Random.Sample

/-!
# What is drawn

What is certain of a draw whatever the words are. Samples hold entries of their pool, no two of them alike, by either algorithm.

* `Always x P`: the outcome of `x` has the property from every state, with a rule for each way to put draws together;
* `IsSample pool k drawn`: `drawn` are `k` entries of the pool, all different;
* `IsSample.addReplacing`, `always_replaceFrom`: one draw with replacement of repeats, and a sequence of them;
* `always_shuffleFrom`: a partial shuffle loses nothing;
* `always_sample`: a sample of a pool without repetition;
* `letters_and_digits_drawn`: texts of letters and of digits.
-/

namespace RowLoader.Random

/-! ### whatever the words are -/

section

variable {σ α β : Type} {P : α → Prop} {Q : β → Prop}

/-- Every outcome has the property. -/
def Always (x : StateM σ α) (P : α → Prop) : Prop := ∀ s, P (x s).1

namespace Always

theorem pure {a : α} (h : P a) : Always (pure a : StateM σ α) P := fun _ => h

theorem bind {x : StateM σ α} {f : α → StateM σ β} (hx : Always x P) (hf : ∀ a, P a → Always (f a) Q) :
    Always (x >>= f) Q := fun s => hf _ (hx s) (x s).2

theorem mono {P' : α → Prop} {x : StateM σ α} (hx : Always x P) (h : ∀ a, P a → P' a) : Always x P' :=
  fun s => h _ (hx s)

end Always

variable [WordSource σ]

theorem always_below32 {n : Nat} (hn : 0 < n) (h : n ≤ 0x100000000) : Always (below32 n : StateM σ Nat) (· < n) :=
  below32_lt hn h

theorem always_below64 {n : Nat} (hn : 0 < n) (h : n ≤ 0x10000000000000000) : Always (below64 n : StateM σ Nat) (· < n) :=
  below64_lt hn h

end

/-! ### entries of a pool -/

/-- So many entries of the pool, no two of them alike. -/
structure IsSample {α : Type} (pool : List α) (k : Nat) (drawn : List α) : Prop where
  length : drawn.length = k
  nodup : drawn.Nodup
  mem_pool : ∀ x ∈ drawn, x ∈ pool

namespace IsSample

variable {α : Type} {pool drawn : List α} {k : Nat}

/-- A sample as large as its pool holds all of it. -/
theorem perm (h : IsSample pool k drawn) (hk : pool.length ≤ k) : drawn.Perm pool := by
  have hsub : drawn.Subperm pool := List.subperm_of_subset h.nodup fun x hx => h.mem_pool x hx
  apply hsub.perm_of_length_le
  rw [h.length]
  exact hk

/-- The first entries of a reordered pool are a sample of it. -/
theorem of_perm_take {all : List α} (hperm : all.Perm pool) (hnodup : pool.Nodup) (hk : k ≤ pool.length) :
    IsSample pool k (all.take k) where
  length := by
    rw [List.length_take, hperm.length_eq]
    exact Nat.min_eq_left hk
  nodup := (hperm.nodup_iff.2 hnodup).sublist (List.take_sublist k all)
  mem_pool _ hx := hperm.mem_iff.1 (List.mem_of_mem_take hx)

/-- Places of entries stand for the entries. -/
theorem entries {places : List Nat} (h : IsSample (List.range pool.length) k places) (hnodup : pool.Nodup) :
    IsSample pool k (places.filterMap (pool[·]?)) where
  length := by
    rw [← h.length, List.filterMap_length_eq_length]
    intro i hi
    have hlt := List.mem_range.1 (h.mem_pool i hi)
    rw [List.getElem?_eq_getElem hlt]
    rfl
  nodup := by
    apply h.nodup.filterMap
    intro i j x hi hj
    have hlt : i < pool.length := (List.getElem?_eq_some_iff.1 hi).1
    exact (List.getElem?_inj hlt hnodup).1 (hi.trans hj.symm)
  mem_pool x hx := by
    obtain ⟨i, -, hi⟩ := List.mem_filterMap.1 hx
    exact List.mem_of_getElem? hi

/-- One more number: a repeat makes room for it by turning into the newest bound, which nothing drawn before has reached. -/
theorem addReplacing {newest t : Nat} {drawn : List Nat} (h : IsSample (List.range newest) k drawn)
    (ht : t < newest + 1) : IsSample (List.range (newest + 1)) (k + 1) (addReplacing newest t drawn) where
  length := by simp [Random.addReplacing, h.length]
  nodup := by
    have hlt : ∀ x ∈ drawn, x < newest := fun x hx => List.mem_range.1 (h.mem_pool x hx)
    have hfront : (drawn.map fun x => if x = t then newest else x).Nodup := by
      refine h.nodup.map_on ?_
      intro x hx y hy heq
      have hx := hlt x hx
      have hy := hlt y hy
      -- only `t` turns into `newest`, and no entry was `newest` before
      split at heq <;> split at heq <;> omega
    have hlast : t ∉ drawn.map fun x => if x = t then newest else x := by
      intro hmem
      obtain ⟨x, hx, heq⟩ := List.mem_map.1 hmem
      have hx := hlt x hx
      split at heq <;> omega
    have hall := hfront.concat hlast
    rwa [List.concat_eq_append] at hall
  mem_pool x hx := by
    rw [List.mem_range]
    rcases List.mem_append.1 hx with hx | hx
    · obtain ⟨y, hy, rfl⟩ := List.mem_map.1 hx
      have hlt := List.mem_range.1 (h.mem_pool y hy)
      split <;> omega
    · rw [List.mem_singleton.1 hx]
      exact ht

end IsSample

variable {σ : Type} [WordSource σ]

/-! ### draws with replacement of repeats -/

/-- The bound grows by one with each draw. -/
theorem always_replaceFrom {n newest k : Nat} {drawn : List Nat} (h : IsSample (List.range newest) k drawn)
    (hword : newest + n ≤ 0x100000000) :
    Always (replaceFrom n newest drawn : StateM σ (List Nat)) (IsSample (List.range (newest + n)) (k + n)) := by
  induction n generalizing newest k drawn with
  | zero => exact .pure h
  | succ n ih =>
    have hdraw : Always (below32 (newest + 1) : StateM σ Nat) (· < newest + 1) := always_below32 (by omega) (by omega)
    refine hdraw.bind ?_
    intro t ht
    have hrest := ih (h.addReplacing ht) (by omega)
    rwa [Nat.add_right_comm newest 1 n, Nat.add_right_comm k 1 n] at hrest

theorem always_sampleByReplacement {k l : Nat} (hk : k ≤ l) (hl : l ≤ 0x100000000) :
    Always (sampleByReplacement k l : StateM σ (List Nat)) (IsSample (List.range l) k) := by
  have hnone : IsSample (List.range (l - k)) 0 [] := ⟨rfl, List.nodup_nil, by simp⟩
  have hall : Always (replaceFrom k (l - k) [] : StateM σ (List Nat)) _ := always_replaceFrom hnone (by omega)
  rwa [Nat.sub_add_cancel hk, Nat.zero_add] at hall

/-! ### shuffles -/

theorem perm_swapIfInBounds (a : Array Nat) (i j : Nat) : (a.swapIfInBounds i j).toList.Perm a.toList := by
  rw [Array.swapIfInBounds_def]
  split
  · split
    · exact (Array.swap_perm _ _).toList
    · exact List.Perm.refl _
  · exact List.Perm.refl _

theorem always_shuffleFrom (n i : Nat) (a : Array Nat) :
    Always (shuffleFrom n i a : StateM σ (Array Nat)) fun b => b.toList.Perm a.toList := by
  induction n generalizing i a with
  | zero => exact .pure (List.Perm.refl _)
  | succ n ih =>
    have hdraw : Always (below32 (a.size - i) : StateM σ Nat) fun _ => True := fun _ => trivial
    refine hdraw.bind ?_
    intro j _
    refine (ih (i + 1) (a.swapIfInBounds i (i + j))).mono ?_
    intro b hb
    exact hb.trans (perm_swapIfInBounds a i (i + j))

theorem always_sampleByShuffle {k l : Nat} (hk : k ≤ l) :
    Always (sampleByShuffle k l : StateM σ (List Nat)) (IsSample (List.range l) k) := by
  refine (always_shuffleFrom k 0 (Array.range l)).bind ?_
  intro all hperm
  rw [Array.toList_range] at hperm
  exact .pure (.of_perm_take hperm List.nodup_range (by rwa [List.length_range]))

/-! ### samples -/

theorem always_sampleIndices {k l : Nat} (hk : k ≤ l) (hl : l ≤ 0x100000000) :
    Always (sampleIndices k l : StateM σ (List Nat)) (IsSample (List.range l) k) := by
  unfold sampleIndices
  split
  · exact always_sampleByShuffle hk
  · exact always_sampleByReplacement hk hl

theorem always_sample {pool : List Char} (hnodup : pool.Nodup) (hl : pool.length ≤ 0x100000000) (n : Nat) :
    Always (sample pool n : StateM σ (List Char)) (IsSample pool (min n pool.length)) := by
  refine (always_sampleIndices (Nat.min_le_right n pool.length) hl).bind ?_
  intro places hplaces
  exact .pure (hplaces.entries hnodup)

/-! ### letters -/

theorem isAlpha_of_mem_letterPool : ∀ c ∈ letterPool, c.isAlpha = true := by
  have hall : letterPool.all (·.isAlpha) = true := by decide
  exact List.all_eq_true.1 hall

theorem always_letters (n : Nat) :
    Always (letters n : StateM σ String) fun text => IsSample letterPool (min n 52) text.toList := by
  have hsample : Always (sample letterPool n : StateM σ (List Char)) (IsSample letterPool (min n 52)) :=
    always_sample (by decide) (by decide) n
  refine hsample.bind ?_
  intro drawn hdrawn
  rw [← String.toList_ofList (l := drawn)] at hdrawn
  exact .pure hdrawn

/-- So many ASCII letters, no two of them alike. -/
structure DistinctLetters (n : Nat) (text : String) : Prop where
  length : text.toList.length = n
  nodup : text.toList.Nodup
  isAlpha : ∀ c ∈ text.toList, c.isAlpha = true

theorem always_distinctLetters {n : Nat} (hn : n ≤ 52) : Always (letters n : StateM σ String) (DistinctLetters n) := by
  refine (always_letters n).mono ?_
  intro text htext
  rw [Nat.min_eq_left hn] at htext
  exact ⟨htext.length, htext.nodup, fun c hc => isAlpha_of_mem_letterPool c (htext.mem_pool c hc)⟩

/-! ### digits -/

theorem isDigit_of_mem_digitPool : ∀ c ∈ digitPool, c.isDigit = true := by
  have hall : digitPool.all (·.isDigit) = true := by decide
  exact List.all_eq_true.1 hall

theorem always_digit : Always (digit : StateM σ Char) fun c => c.isDigit = true := by
  have hdraw : Always (below32 10 : StateM σ Nat) (· < 10) := always_below32 (by decide) (by decide)
  refine hdraw.bind ?_
  intro n hn
  apply Always.pure
  rw [Nat.isDigit_digitChar, decide_eq_true hn]

theorem always_independentDigits (n : Nat) : Always (independentDigits n : StateM σ (List Char)) fun drawn =>
    drawn.length = n ∧ ∀ c ∈ drawn, c.isDigit = true := by
  induction n with
  | zero => exact .pure ⟨rfl, by simp⟩
  | succ n ih =>
    refine always_digit.bind ?_
    intro d hd
    refine ih.bind ?_
    rintro more ⟨hlength, hmore⟩
    apply Always.pure
    constructor
    · rw [List.length_cons, hlength]
    · intro c hc
      rcases List.mem_cons.1 hc with rfl | hc
      · exact hd
      · exact hmore c hc

/-- A sample in front, then one digit for each that the sample leaves open. -/
theorem always_digits (n : Nat) : Always (digits n : StateM σ String) fun text => ∃ front more,
    text.toList = front ++ more ∧ IsSample digitPool (min n 10) front ∧ more.length = n - 10 ∧
      ∀ c ∈ more, c.isDigit = true := by
  have hsample : Always (sample digitPool n : StateM σ (List Char)) (IsSample digitPool (min n 10)) :=
    always_sample (by decide) (by decide) n
  refine hsample.bind ?_
  intro front hfront
  refine (always_independentDigits (n - 10)).bind ?_
  rintro more ⟨hlength, hmore⟩
  exact .pure ⟨front, more, String.toList_ofList, hfront, hlength, hmore⟩

/-- **What a text of letters or digits holds, whatever the words are.** Letters are as many as asked for, up to all there are, and
no two are alike. Digits are as many as asked for, and the first ten are all different. -/
theorem letters_and_digits_drawn (n : Nat) (s : σ) :
    ((letters n s).1.toList.length = min n 52 ∧ (letters n s).1.toList.Nodup ∧
      (∀ c ∈ (letters n s).1.toList, c ∈ letterPool) ∧
      (52 ≤ n → (letters n s).1.toList.Perm letterPool)) ∧
    (digits n s).1.toList.length = n ∧ (∀ c ∈ (digits n s).1.toList, c.isDigit = true) ∧
      ((digits n s).1.toList.take (min n 10)).Nodup ∧
      (10 ≤ n → ((digits n s).1.toList.take 10).Perm digitPool) := by
  have hletters : IsSample letterPool (min n 52) (letters n s).1.toList := always_letters n s
  obtain ⟨front, more, htext, hfront, hmore, hdigits⟩ := always_digits n s
  have htake : (digits n s).1.toList.take (min n 10) = front := by
    rw [htext]
    exact List.take_left' hfront.length
  refine ⟨⟨hletters.length, hletters.nodup, hletters.mem_pool, ?_⟩, ?_, ?_, ?_, ?_⟩
  · intro hn
    apply hletters.perm
    rw [Nat.min_eq_right hn]
    decide
  · rw [htext, List.length_append, hfront.length, hmore]
    omega
  · intro c hc
    rw [htext] at hc
    rcases List.mem_append.1 hc with hc | hc
    · exact isDigit_of_mem_digitPool c (hfront.mem_pool c hc)
    · exact hdigits c hc
  · rw [htake]
    exact hfront.nodup
  · intro hn
    rw [Nat.min_eq_right hn] at htake hfront
    rw [htake]
    apply hfront.perm
    decide

end RowLoader.Random

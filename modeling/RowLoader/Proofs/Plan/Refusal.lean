import RowLoader.Proofs.Plan.Validation
import RowLoader.Server.Session

/-!
# Why plans are refused

What is wrong with a plan, told in unbounded numbers and in an order of its own. Validation works on words, some of whose
operations are capped or checked; it reports the first thing that is wrong, and nothing if nothing is.

* `LoadPlan.faults`: all that is wrong with a plan;
* `LoadPlan.validate_eq_error_iff`: validation reports the first of them;
* `LoadPlan.validate_in_unbounded_numbers`: which plans are valid, what is said of the others, and where.
-/

namespace RowLoader

/-! ### demands -/

/-- Reports a fault unless what is demanded holds. -/
def demand (holds : Prop) [Decidable holds] (fault : Refusal) : Except Refusal Unit :=
  if holds then .ok () else .error fault

theorem demand_of_holds {holds : Prop} [Decidable holds] (h : holds) (fault : Refusal) : demand holds fault = .ok () := if_pos h

theorem demand_of_not {holds : Prop} [Decidable holds] (h : ¬ holds) (fault : Refusal) :
    demand holds fault = .error fault := if_neg h

theorem demand_eq_error_iff {holds : Prop} [Decidable holds] {fault r : Refusal} :
    demand holds fault = .error r ↔ (if holds then [] else [fault]).head? = some r := by
  by_cases h : holds
  · simp [demand, h]
  · simp [demand, h]

/-- In front of other demands, a fault comes before theirs. -/
theorem demand_bind_eq_error_iff {holds : Prop} [Decidable holds] {fault r : Refusal} {others : Except Refusal Unit}
    {faults : List Refusal} (h : others = .error r ↔ faults.head? = some r) :
    (demand holds fault >>= fun _ => others) = .error r ↔
      ((if holds then [] else [fault]) ++ faults).head? = some r := by
  by_cases hmet : holds
  · rw [demand_of_holds hmet, if_pos hmet, List.nil_append]
    exact h
  · rw [demand_of_not hmet, if_neg hmet]
    show Except.error fault = .error r ↔ some fault = some r
    rw [Except.error.injEq, Option.some.injEq]

namespace LoadPlan

/-- Not all characters of the table's name are white space. -/
def NamesTable (p : LoadPlan) : Prop := ∃ c ∈ p.table.toList, Text.isWhiteSpace c = false

instance (p : LoadPlan) : Decidable p.NamesTable := decidable_of_iff _ (Text.isBlank_eq_false_iff p.table)

/-- What is wrong with a plan, in the order in which it is reported. -/
def faults (p : LoadPlan) : List Refusal :=
  (if p.NamesTable then [] else [.blankTable]) ++
  ((if 1 ≤ p.batchSize.toNat then [] else [.zeroBatch]) ++
  ((if p.batchSize.toNat * p.profile.arity ≤ placeholderLimit then []
    else [.tooManyPlaceholders p.batchSize (placeholders p.profile p.batchSize) p.profile.arity]) ++
  ((if p.batchCount.toNat * p.batchSize.toNat < 2 ^ 64 then [] else [.tooManyRows p.batchCount p.batchSize]) ++
  (if p.lastEnd ≤ lastOffset then [] else [.keySpace ⟨p.profile, p.startOffset, p.batchCount * p.batchSize⟩]))))

variable {p : LoadPlan}

/-! ### validation, demand by demand -/

theorem checkTarget_eq : checkTarget p.profile p.table p.batchSize = (do
    demand p.NamesTable .blankTable
    demand (1 ≤ p.batchSize.toNat) .zeroBatch
    demand (p.batchSize.toNat * p.profile.arity ≤ placeholderLimit)
      (.tooManyPlaceholders p.batchSize (placeholders p.profile p.batchSize) p.profile.arity)) := by
  have hblank : Text.isBlank p.table = false ↔ p.NamesTable := Text.isBlank_eq_false_iff p.table
  have hplaceholders := placeholders_le_iff p.profile p.batchSize
  have hzero : p.batchSize = 0 ↔ ¬ 1 ≤ p.batchSize.toNat := by
    rw [← UInt64.toNat_inj]
    show p.batchSize.toNat = 0 ↔ _
    omega
  unfold checkTarget
  by_cases htable : p.NamesTable
  · rw [hblank.2 htable, if_neg Bool.false_ne_true, demand_of_holds htable]
    by_cases hsize : 1 ≤ p.batchSize.toNat
    · rw [if_neg fun h => hzero.1 h hsize, demand_of_holds hsize]
      by_cases hfew : p.batchSize.toNat * p.profile.arity ≤ placeholderLimit
      · rw [if_neg (Nat.not_lt_of_le (hplaceholders.2 hfew)), demand_of_holds hfew]
        rfl
      · rw [if_pos (Nat.lt_of_not_le fun h => hfew (hplaceholders.1 h)), demand_of_not hfew]
        rfl
    · rw [if_pos (hzero.2 hsize), demand_of_not hsize]
      rfl
  · have hall : Text.isBlank p.table = true := by
      rw [← Bool.not_eq_false]
      exact fun h => htable (hblank.1 h)
    rw [hall, if_pos rfl, demand_of_not htable]
    rfl

/-- Where the number of rows is a word, it is checked for what it is. -/
theorem checkSpan_of_rows (h : p.batchCount.toNat * p.batchSize.toNat < 2 ^ 64) :
    (p.profile.checkSpan p.startOffset (p.batchCount * p.batchSize)).mapError Refusal.keySpace =
      demand (p.lastEnd ≤ lastOffset) (.keySpace ⟨p.profile, p.startOffset, p.batchCount * p.batchSize⟩) := by
  unfold Profile.checkSpan lastEnd demand
  rw [toNat_mul_of_lt h]
  split <;> rfl

theorem validate_eq : p.validate = (do
    demand p.NamesTable .blankTable
    demand (1 ≤ p.batchSize.toNat) .zeroBatch
    demand (p.batchSize.toNat * p.profile.arity ≤ placeholderLimit)
      (.tooManyPlaceholders p.batchSize (placeholders p.profile p.batchSize) p.profile.arity)
    demand (p.batchCount.toNat * p.batchSize.toNat < 2 ^ 64) (.tooManyRows p.batchCount p.batchSize)
    demand (p.lastEnd ≤ lastOffset) (.keySpace ⟨p.profile, p.startOffset, p.batchCount * p.batchSize⟩)) := by
  unfold validate
  rw [checkTarget_eq, bind_assoc]
  refine bind_congr fun _ => ?_
  rw [bind_assoc]
  refine bind_congr fun _ => bind_congr fun _ => ?_
  by_cases hrows : p.batchCount.toNat * p.batchSize.toNat < 2 ^ 64
  · rw [if_neg (by omega), demand_of_holds hrows, checkSpan_of_rows hrows]
    rfl
  · rw [if_pos (by omega), demand_of_not hrows]
    rfl

/-! ### what is reported -/

/-- Validation reports the first thing that is wrong. -/
theorem validate_eq_error_iff {r : Refusal} : p.validate = .error r ↔ p.faults.head? = some r := by
  rw [validate_eq]
  refine demand_bind_eq_error_iff (demand_bind_eq_error_iff (demand_bind_eq_error_iff (demand_bind_eq_error_iff ?_)))
  exact demand_eq_error_iff

/-- **Validation in unbounded numbers.** A plan is valid if its table is not blank, its batches have rows but not too many
placeholders, and the offset behind its last row lies in the key space. Of any other, the first thing that is wrong is said; it
is an error of the settings, found before anything is sent or written. The number of rows of a valid plan is not capped. -/
theorem validate_in_unbounded_numbers (p : LoadPlan) :
    (p.validate = .ok () ↔ (∃ c ∈ p.table.toList, Text.isWhiteSpace c = false) ∧ 1 ≤ p.batchSize.toNat ∧
      p.batchSize.toNat * p.profile.arity ≤ 65535 ∧
      p.startOffset.toNat + p.batchCount.toNat * p.batchSize.toNat ≤ 2 ^ 63 - 1 - 13100000001) ∧
    (∀ r, p.validate = .error r ↔ p.faults.head? = some r) ∧
    (∀ r, p.validate = .error r → (LoadError.config r).precedesWriting = true ∧
      ∀ (σ : Type) [Server σ] (server : σ) (settings : Connection.Settings),
        Server.Session.connectPlan server settings p = (.error (.config r), server, #[])) ∧
    (p.validate = .ok () → p.rows.toNat = p.batchCount.toNat * p.batchSize.toNat) := by
  refine ⟨?_, fun r => validate_eq_error_iff, fun r h => ⟨rfl, fun σ _ server settings => ?_⟩, fun h => ?_⟩
  · rw [validate_eq_ok_iff, checkTarget_eq_ok_iff, Text.isBlank_eq_false_iff, ne_eq, ← UInt64.toNat_inj]
    show (_ ∧ ¬ p.batchSize.toNat = 0 ∧ _ ≤ 65535) ∧ p.startOffset.toNat + _ ≤ 0x7FFFFFFFFFFFFFFF - 13100000001 ↔ _
    constructor
    · rintro ⟨⟨htable, hsize, hfew⟩, hend⟩
      exact ⟨htable, by omega, hfew, hend⟩
    · rintro ⟨htable, hsize, hfew, hend⟩
      exact ⟨⟨htable, by omega, hfew⟩, hend⟩
  · unfold Server.Session.connectPlan
    rw [h]
  · exact (rows_of_validate h).2

/-- The user plan is valid, and counts its rows. With a blank table and no rows in a batch, the table is reported; with more
rows than a word counts, these are, and not the key space. -/
theorem validate_in_unbounded_numbers_of_users :
    (LoadPlan.ofProfile .user).rows.toNat = 1000000 * 100 ∧
    ({ LoadPlan.ofProfile .user with table := "\t\u3000", batchSize := 0 } : LoadPlan).validate = .error .blankTable ∧
    (LoadError.config .blankTable).precedesWriting = true ∧
    ({ LoadPlan.ofProfile .user with batchCount := 0x8000000000000000, batchSize := 2 } : LoadPlan).validate =
      .error (.tooManyRows 0x8000000000000000 2) := by
  obtain ⟨hvalid, -, -, hrows⟩ := validate_in_unbounded_numbers (LoadPlan.ofProfile .user)
  obtain ⟨-, hblank, hconfig, -⟩ :=
    validate_in_unbounded_numbers { LoadPlan.ofProfile .user with table := "\t\u3000", batchSize := 0 }
  obtain ⟨-, hmany, -⟩ :=
    validate_in_unbounded_numbers { LoadPlan.ofProfile .user with batchCount := 0x8000000000000000, batchSize := 2 }
  have hfirst := (hblank .blankTable).2 (by decide +kernel)
  refine ⟨hrows (hvalid.2 ⟨⟨'u', by decide, by decide⟩, by decide, by decide, by decide⟩), hfirst, (hconfig _ hfirst).1, ?_⟩
  exact (hmany _).2 (by decide +kernel)

end LoadPlan

end RowLoader

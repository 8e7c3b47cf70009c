import RowLoader.Proofs.CommandLine.Order
import RowLoader.Proofs.Decimal.Numeral

/-!
# Plans as arguments

Every plan is read from arguments that spell out all of it. The table stands behind an equals sign, since it may be any text; names
and decimals never look like flags. No variable is asked, because every flag is given.

* `LoadPlan.arguments`: the arguments of a plan;
* `LoadPlan.readSettings_options`: the settings read from them, in any environment;
* `LoadPlan.arguments_read_back`: the plan is read back.
-/

namespace RowLoader

open CommandLine

/-! ### the arguments of a plan -/

namespace LoadPlan

/-- All of a plan, as it is written on a command line. -/
def arguments (p : LoadPlan) : List String :=
  ["--profile", p.profile.name, "--table=" ++ p.table, "--batch-size", p.batchSize.toNat.repr,
    "--batch-count", p.batchCount.toNat.repr, "--seed", p.seed.toNat.repr,
    "--start-offset", p.startOffset.toNat.repr, if p.truncate then "--truncate" else "--no-truncate"]

def clearingSwitch (p : LoadPlan) : Switch := if p.truncate then .truncate else .noTruncate

def options (p : LoadPlan) : List WrittenOption :=
  [.separate .profile p.profile.name, .attached .table p.table, .separate .batchSize p.batchSize.toNat.repr,
    .separate .batchCount p.batchCount.toNat.repr, .separate .seed p.seed.toNat.repr,
    .separate .startOffset p.startOffset.toNat.repr, .switch p.clearingSwitch]

def settings (p : LoadPlan) : Settings :=
  [.value .profile p.profile, .value .table p.table, .value .batchSize p.batchSize, .value .batchCount p.batchCount,
    .value .seed p.seed, .value .startOffset p.startOffset, .switch p.clearingSwitch]

theorem clearingSwitch_cases (p : LoadPlan) : p.clearingSwitch = .truncate ∨ p.clearingSwitch = .noTruncate := by
  unfold clearingSwitch
  split
  · exact Or.inl rfl
  · exact Or.inr rfl

theorem writtenArguments_options (p : LoadPlan) : writtenArguments p.options = p.arguments := by
  rcases p with ⟨profile, table, batchSize, batchCount, seed, startOffset, truncate⟩
  cases truncate with
  | true => rfl
  | false => rfl

theorem plan_ofSettings (p : LoadPlan) : (PlanOptions.ofSettings p.settings).plan = p := by
  rcases p with ⟨profile, table, batchSize, batchCount, seed, startOffset, truncate⟩
  cases truncate with
  | true => rfl
  | false => rfl

end LoadPlan

/-! ### values that stand alone -/

theorem Profile.isWord_name (p : Profile) : Argument.ofString p.name = .word p.name := by cases p <;> decide +kernel

theorem Decimal.isWord_repr (n : Nat) : Argument.ofString n.repr = .word n.repr := by
  obtain ⟨c, s, hrepr, hc⟩ := exists_digit_cons_repr n
  have hdash : c ≠ '-' := by
    rintro rfl
    cases hc
  unfold Argument.ofString
  rw [hrepr]
  split
  · rename_i h
    exact absurd (List.cons.inj h).1 hdash
  · rename_i h
    exact absurd (List.cons.inj h).1 hdash
  · rename_i h
    exact absurd (List.cons.inj h).1 hdash
  · rfl

theorem CommandLine.readProfile_name (p : Profile) : readProfile p.name = .ok p := by
  unfold readProfile
  rw [Profile.parse?_name]

theorem CommandLine.readWordValue_repr (n : UInt64) : readWordValue n.toNat.repr = .ok n := by
  unfold readWordValue
  rw [Decimal.readWord_repr]
  rfl

/-- Where all flags are given, no variable is looked at. -/
theorem CommandLine.addVariables_of_given {env : Environment} {flags : List ValueFlag} {given : Settings}
    (h : ∀ f ∈ flags, given.has (.value f) = true) : addVariables env flags given = .ok given := by
  induction flags with
  | nil => rfl
  | cons f rest ih =>
    obtain ⟨hf, hrest⟩ := List.forall_mem_cons.1 h
    unfold addVariables
    rw [hf]
    exact ih hrest

/-! ### reading them back -/

namespace LoadPlan

theorem means_options (p : LoadPlan) :
    List.Forall₂ (WrittenOption.Means (flagsOf planFlags switches)) p.options p.settings := by
  refine .cons ?_ (.cons ?_ (.cons ?_ (.cons ?_ (.cons ?_ (.cons ?_ (.cons ?_ .nil))))))
  · exact .separate (by decide) p.profile.isWord_name (readProfile_name _)
  · exact .attached (by decide) rfl
  · exact .separate (by decide) (Decimal.isWord_repr _) (readWordValue_repr _)
  · exact .separate (by decide) (Decimal.isWord_repr _) (readWordValue_repr _)
  · exact .separate (by decide) (Decimal.isWord_repr _) (readWordValue_repr _)
  · exact .separate (by decide) (Decimal.isWord_repr _) (readWordValue_repr _)
  · rcases p.clearingSwitch_cases with h | h
    · rw [h]
      exact .switch (by decide) (by decide)
    · rw [h]
      exact .switch (by decide) (by decide)

theorem distinct_settings (p : LoadPlan) : p.settings.Distinct := by
  simp [settings, Settings.Distinct, Setting.flag]

theorem has_settings (p : LoadPlan) : ∀ f ∈ planFlags, p.settings.has (.value f) = true := by
  simp [settings, Settings.has, Setting.flag, planFlags]

theorem length_clearing (p : LoadPlan) : (p.settings.filterMap Setting.clearing?).length ≤ 1 := by
  rcases p.clearingSwitch_cases with h | h
  · rw [settings, h]
    exact Nat.le_refl 1
  · rw [settings, h]
    exact Nat.le_refl 1

theorem readSettings_options (p : LoadPlan) (env : Environment) :
    readSettings planFlags switches env (writtenArguments p.options) = .ok p.settings := by
  have hscan := Scan.run_start_iff.2 ⟨p.means_options, p.distinct_settings⟩
  have hfill : addVariables env planFlags p.settings = .ok p.settings := addVariables_of_given p.has_settings
  have hconflict : checkConflict p.settings = .ok () := checkConflict_eq_ok_iff.2 p.length_clearing
  simp only [readSettings, hscan, hfill, hconflict, bind, Except.bind]
  rfl

/-- **Every plan is read back from its arguments.** Whatever table and numbers it has, and whatever the variables hold, the
arguments that spell it out are read, and what they amount to is the plan. -/
theorem arguments_read_back (p : LoadPlan) (env : Environment) :
    ∃ o, PlanOptions.read env p.arguments = .ok o ∧ o.plan = p := by
  refine ⟨PlanOptions.ofSettings p.settings, ?_, p.plan_ofSettings⟩
  rw [← writtenArguments_options, PlanOptions.read, readSettings_options]
  rfl

end LoadPlan

end RowLoader

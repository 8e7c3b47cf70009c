import Mathlib.Data.List.Perm.Basic
import RowLoader.Proofs.CommandLine.Scan

/-!
# The order of options

Options may stand in any order, and a value in its own argument may as well stand behind an equals sign. What is read then are the
same settings in another order, and since no flag comes twice, nothing depends on the order of settings.

* `Rewritten`: the same options, reordered and joined to their values;
* `addVariables_of_perm`, `checkConflict_of_perm`: the environment and the conflicts, for settings in another order;
* `readSettings_of_rewritten`: the settings of a command line;
* `options_in_any_order`: plan and connection.
-/

namespace RowLoader.CommandLine

/-! ### settings in another order -/

theorem Setting.valueOf?_eq_some_iff {s : Setting} {f : ValueFlag} {v : f.Value} :
    s.valueOf? f = some v ↔ s = .value f v := by
  cases s with
  | switch w => simp [valueOf?]
  | value g w =>
    by_cases hflag : g = f
    · subst hflag
      simp [valueOf?_self]
    · constructor
      · intro h
        rw [valueOf?_of_ne hflag] at h
        cases h
      · rintro ⟨⟩
        exact absurd rfl hflag

namespace Settings

variable {a b : Settings}

/-- No flag comes twice. -/
def Distinct (a : Settings) : Prop := (a.map Setting.flag).Nodup

theorem Distinct.of_perm (h : a.Perm b) (hd : a.Distinct) : b.Distinct := (h.map Setting.flag).nodup_iff.1 hd

theorem has_eq_true_iff {f : Flag} : a.has f = true ↔ f ∈ a.map Setting.flag := by simp [has]

theorem Distinct.concat (hd : a.Distinct) {setting : Setting} (hnew : a.has setting.flag = false) :
    Distinct (a ++ [setting]) := by
  have hnotMem : setting.flag ∉ a.map Setting.flag := by
    rw [← has_eq_true_iff, hnew]
    exact Bool.false_ne_true
  unfold Distinct at hd ⊢
  rw [List.map_append, List.map_singleton, List.nodup_append_comm, List.singleton_append, List.nodup_cons]
  exact ⟨hnotMem, hd⟩

theorem has_eq_of_perm (h : a.Perm b) (f : Flag) : a.has f = b.has f := by
  rw [Bool.eq_iff_iff, has_eq_true_iff, has_eq_true_iff]
  exact (h.map Setting.flag).mem_iff

theorem value?_eq_some_iff (hd : a.Distinct) {f : ValueFlag} {v : f.Value} : a.value? f = some v ↔ .value f v ∈ a := by
  constructor
  · intro h
    obtain ⟨setting, hmem, hvalue⟩ := List.exists_of_findSome?_eq_some h
    rwa [Setting.valueOf?_eq_some_iff.1 hvalue] at hmem
  · intro hmem
    cases hvalue : a.value? f with
    | none =>
      have hnone := List.findSome?_eq_none_iff.1 hvalue _ hmem
      rw [Setting.valueOf?_self] at hnone
      cases hnone
    | some w =>
      obtain ⟨setting, hmem', hsetting⟩ := List.exists_of_findSome?_eq_some hvalue
      rw [Setting.valueOf?_eq_some_iff.1 hsetting] at hmem'
      cases List.inj_on_of_nodup_map hd hmem hmem' rfl
      rfl

theorem value?_eq_of_perm (hd : a.Distinct) (h : a.Perm b) (f : ValueFlag) : a.value? f = b.value? f := by
  apply Option.ext
  intro v
  rw [value?_eq_some_iff hd, value?_eq_some_iff (hd.of_perm h), h.mem_iff]

end Settings

/-! ### the environment and conflicts -/

variable {a b given : Settings}

theorem addVariables_of_perm {env : Environment} {flags : List ValueFlag} (hd : a.Distinct) (h : a.Perm b)
    (hread : addVariables env flags a = .ok given) :
    ∃ given', addVariables env flags b = .ok given' ∧ given.Perm given' ∧ given.Distinct := by
  induction flags generalizing a b with
  | nil =>
    cases hread
    exact ⟨b, rfl, h, hd⟩
  | cons f rest ih =>
    unfold addVariables at hread ⊢
    rw [← Settings.has_eq_of_perm h]
    split at hread
    · rename_i text hnew hvariable
      cases hput : Scan.putValue a f text with
      | error e =>
        rw [hput] at hread
        cases hread
      | ok a' =>
        rw [hput] at hread
        obtain ⟨-, v, hvalue, rfl⟩ := Scan.putValue_eq_ok_iff.1 hput
        have hput' : Scan.putValue b f text = .ok (b ++ [.value f v]) :=
          Scan.putValue_eq_ok_iff.2 ⟨(Settings.has_eq_of_perm h _).symm.trans hnew, v, hvalue, rfl⟩
        rw [hput']
        have hd' : Settings.Distinct (a ++ [.value f v]) := Settings.Distinct.concat hd hnew
        exact ih hd' (h.append_right _) hread
    · exact ih hd h hread

/-- The side that a setting takes on clearing the table. -/
def Setting.clearing? : Setting → Option Switch
  | .switch .truncate => some .truncate
  | .switch .noTruncate => some .noTruncate
  | _ => none

/-- A conflict takes two settings. -/
theorem checkConflict_eq_ok_iff : checkConflict given = .ok () ↔ (given.filterMap Setting.clearing?).length ≤ 1 := by
  unfold checkConflict
  split
  · rename_i first second rest hclearing
    change given.filterMap Setting.clearing? = first :: second :: rest at hclearing
    simp [hclearing]
  · rename_i hfew
    change ∀ first second rest, given.filterMap Setting.clearing? = first :: second :: rest → False at hfew
    cases hclearing : given.filterMap Setting.clearing? with
    | nil => simp
    | cons first rest =>
      cases rest with
      | nil => simp
      | cons second rest => exact absurd hclearing (hfew first second rest)

theorem checkConflict_of_perm (h : a.Perm b) (hok : checkConflict a = .ok ()) : checkConflict b = .ok () := by
  rw [checkConflict_eq_ok_iff] at hok ⊢
  rwa [← (h.filterMap Setting.clearing?).length_eq]

/-! ### command lines -/

/-- An option with its value joined to it. -/
inductive Joined : WrittenOption → WrittenOption → Prop where
  | same (o : WrittenOption) : Joined o o
  | attached (f : ValueFlag) (text : String) : Joined (.separate f text) (.attached f text)

/-- The same options in any order, some of them joined to their values. -/
def Rewritten (written rewritten : List WrittenOption) : Prop :=
  ∃ reordered, written.Perm reordered ∧ List.Forall₂ Joined reordered rewritten

theorem Joined.means {flags : List Flag} {o o' : WrittenOption} {setting : Setting} (h : Joined o o')
    (hmeans : o.Means flags setting) : o'.Means flags setting := by
  cases h with
  | same => exact hmeans
  | attached f text =>
    cases hmeans with
    | separate known word read => exact .attached known read

theorem means_of_joined {flags : List Flag} {written rewritten : List WrittenOption} (h : List.Forall₂ Joined written rewritten)
    (hmeans : List.Forall₂ (WrittenOption.Means flags) written given) :
    List.Forall₂ (WrittenOption.Means flags) rewritten given := by
  induction h generalizing given with
  | nil => exact hmeans
  | cons hjoined _ ih =>
    cases hmeans with
    | cons hfirst hrest => exact .cons (hjoined.means hfirst) (ih hrest)

section

variable {written rewritten : List WrittenOption}

theorem run_of_rewritten {flags : List Flag} (h : Rewritten written rewritten)
    (hrun : Scan.run flags .start (writtenArguments written) = .ok given) :
    ∃ given', Scan.run flags .start (writtenArguments rewritten) = .ok given' ∧ given.Perm given' ∧ given.Distinct := by
  obtain ⟨reordered, hperm, hjoined⟩ := h
  obtain ⟨hmeans, hdistinct⟩ := Scan.run_start_iff.1 hrun
  obtain ⟨given', hmeans', hperm'⟩ := List.perm_comp_forall₂ hperm.symm hmeans
  have hdistinct' : Settings.Distinct given' := Settings.Distinct.of_perm hperm'.symm hdistinct
  exact ⟨given', Scan.run_start_iff.2 ⟨means_of_joined hjoined hmeans', hdistinct'⟩, hperm'.symm, hdistinct⟩

/-- Command lines that differ in order and spelling give the same settings in another order. -/
theorem readSettings_of_rewritten {values : List ValueFlag} {switches : List Switch} {env : Environment}
    (h : Rewritten written rewritten) (hread : readSettings values switches env (writtenArguments written) = .ok given) :
    ∃ given', readSettings values switches env (writtenArguments rewritten) = .ok given' ∧ given.Perm given' ∧
      given.Distinct := by
  obtain ⟨scanned, hscan, hread⟩ := bind_eq_ok hread
  obtain ⟨filled, hfill, hread⟩ := bind_eq_ok hread
  obtain ⟨_, hconflict, hread⟩ := bind_eq_ok hread
  cases hread
  obtain ⟨scanned', hscan', hperm, hdistinct⟩ := run_of_rewritten h hscan
  obtain ⟨given', hfill', hperm', hdistinct'⟩ := addVariables_of_perm hdistinct hperm hfill
  refine ⟨given', ?_, hperm', hdistinct'⟩
  simp only [readSettings, hscan', hfill', checkConflict_of_perm hperm' hconflict, bind, Except.bind]
  rfl

end

/-! ### what settings amount to -/

theorem PlanOptions.ofSettings_eq_of_perm (hd : a.Distinct) (h : a.Perm b) :
    PlanOptions.ofSettings a = PlanOptions.ofSettings b := by
  simp only [PlanOptions.ofSettings, Settings.value?_eq_of_perm hd h, Settings.has_eq_of_perm h]

theorem LoadOptions.ofSettings_eq_of_perm (hd : a.Distinct) (h : a.Perm b) :
    LoadOptions.ofSettings a = LoadOptions.ofSettings b := by
  simp only [LoadOptions.ofSettings, Settings.value?_eq_of_perm hd h, PlanOptions.ofSettings_eq_of_perm hd h]

/-- **Order and spelling of options do not matter.** If options are read, in whatever environment, then so are the same options
in any other order and with any of their values joined to the flag by an equals sign, and they amount to the same: the same
options of a plan, and with a connection the same settings of it. -/
theorem options_in_any_order (env : Environment) {written rewritten : List WrittenOption} (h : Rewritten written rewritten) :
    (∀ o, PlanOptions.read env (writtenArguments written) = .ok o →
      PlanOptions.read env (writtenArguments rewritten) = .ok o) ∧
    ∀ o, LoadOptions.read env (writtenArguments written) = .ok o →
      LoadOptions.read env (writtenArguments rewritten) = .ok o := by
  constructor
  · intro o hread
    obtain ⟨given, hgiven, rfl⟩ := map_eq_ok hread
    obtain ⟨given', hgiven', hperm, hdistinct⟩ := readSettings_of_rewritten h hgiven
    rw [PlanOptions.read, hgiven', PlanOptions.ofSettings_eq_of_perm hdistinct hperm]
    rfl
  · intro o hread
    obtain ⟨given, hgiven, hoptions⟩ := bind_eq_ok hread
    obtain ⟨given', hgiven', hperm, hdistinct⟩ := readSettings_of_rewritten h hgiven
    rw [LoadOptions.ofSettings_eq_of_perm hdistinct hperm] at hoptions
    rw [LoadOptions.read, hgiven']
    exact hoptions

-- the other way round is not safe: a value that looks like a flag cannot stand alone
example : PlanOptions.read [] (writtenArguments [.separate .table "-x"]) = .error (.unknownArgument "-x") := by decide +kernel

/-- The variables hold a table for a flag that is not given, and what is no profile for one that is. -/
def strayEnvironment : Environment := [("BULKLOAD_TABLE", "spare"), ("BULKLOAD_PROFILE", "none"), ("MYSQL_USER", "loader")]

/-- Options turned around and joined to their values, of a plan and of a load. -/
theorem options_in_any_order_reversed :
    PlanOptions.read strayEnvironment (writtenArguments [.attached .seed "7", .separate .profile "thing", .switch .truncate]) =
      .ok ⟨.thing, some "spare", none, none, 7, 0, true, false, false⟩ ∧
    LoadOptions.read strayEnvironment (writtenArguments [.attached .profile "user", .attached .database "example"]) =
      .ok ⟨⟨"127.0.0.1", 3306, "loader", "", "example"⟩, ⟨.user, some "spare", none, none, 42, 0, false, false, false⟩⟩ := by
  have hplan : PlanOptions.read strayEnvironment (writtenArguments
      [.switch .truncate, .separate .profile "thing", .separate .seed "7"]) =
        .ok ⟨.thing, some "spare", none, none, 7, 0, true, false, false⟩ := by decide +kernel
  have hload : LoadOptions.read strayEnvironment (writtenArguments
      [.separate .database "example", .separate .profile "user"]) =
        .ok ⟨⟨"127.0.0.1", 3306, "loader", "", "example"⟩,
          ⟨.user, some "spare", none, none, 42, 0, false, false, false⟩⟩ := by decide +kernel
  refine ⟨(options_in_any_order strayEnvironment ?_).1 _ hplan, (options_in_any_order strayEnvironment ?_).2 _ hload⟩
  · exact ⟨_, (List.reverse_perm _).symm, .cons (.attached _ _) (.cons (.same _) (.cons (.same _) .nil))⟩
  · exact ⟨_, (List.reverse_perm _).symm, .cons (.attached _ _) (.cons (.attached _ _) .nil)⟩

end RowLoader.CommandLine

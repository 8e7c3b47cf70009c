import Mathlib.Data.List.Forall2
import Mathlib.Data.List.Nodup
import RowLoader.CommandLine.Options
import RowLoader.Trap

/-!
# Scanning options

Options that are written out, each with its value, are scanned one by one. What a scan gives is said here without its state: every
option has a meaning of its own, and no flag comes twice.

* `WrittenOption`: the three ways to write an option;
* `WrittenOption.Means`: the setting that an option stands for;
* `Scan.run_option_iff`: a scan that gets through, option by option;
* `Scan.run_options_iff`: the settings at the end of a scan.
-/

namespace RowLoader.CommandLine

/-! ### names of flags -/

namespace Flag

def all : List Flag :=
  [Switch.truncate, .noTruncate, .dryRun, .help].map .switch ++
    [ValueFlag.host, .tcpPort, .user, .password, .database, .profile, .table, .batchSize, .batchCount, .seed, .startOffset,
      .count].map .value

theorem mem_all (f : Flag) : f ∈ all := by
  cases f with
  | switch s => cases s <;> decide
  | value f => cases f <;> decide

theorem nodup_names : (all.map name).Nodup := by decide +kernel

theorem name_inj {f g : Flag} (h : f.name = g.name) : f = g :=
  List.inj_on_of_nodup_map nodup_names (mem_all f) (mem_all g) h

/-- No name is empty, and none holds the sign that parts it from a value. -/
theorem name_shape (f : Flag) : f.name.toList ≠ [] ∧ '=' ∉ f.name.toList := by
  have hall : ∀ g ∈ all, g.name.toList ≠ [] ∧ '=' ∉ g.name.toList := by decide +kernel
  exact hall f (mem_all f)

theorem find?_name (flags : List Flag) (f : Flag) :
    (flags.find? fun g => g.name = f.name) = if f ∈ flags then some f else none := by
  induction flags with
  | nil => rfl
  | cons g flags ih =>
    by_cases hg : g = f
    · simp [hg]
    · have hname : g.name ≠ f.name := fun h => hg (name_inj h)
      simp [hname, ih, Ne.symm hg]

end Flag

/-! ### arguments -/

namespace Argument

theorem ofString_long {name : List Char} (hne : name ≠ []) : ofString (String.ofList ('-' :: '-' :: name)) =
    .long (String.ofList (Text.cutFirst '=' name).1) ((Text.cutFirst '=' name).2.map String.ofList) := by
  obtain ⟨c, r, rfl⟩ := List.exists_cons_of_ne_nil hne
  unfold ofString
  rw [String.toList_ofList]
  rfl

theorem ofString_flag (f : Flag) : ofString ("--" ++ f.name) = .long f.name none := by
  obtain ⟨hne, hequals⟩ := f.name_shape
  have htext : "--" ++ f.name = String.ofList ('-' :: '-' :: f.name.toList) := by
    rw [← String.toList_inj]
    simp
  rw [htext, ofString_long hne, Text.cutFirst_of_not_mem hequals, String.ofList_toList]
  rfl

theorem ofString_attached (f : Flag) (text : String) :
    ofString ("--" ++ f.name ++ "=" ++ text) = .long f.name (some text) := by
  obtain ⟨hne, hequals⟩ := f.name_shape
  have htext : "--" ++ f.name ++ "=" ++ text = String.ofList ('-' :: '-' :: (f.name.toList ++ '=' :: text.toList)) := by
    rw [← String.toList_inj]
    simp
  rw [htext, ofString_long (by simp), Text.cutFirst_append hequals, String.ofList_toList, Option.map_some,
    String.ofList_toList]

theorem eq_of_ofString_word {text word : String} (h : ofString text = .word word) : word = text := by
  unfold ofString at h
  split at h
  · cases h
  · cases h
  · cases h
  · cases h
    rfl

end Argument

/-! ### written options -/

/-- An option as it stands among the arguments. -/
inductive WrittenOption where
  | switch (s : Switch)
  /-- the value is the next argument -/
  | separate (f : ValueFlag) (text : String)
  /-- the value stands behind an equals sign -/
  | attached (f : ValueFlag) (text : String)

namespace WrittenOption

def arguments : WrittenOption → List String
  | switch s => ["--" ++ (Flag.switch s).name]
  | separate f text => ["--" ++ (Flag.value f).name, text]
  | attached f text => ["--" ++ (Flag.value f).name ++ "=" ++ text]

/-- The setting that an option stands for, among the flags that are known. A value that stands alone must not look like a flag,
and help is no setting. -/
inductive Means (flags : List Flag) : WrittenOption → Setting → Prop where
  | switch {s : Switch} (known : Flag.switch s ∈ flags) (setting : s ≠ .help) : Means flags (switch s) (.switch s)
  | separate {f : ValueFlag} {text : String} {v : f.Value} (known : Flag.value f ∈ flags)
      (word : Argument.ofString text = .word text) (read : f.read text = .ok v) :
      Means flags (separate f text) (.value f v)
  | attached {f : ValueFlag} {text : String} {v : f.Value} (known : Flag.value f ∈ flags) (read : f.read text = .ok v) :
      Means flags (attached f text) (.value f v)

end WrittenOption

def writtenArguments (options : List WrittenOption) : List String := options.flatMap WrittenOption.arguments

/-! ### one argument -/

theorem Settings.has_concat_eq_false_iff {given : Settings} {setting : Setting} {f : Flag} :
    Settings.has (given ++ [setting]) f = false ↔ given.has f = false ∧ setting.flag ≠ f := by
  rw [Settings.has_append, Bool.or_eq_false_iff]
  simp [Settings.has]

namespace Scan

variable {flags : List Flag} {s s' : Scan} {g given : Settings}

theorem putSwitch_eq_ok_iff {w : Switch} :
    putSwitch g w = .ok given ↔ g.has (.switch w) = false ∧ given = g ++ [.switch w] := by
  unfold putSwitch
  split
  · rename_i hhas
    simp [hhas]
  · rename_i hhas
    simp [hhas, eq_comm]

theorem putValue_eq_ok_iff {f : ValueFlag} {text : String} :
    putValue g f text = .ok given ↔ g.has (.value f) = false ∧ ∃ v, f.read text = .ok v ∧ given = g ++ [.value f v] := by
  unfold putValue
  split
  · rename_i hhas
    simp [hhas]
  · rename_i hhas
    cases f.read text with
    | error fault => simp
    | ok v => simp [hhas, eq_comm]

/-- Whatever a flag does, it first looks at the value before it. -/
theorem takeFlag_eq_ok_iff {f : Flag} {attached : Option String} :
    s.takeFlag f attached = .ok s' ↔ ∃ g, s.settle = .ok g ∧ takeFlag ⟨g, none⟩ f attached = .ok s' := by
  cases hsettle : s.settle with
  | error e =>
    have hfail : s.takeFlag f attached ≠ .ok s' := by
      unfold takeFlag
      split <;> simp [hsettle, bind, Except.bind]
    simp [hfail]
  | ok g =>
    have hsame : s.takeFlag f attached = takeFlag ⟨g, none⟩ f attached := by
      unfold takeFlag
      rw [hsettle]
      rfl
    simp [hsame]

theorem takeFlag_switch_iff {w : Switch} : takeFlag ⟨g, none⟩ (.switch w) none = .ok s' ↔
    w ≠ .help ∧ g.has (.switch w) = false ∧ s' = ⟨g ++ [.switch w], none⟩ := by
  by_cases hhelp : w = .help
  · subst hhelp
    simp [takeFlag, settle, bind, Except.bind]
  · have htake : takeFlag ⟨g, none⟩ (.switch w) none = (putSwitch g w).map fun given => ⟨given, none⟩ := by
      cases w with
      | help => exact absurd rfl hhelp
      | truncate | noTruncate | dryRun => rfl
    rw [htake]
    constructor
    · intro h
      obtain ⟨given, hput, rfl⟩ := map_eq_ok h
      obtain ⟨hnew, rfl⟩ := putSwitch_eq_ok_iff.1 hput
      exact ⟨hhelp, hnew, rfl⟩
    · rintro ⟨-, hnew, rfl⟩
      rw [putSwitch_eq_ok_iff.2 ⟨hnew, rfl⟩]
      rfl

theorem takeFlag_attached_iff {f : ValueFlag} {text : String} : takeFlag ⟨g, none⟩ (.value f) (some text) = .ok s' ↔
    g.has (.value f) = false ∧ ∃ v, f.read text = .ok v ∧ s' = ⟨g ++ [.value f v], none⟩ := by
  have htake : takeFlag ⟨g, none⟩ (.value f) (some text) = (putValue g f text).map fun given => ⟨given, none⟩ := rfl
  rw [htake]
  constructor
  · intro h
    obtain ⟨given, hput, rfl⟩ := map_eq_ok h
    obtain ⟨hnew, v, hread, rfl⟩ := putValue_eq_ok_iff.1 hput
    exact ⟨hnew, v, hread, rfl⟩
  · rintro ⟨hnew, v, hread, rfl⟩
    rw [putValue_eq_ok_iff.2 ⟨hnew, v, hread, rfl⟩]
    rfl

theorem run_long_iff {a name : String} {attached : Option String} {rest : List String}
    (ha : Argument.ofString a = .long name attached) :
    run flags s (a :: rest) = .ok given ↔
      ∃ f s', (flags.find? fun f => f.name = name) = some f ∧ s.takeFlag f attached = .ok s' ∧ run flags s' rest = .ok given := by
  simp only [run, ha]
  cases flags.find? fun f => f.name = name with
  | none => simp
  | some f =>
    cases htake : s.takeFlag f attached with
    | error e => simp [htake]
    | ok s' => simp [htake]

theorem run_flag_iff {f : Flag} {a : String} {attached : Option String} {rest : List String}
    (ha : Argument.ofString a = .long f.name attached) :
    run flags s (a :: rest) = .ok given ↔ f ∈ flags ∧ ∃ s', s.takeFlag f attached = .ok s' ∧ run flags s' rest = .ok given := by
  rw [run_long_iff ha, Flag.find?_name]
  by_cases hf : f ∈ flags
  · simp [hf]
  · simp [hf]

/-- Behind a flag that waits for its value, only a word goes on. -/
theorem run_waiting_iff {f : ValueFlag} {text : String} {rest : List String} :
    run flags ⟨g, some (f, none)⟩ (text :: rest) = .ok given ↔
      Argument.ofString text = .word text ∧ run flags ⟨g, some (f, some text)⟩ rest = .ok given := by
  have hsettle : settle ⟨g, some (f, none)⟩ = .error (.missingValue f) := rfl
  cases harg : Argument.ofString text with
  | separator =>
    cases rest with
    | nil => simp [run, harg, hsettle]
    | cons stray rest => simp [run, harg]
  | long name attached =>
    have hfail : ∀ f' s', takeFlag ⟨g, some (f, none)⟩ f' attached ≠ .ok s' := by
      intro f' s' htake
      obtain ⟨g', hg', -⟩ := takeFlag_eq_ok_iff.1 htake
      rw [hsettle] at hg'
      cases hg'
    simp [run_long_iff harg, hfail]
  | short letter =>
    by_cases hhelp : letter = 'h'
    · simp [run, harg, hhelp, hsettle, Except.bind]
    · simp [run, harg, hhelp]
  | word text' =>
    cases Argument.eq_of_ofString_word harg
    simp [run, harg, takeWord]

/-- A scan that waits for no value goes on as if its last value had been looked at. -/
theorem run_settled_iff (hs : ∀ f, s.pending ≠ some (f, none)) {args : List String} :
    run flags s args = .ok given ↔ ∃ g, s.settle = .ok g ∧ run flags ⟨g, none⟩ args = .ok given := by
  have hend : ∀ g, settle ⟨g, none⟩ = .ok g := fun _ => rfl
  cases args with
  | nil => simp [run, hend]
  | cons a rest =>
    cases harg : Argument.ofString a with
    | separator =>
      cases rest with
      | nil => simp [run, harg, hend]
      | cons stray rest => simp [run, harg]
    | long name attached =>
      simp only [run_long_iff harg, takeFlag_eq_ok_iff (s := s)]
      constructor
      · rintro ⟨f, s', hf, ⟨g, hg, htake⟩, hrun⟩
        exact ⟨g, hg, f, s', hf, htake, hrun⟩
      · rintro ⟨g, hg, f, s', hf, htake, hrun⟩
        exact ⟨f, s', hf, ⟨g, hg, htake⟩, hrun⟩
    | short letter =>
      by_cases hhelp : letter = 'h'
      · cases hsettle : s.settle with
        | error e => simp [run, harg, hhelp, hsettle, Except.bind]
        | ok g => simp [run, harg, hhelp, hsettle, hend, Except.bind]
      · simp [run, harg, hhelp]
    | word text =>
      have hstray : s.takeWord text = .error (.unknownArgument text) := by
        unfold takeWord
        split
        · rename_i f hpending
          exact absurd hpending (hs f)
        · rfl
      have hstray' : ∀ g, takeWord ⟨g, none⟩ text = .error (.unknownArgument text) := fun _ => rfl
      simp [run, harg, hstray, hstray']

/-! ### one option -/

/-- A scan that gets through an option has taken the setting it stands for, whose flag was not given before. -/
theorem run_option_iff {o : WrittenOption} {rest : List String} :
    run flags ⟨g, none⟩ (o.arguments ++ rest) = .ok given ↔
      ∃ setting, o.Means flags setting ∧ g.has setting.flag = false ∧ run flags ⟨g ++ [setting], none⟩ rest = .ok given := by
  cases o with
  | switch w =>
    rw [WrittenOption.arguments, List.singleton_append, run_flag_iff (Argument.ofString_flag (.switch w))]
    constructor
    · rintro ⟨hknown, s', htake, hrun⟩
      obtain ⟨hsetting, hnew, rfl⟩ := takeFlag_switch_iff.1 htake
      exact ⟨.switch w, .switch hknown hsetting, hnew, hrun⟩
    · rintro ⟨_, hmeans, hnew, hrun⟩
      cases hmeans with
      | switch hknown hsetting => exact ⟨hknown, _, takeFlag_switch_iff.2 ⟨hsetting, hnew, rfl⟩, hrun⟩
  | separate f text =>
    have hsettle : settle ⟨g, some (f, some text)⟩ = putValue g f text := rfl
    have htake : takeFlag ⟨g, none⟩ (.value f) none = .ok ⟨g, some (f, none)⟩ := rfl
    rw [WrittenOption.arguments, List.cons_append, List.singleton_append, run_flag_iff (Argument.ofString_flag (.value f))]
    simp only [htake, Except.ok.injEq, exists_eq_left', run_waiting_iff]
    rw [run_settled_iff (by simp)]
    simp only [hsettle, putValue_eq_ok_iff]
    constructor
    · rintro ⟨hknown, hword, _, ⟨hnew, v, hread, rfl⟩, hrun⟩
      exact ⟨.value f v, .separate hknown hword hread, hnew, hrun⟩
    · rintro ⟨_, hmeans, hnew, hrun⟩
      cases hmeans with
      | separate hknown hword hread => exact ⟨hknown, hword, _, ⟨hnew, _, hread, rfl⟩, hrun⟩
  | attached f text =>
    rw [WrittenOption.arguments, List.singleton_append, run_flag_iff (Argument.ofString_attached (.value f) text)]
    constructor
    · rintro ⟨hknown, s', htake, hrun⟩
      obtain ⟨hnew, v, hread, rfl⟩ := takeFlag_attached_iff.1 htake
      exact ⟨.value f v, .attached hknown hread, hnew, hrun⟩
    · rintro ⟨_, hmeans, hnew, hrun⟩
      cases hmeans with
      | attached hknown hread => exact ⟨hknown, _, takeFlag_attached_iff.2 ⟨hnew, _, hread, rfl⟩, hrun⟩

/-! ### all options -/

/-- **Options have a meaning each.** A scan gets through options if and only if each of them stands for a setting, of a flag that
was not given before and does not come twice; these settings are what it gives. -/
theorem run_options_iff {options : List WrittenOption} :
    run flags ⟨g, none⟩ (writtenArguments options) = .ok given ↔
      ∃ settings, List.Forall₂ (WrittenOption.Means flags) options settings ∧ given = g ++ settings ∧
        (settings.map Setting.flag).Nodup ∧ ∀ setting ∈ settings, g.has setting.flag = false := by
  induction options generalizing g with
  | nil =>
    constructor
    · intro h
      have hend : Except.ok g = .ok given := h
      exact ⟨[], .nil, by simpa [eq_comm] using hend, List.nodup_nil, by simp⟩
    · rintro ⟨settings, hmeans, rfl, -, -⟩
      cases hmeans
      rw [List.append_nil]
      rfl
  | cons o options ih =>
    rw [writtenArguments, List.flatMap_cons, ← writtenArguments, run_option_iff]
    constructor
    · rintro ⟨setting, hmeans, hnew, hrun⟩
      obtain ⟨settings, hall, rfl, hnodup, hothers⟩ := ih.1 hrun
      simp only [Settings.has_concat_eq_false_iff] at hothers
      refine ⟨setting :: settings, .cons hmeans hall, by simp, ?_, ?_⟩
      · rw [List.map_cons, List.nodup_cons]
        refine ⟨fun hmem => ?_, hnodup⟩
        obtain ⟨other, hother, hflag⟩ := List.mem_map.1 hmem
        exact (hothers other hother).2 hflag.symm
      · rw [List.forall_mem_cons]
        exact ⟨hnew, fun other hother => (hothers other hother).1⟩
    · rintro ⟨_, hall, rfl, hnodup, hnew⟩
      cases hall with
      | @cons _ setting _ settings hmeans hall =>
        rw [List.map_cons, List.nodup_cons] at hnodup
        obtain ⟨hfirst, hothers⟩ := List.forall_mem_cons.1 hnew
        refine ⟨setting, hmeans, hfirst, ih.2 ⟨settings, hall, by simp, hnodup.2, fun other hother => ?_⟩⟩
        rw [Settings.has_concat_eq_false_iff]
        exact ⟨hothers other hother, fun hflag => hnodup.1 (hflag ▸ List.mem_map_of_mem hother)⟩

/-- From the first argument on: each option has a meaning, and no flag comes twice. -/
theorem run_start_iff {options : List WrittenOption} :
    run flags .start (writtenArguments options) = .ok given ↔
      List.Forall₂ (WrittenOption.Means flags) options given ∧ (given.map Setting.flag).Nodup := by
  rw [start, run_options_iff]
  constructor
  · rintro ⟨settings, hall, rfl, hnodup, -⟩
    exact ⟨hall, hnodup⟩
  · rintro ⟨hall, hnodup⟩
    exact ⟨given, hall, rfl, hnodup, fun _ _ => rfl⟩

end Scan

end RowLoader.CommandLine

import RowLoader.Proofs.Generator.Chunks
import RowLoader.Proofs.Loader.Resume

/-!
# Printed records

The records that a command prints are those that a load writes from the same seed and offset, also where the last of its batches
is cut short.

* `generateRecords_of_overflow`, `exists_generated`: the command refuses a range that leaves the key space, and prints all of any
  other;
* `take_prefix_of_chunks`: the batches of the command against those of a load;
* `generated_lines_are_loaded`: line by line, the command prints the records of a load.
-/

namespace RowLoader

open CommandLine (GenerateOptions)

/-- The lines printed for some records. -/
def Profile.lines (p : Profile) (records : List Record) : List String := records.map (·.json p.columns)

/-- A load of what the command prints, in batches of the profile's size. -/
def CommandLine.GenerateOptions.loadPlan (o : GenerateOptions) (table : String) (batchCount : UInt64) (truncate : Bool) :
    LoadPlan :=
  { profile := o.profile
    table := table
    batchSize := o.profile.batchSize
    batchCount := batchCount
    seed := o.seed
    startOffset := o.startOffset
    truncate := truncate }

/-! ### what is printed -/

/-- A range that leaves the key space is refused, and nothing is printed. -/
theorem generateRecords_of_overflow {o : GenerateOptions} (h : lastOffset < o.startOffset.toNat + o.count.toNat)
    (createdAt : Timestamp) :
    generateRecords o createdAt = .ok (.error (.range ⟨o.profile, o.startOffset, o.count⟩), []) := by
  unfold generateRecords
  rw [Profile.checkSpan_eq_error h]

/-- Inside the key space the batches of the command are made, and their records printed. -/
theorem exists_generated {o : GenerateOptions} (h : o.startOffset.toNat + o.count.toNat ≤ lastOffset)
    (createdAt : Timestamp) :
    ∃ batches g', (⟨o.profile, o.seed, createdAt, o.startOffset⟩ : Generator).advanceAll
        (chunkSizes o.count o.profile.batchSize) = .ok (batches, g') ∧
      batches.flatten.length = o.count.toNat ∧
      generateRecords o createdAt = .ok (.ok (), .log (.generating o.count o.profile o.startOffset o.seed) ::
        (o.profile.lines batches.flatten).map .text) := by
  have hsum := sum_chunkSizes o.count o.profile.batchSize
  rw [← hsum] at h
  obtain ⟨batches, g', hbatches⟩ : ∃ batches g', (⟨o.profile, o.seed, createdAt, o.startOffset⟩ : Generator).advanceAll
    (chunkSizes o.count o.profile.batchSize) = .ok (batches, g') := Generator.exists_advanceAll h
  refine ⟨batches, g', hbatches, ?_, ?_⟩
  · rw [(Generator.rows_of_advanceAll hbatches).1.length, hsum]
  · rw [hsum] at h
    unfold generateRecords
    rw [Profile.checkSpan_eq_ok_iff.2 h]
    simp only [hbatches, bind, Except.bind]
    rw [Profile.lines, List.map_map]
    rfl

/-! ### what is loaded -/

theorem batchSize_ne_zero (p : Profile) : p.batchSize ≠ 0 := by cases p <;> decide

/-- The records of whole batches begin with those of the command, as far as both go. -/
theorem take_prefix_of_chunks {g g' : Generator} {count size : UInt64} (hsize : size ≠ 0) {batches : List (List Record)}
    (hbatches : g.advanceAll (chunkSizes count size) = .ok (batches, g')) {n : Nat} {records : Nat → List Record}
    (hrecords : ∀ i < n, g.batchAt (UInt64.ofNat (g.offset.toNat + i * size.toNat)) size = .ok (records i)) :
    ((List.range n).flatMap records).take count.toNat <+: batches.flatten := by
  have hlength : batches.flatten.length = count.toNat := by
    rw [(Generator.rows_of_advanceAll hbatches).1.length, sum_chunkSizes]
  have hpos : 0 < size.toNat := by
    rw [Nat.pos_iff_ne_zero]
    intro hzero
    exact hsize (UInt64.toNat_inj.1 hzero)
  have hrest : (if count % size = 0 then [] else [count % size]) = [] ∨
      ∃ last, (if count % size = 0 then [] else [count % size]) = [last] ∧ last.toNat ≤ size.toNat := by
    split
    · exact Or.inl rfl
    · refine Or.inr ⟨count % size, rfl, ?_⟩
      rw [UInt64.toNat_mod]
      exact Nat.le_of_lt (Nat.mod_lt _ hpos)
  rcases Generator.prefix_of_chunks hrest hbatches hrecords with hprinted | hloaded
  · have hall := List.prefix_iff_eq_take.1 hprinted
    rw [hlength] at hall
    exact hall ▸ List.prefix_rfl
  · exact (List.take_prefix _ _).trans hloaded

/-- **A command prints what a load writes.** The command refuses a range that leaves the key space without a line. Of any other it
prints as many lines as it is asked for. For a load with the same profile, seed and offset in batches of the profile's size, over
any sink, these are the lines of the records that its statements carry, in order, as far as they go; and they go far enough if
the plan is valid and large enough and the sink accepts its statements. -/
theorem generated_lines_are_loaded (o : GenerateOptions) (createdAt : Timestamp) :
    (lastOffset < o.startOffset.toNat + o.count.toNat →
      generateRecords o createdAt = .ok (.error (.range ⟨o.profile, o.startOffset, o.count⟩), [])) ∧
    (o.startOffset.toNat + o.count.toNat ≤ lastOffset → ∃ lines : List String,
      generateRecords o createdAt =
        .ok (.ok (), .log (.generating o.count o.profile o.startOffset o.seed) :: lines.map .text) ∧
      lines.length = o.count.toNat ∧
      ∀ (σ : Type) [Sink σ] (sink : σ) (table : String) (batchCount : UInt64) (truncate : Bool) (elapsed : Duration),
        ∃ (statements : List Sql.Statement) (records : Nat → List Record),
          (Loader.ofPlan (o.loadPlan table batchCount truncate) createdAt sink).runCalls elapsed batchCount =
            .ok (statements.map .write) ∧
          (∀ i (hi : i < statements.length),
            (Loader.ofPlan (o.loadPlan table batchCount truncate) createdAt sink).batchRecords i = .ok (records i) ∧
            Sql.Statement.ofRecords o.profile.verb table o.profile.columns (records i) = .ok statements[i]) ∧
          o.profile.lines (((List.range statements.length).flatMap records).take o.count.toNat) <+: lines ∧
          ((o.loadPlan table batchCount truncate).validate = .ok () →
            o.count.toNat ≤ batchCount.toNat * o.profile.batchSize.toNat → Sink.Accepts sink statements →
            lines = o.profile.lines (((List.range statements.length).flatMap records).take o.count.toNat))) := by
  refine ⟨fun hover => generateRecords_of_overflow hover createdAt, fun hfits => ?_⟩
  obtain ⟨batches, g', hbatches, hlength, hprinted⟩ := exists_generated hfits createdAt
  refine ⟨o.profile.lines batches.flatten, hprinted, ?_, fun σ _ sink table batchCount truncate elapsed => ?_⟩
  · rw [Profile.lines, List.length_map, hlength]
  obtain ⟨statements, outcome, -, hcourse, hcalls⟩ :=
    Loader.exists_runCalls (Loader.ofPlan (o.loadPlan table batchCount truncate) createdAt sink) elapsed batchCount
  obtain ⟨records, hrecords, hoffsets⟩ := (hcourse.handedOver hcourse.batchStart_lt).exists_records
  have hbegins : ((List.range statements.length).flatMap records).take o.count.toNat <+: batches.flatten :=
    take_prefix_of_chunks (batchSize_ne_zero o.profile) hbatches fun i hi => (hrecords i hi).1
  refine ⟨statements, records, hcalls, hrecords, hbegins.map _, fun hvalid hcount haccepts => ?_⟩
  obtain ⟨target, hend⟩ := LoadPlan.validate_eq_ok_iff.1 hvalid
  -- all batches of the plan are carried, so no record of the command is missing
  have hok := hcourse.answer_of_accepts target hend haccepts
  rw [hok] at hcourse
  have hall := hcourse.complete_of_ok.2.2.1
  have hcarried := congrArg List.length hoffsets
  rw [List.length_map, List.length_range'] at hcarried
  have hsame : (((List.range statements.length).flatMap records).take o.count.toNat).length = batches.flatten.length := by
    rw [List.length_take, hcarried, hall, hlength]
    exact Nat.min_eq_left hcount
  rw [hbegins.eq_of_length hsame]

/-- 150 users, against a load of two batches of 100: the second batch of the command is half of the load's. -/
theorem generated_lines_are_loaded_of_users : ∃ (lines : List String) (statements : List Sql.Statement)
    (records : Nat → List Record),
    generateRecords ⟨.user, 150, 42, 41⟩ .epoch = .ok (.ok (), .log (.generating 150 .user 41 42) :: lines.map .text) ∧
    lines.length = 150 ∧
    (Loader.ofPlan (GenerateOptions.loadPlan ⟨.user, 150, 42, 41⟩ "user" 2 false) .epoch ({} : CountingSink)).runCalls .zero 2 =
      .ok (statements.map .write) ∧
    lines = Profile.user.lines (((List.range statements.length).flatMap records).take 150) := by
  obtain ⟨-, hfits⟩ := generated_lines_are_loaded ⟨.user, 150, 42, 41⟩ .epoch
  obtain ⟨lines, hprinted, hlength, hloads⟩ := hfits (by decide)
  obtain ⟨statements, records, hcalls, -, -, hlines⟩ := hloads CountingSink {} "user" 2 false .zero
  have hvalid : (GenerateOptions.loadPlan ⟨.user, 150, 42, 41⟩ "user" 2 false).validate = .ok () := by decide +kernel
  exact ⟨lines, statements, records, hprinted, hlength, hcalls,
    hlines hvalid (by decide) (CountingSink.accepts_of_no_failing rfl)⟩

end RowLoader

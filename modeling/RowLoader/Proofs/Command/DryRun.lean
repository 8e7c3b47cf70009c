import RowLoader.Command.Populate
import RowLoader.Proofs.Generator.Chunks
import RowLoader.Proofs.Server.Executed
import RowLoader.Server.Scripted

/-!
# Dry runs

A dry run says what a load would do, and asks nothing of the server. The record that it shows is made even for a plan without
batches. There is one, as validation lets no range, empty or not, end behind the last offset.

* `LoadPlan.exists_firstRecord`: the record that the dry run of a valid plan shows;
* `LoadPlan.exists_firstStatement`: it is the first one of the plan's first statement;
* `exists_connectAndLoad`: a load sends the statements of its plan in order;
* `dryRun_tells_of_load`: a dry run over any server, against the load.
-/

namespace RowLoader

open CommandLine Server

/-- The same options without the dry run. -/
def CommandLine.LoadOptions.inEarnest (o : LoadOptions) : LoadOptions := { o with plan := { o.plan with dryRun := false } }

namespace LoadPlan

/-- The records from an offset on, as each load of the plan makes them. -/
def recordsAt (plan : LoadPlan) (createdAt : Timestamp) (start size : UInt64) : Except Trap (List Record) :=
  (⟨plan.profile, plan.seed, createdAt, plan.startOffset⟩ : Generator).batchAt start size

/-- What a dry run reports. -/
def preview (plan : LoadPlan) (address : String) (first : Record) : Log :=
  #[.wouldLoad plan, .wouldConnect address, .wouldTruncate plan.truncate, .wouldStart first]

variable {plan : LoadPlan}

/-! ### the first record -/

theorem startOffset_le_of_validate (h : plan.validate = .ok ()) : plan.startOffset.toNat ≤ lastOffset := by
  have hend := (validate_eq_ok_iff.1 h).2
  unfold lastEnd at hend
  omega

/-- At the start of a valid plan there is a record, even of an empty one. -/
theorem exists_firstRecord (h : plan.validate = .ok ()) (createdAt : Timestamp) :
    ∃ first, plan.recordsAt createdAt plan.startOffset 1 = .ok [first] := by
  have hstart := startOffset_le_of_validate h
  have hone : (1 : UInt64).toNat = 1 := rfl
  obtain ⟨records, hrecords⟩ : ∃ records, plan.recordsAt createdAt plan.startOffset 1 = .ok records :=
    Generator.batchAt_ok_iff.2 fun i hi => Profile.not_overflows_of_le (by omega)
  obtain ⟨first, rfl⟩ := List.length_eq_one_iff.1 (Generator.length_of_batchAt hrecords)
  exact ⟨first, hrecords⟩

theorem statementAt_zero (plan : LoadPlan) (createdAt : Timestamp) : plan.statementAt createdAt 0 =
    plan.recordsAt createdAt plan.startOffset plan.batchSize >>=
      Sql.Statement.ofRecords plan.profile.verb plan.table plan.profile.columns := by
  have hstart : UInt64.ofNat ((Loader.ofPlan plan createdAt ()).batchStart 0) = plan.startOffset := by
    rw [Loader.batchStart_zero]
    exact UInt64.ofNat_toNat
  unfold statementAt Loader.batchStatement Loader.batchRecords
  rw [hstart]
  rfl

/-- The first statement of a valid plan begins with the record at its start. -/
theorem exists_firstStatement (h : plan.validate = .ok ()) (hpos : 1 ≤ plan.batchCount.toNat) {createdAt : Timestamp}
    {first : Record} (hfirst : plan.recordsAt createdAt plan.startOffset 1 = .ok [first]) :
    ∃ rest statement, plan.recordsAt createdAt plan.startOffset plan.batchSize = .ok (first :: rest) ∧
      Sql.Statement.ofRecords plan.profile.verb plan.table plan.profile.columns (first :: rest) = .ok statement ∧
      plan.statementAt createdAt 0 = .ok statement := by
  obtain ⟨target, hend⟩ := validate_eq_ok_iff.1 h
  have hsize : 0 < plan.batchSize.toNat := Loader.batchSize_pos (l := Loader.ofPlan plan createdAt ()) target
  have hspan : plan.profile.checkSpan plan.startOffset plan.batchSize = .ok () := by
    have hle : plan.batchSize.toNat ≤ plan.batchCount.toNat * plan.batchSize.toNat := Nat.le_mul_of_pos_left _ hpos
    unfold lastEnd at hend
    exact Profile.checkSpan_eq_ok_iff.2 (by omega)
  obtain ⟨records, hrecords⟩ : ∃ records, plan.recordsAt createdAt plan.startOffset plan.batchSize = .ok records :=
    Generator.exists_batchAt hspan
  have hstatement := (Generator.rows_of_batchAt hrecords).ofRecords plan.profile.verb plan.table
  -- the batch of one record is the beginning of the batch
  have htake : plan.recordsAt createdAt plan.startOffset 1 = .ok (records.take 1) := Generator.batchAt_of_le hsize hrecords
  cases records with
  | nil => cases hfirst.symm.trans htake
  | cons r rest =>
    cases hfirst.symm.trans htake
    refine ⟨rest, _, hrecords, hstatement, ?_⟩
    rw [statementAt_zero, hrecords]
    exact hstatement

end LoadPlan

/-! ### dry runs -/

theorem dryRun_of_recordsAt {plan : LoadPlan} {now : Timestamp} {first : Record}
    (h : plan.recordsAt now plan.startOffset 1 = .ok [first]) (address : String) :
    dryRun plan address now = .ok (plan.preview address first) := by
  have hsample : (⟨plan.profile, plan.seed, now, 0⟩ : Generator).batchAt plan.startOffset 1 = .ok [first] := h
  unfold dryRun
  rw [hsample]
  rfl

section

variable {σ : Type} [Server σ] {o : LoadOptions} {moment : Moment}

theorem populate_of_refused {r : Refusal} (h : o.plan.plan.validate = .error r) (server : σ) :
    populate o moment server = .ok ⟨.error (.invalidPlan r), [], server⟩ := by
  simp only [populate, h]

theorem populate_of_dryRun (hvalid : o.plan.plan.validate = .ok ()) (hdry : o.plan.dryRun = true) {first : Record}
    (hfirst : o.plan.plan.recordsAt moment.now o.plan.plan.startOffset 1 = .ok [first]) (server : σ) :
    populate o moment server = .ok ⟨.ok (), logLines (o.plan.plan.preview o.connection.address first), server⟩ := by
  simp only [populate, hvalid, hdry, if_true, dryRun_of_recordsAt hfirst]
  rfl

theorem connecting_notMem_preview (plan : LoadPlan) (address address' : String) (first : Record) :
    .log (.connecting address') ∉ logLines (plan.preview address first) := by
  simp [logLines, LoadPlan.preview]

/-! ### loads -/

/-- A load that connects sends the statements of its plan in order, all of them if it gets through, and one that does not connect
sends none. -/
theorem exists_connectAndLoad (settings : Connection.Settings) (plan : LoadPlan) (moment : Moment) (d : Dialogue σ) :
    ∃ finished sent, connectAndLoad settings plan moment d = .ok finished ∧
      executedIn finished.server.exchanges = executedIn d.exchanges ++ sent ∧
      (∀ i (hi : i < sent.length), plan.statementAt moment.now i = .ok sent[i]) ∧
      (finished.answer = .ok () → sent.length = plan.batchCount.toNat) := by
  have hconnected := Session.executed_establish d settings.access settings.address
  have hconnect : Session.connect d settings = Session.establish d settings.access settings.address := rfl
  unfold connectAndLoad
  rw [hconnect]
  generalize Session.establish d settings.access settings.address = connected at hconnected ⊢
  obtain ⟨answer, d', log⟩ := connected
  cases answer with
  | error e =>
    refine ⟨_, [], rfl, hconnected.1.trans (List.append_nil _).symm, by simp, ?_⟩
    intro hok
    cases hok
  | ok session =>
    obtain ⟨loaded, sent, hload, hsent, hstatements, hall⟩ :=
      Loader.exists_load_executed plan moment.now session moment.elapsed
    rw [hconnected.2 session rfl] at hsent
    simp only [hload]
    obtain ⟨answer, l', log'⟩ := loaded
    cases answer with
    | error e =>
      refine ⟨_, sent, rfl, hsent, hstatements, ?_⟩
      intro hok
      cases hok
    | ok m => exact ⟨_, sent, rfl, hsent, hstatements, fun _ => hall m rfl⟩

/-- What a command answers, with the server seen through a map. -/
def Finished.mapServer {τ : Type} (f : σ → τ) (finished : Finished σ) : Finished τ :=
  ⟨finished.answer, finished.lines, f finished.server⟩

/-- Servers that answer alike are loaded alike. -/
theorem connectAndLoad_mapServer {τ : Type} [Server τ] {f : σ → τ} (hf : Carries f) (settings : Connection.Settings)
    (plan : LoadPlan) (moment : Moment) (server : σ) :
    connectAndLoad settings plan moment (f server) =
      (connectAndLoad settings plan moment server).map (Finished.mapServer f) := by
  have hconnect := Session.establish_mapServer hf server settings.access settings.address
  unfold connectAndLoad Session.connect
  rw [hconnect]
  obtain ⟨answer, server', log⟩ := Session.establish server settings.access settings.address
  cases answer with
  | error e => rfl
  | ok session =>
    have hload := Loader.loadThenClose_mapSink (Session.carries_mapServer hf) plan moment.elapsed
      (Loader.ofPlan plan moment.now session)
    have hload : (Loader.ofPlan plan moment.now (Session.mapServer f session)).loadThenClose plan moment.elapsed = _ := hload
    simp only [Prod.map, Except.map, id, hload]
    cases (Loader.ofPlan plan moment.now session).loadThenClose plan moment.elapsed with
    | error t => rfl
    | ok loaded =>
      obtain ⟨answer, l', log'⟩ := loaded
      cases answer with
      | error e => rfl
      | ok m => rfl

theorem populate_inEarnest (hvalid : o.plan.plan.validate = .ok ()) (server : σ) :
    populate o.inEarnest moment server = connectAndLoad o.connection o.plan.plan moment server := by
  have hsame : o.inEarnest.plan.plan = o.plan.plan := rfl
  simp only [populate, hsame, hvalid]
  rfl

/-- A load of a plan with batches sends its first statement first, or fails before it sends any. Overhearing it does not change
it. -/
theorem exists_load_of_firstStatement (hvalid : o.plan.plan.validate = .ok ()) (hpos : 1 ≤ o.plan.plan.batchCount.toNat)
    {statement : Sql.Statement} (hfirst : o.plan.plan.statementAt moment.now 0 = .ok statement) (server : σ) :
    ∃ finished, populate o.inEarnest moment (⟨server, []⟩ : Dialogue σ) = .ok finished ∧
      populate o.inEarnest moment server = .ok (finished.mapServer Dialogue.server) ∧
      ((executedIn finished.server.exchanges = [] ∧ ∃ e, finished.answer = .error e) ∨
        ∃ more, executedIn finished.server.exchanges = statement :: more) := by
  obtain ⟨finished, sent, hload, hsent, hstatements, hall⟩ :=
    exists_connectAndLoad o.connection o.plan.plan moment (⟨server, []⟩ : Dialogue σ)
  have hplain := connectAndLoad_mapServer carries_dialogue o.connection o.plan.plan moment (⟨server, []⟩ : Dialogue σ)
  rw [hload] at hplain
  refine ⟨finished, (populate_inEarnest hvalid _).trans hload, (populate_inEarnest hvalid server).trans hplain, ?_⟩
  cases sent with
  | nil =>
    refine Or.inl ⟨hsent, ?_⟩
    cases hanswer : finished.answer with
    | error e => exact ⟨e, rfl⟩
    | ok =>
      have hnone : 0 = o.plan.plan.batchCount.toNat := hall hanswer
      omega
  | cons s more =>
    have hs : o.plan.plan.statementAt moment.now 0 = .ok s := hstatements 0 (Nat.succ_pos _)
    cases hfirst.symm.trans hs
    exact Or.inr ⟨more, hsent⟩

end

/-- **A dry run is safe, and tells of the load.** Over any server a dry run ends without a trap and leaves the server as it was,
also one that keeps its exchanges, and does not say that it connects. It succeeds exactly for a valid plan. A batch is the
beginning of every longer one from its offset that is made. A valid plan's dry run shows the record at its start, also where the
plan has no batches. Where it has some, that record is the first one of a statement, and the load at the same moment, over any
server, sends that statement before any other, unless it fails before it sends one. -/
theorem dryRun_tells_of_load {o : LoadOptions} (hdry : o.plan.dryRun = true) (moment : Moment) :
    (∃ answer lines, (∀ (σ : Type) [Server σ] (server : σ), populate o moment server = .ok ⟨answer, lines, server⟩) ∧
      (∀ address, .log (.connecting address) ∉ lines) ∧ (answer = .ok () ↔ o.plan.plan.validate = .ok ())) ∧
    (∀ (g : Generator) (start size size' : UInt64) (records : List Record), size.toNat ≤ size'.toNat →
      g.batchAt start size' = .ok records → g.batchAt start size = .ok (records.take size.toNat)) ∧
    (o.plan.plan.validate = .ok () → ∃ first,
      o.plan.plan.recordsAt moment.now o.plan.plan.startOffset 1 = .ok [first] ∧
      (∀ (σ : Type) [Server σ] (server : σ), populate o moment server =
        .ok ⟨.ok (), logLines (o.plan.plan.preview o.connection.address first), server⟩) ∧
      (1 ≤ o.plan.plan.batchCount.toNat → ∃ rest statement,
        o.plan.plan.recordsAt moment.now o.plan.plan.startOffset o.plan.plan.batchSize = .ok (first :: rest) ∧
        Sql.Statement.ofRecords o.plan.plan.profile.verb o.plan.plan.table o.plan.plan.profile.columns (first :: rest) =
          .ok statement ∧
        ∀ (σ : Type) [Server σ] (server : σ),
          ∃ finished, populate o.inEarnest moment (⟨server, []⟩ : Dialogue σ) = .ok finished ∧
            populate o.inEarnest moment server = .ok (finished.mapServer Dialogue.server) ∧
            ((executedIn finished.server.exchanges = [] ∧ ∃ e, finished.answer = .error e) ∨
              ∃ more, executedIn finished.server.exchanges = statement :: more))) := by
  refine ⟨?_, fun g start size size' records => Generator.batchAt_of_le, fun hvalid => ?_⟩
  · cases hvalid : o.plan.plan.validate with
    | error r =>
      refine ⟨_, _, fun σ _ server => populate_of_refused hvalid server, by simp, ?_⟩
      constructor <;> rintro ⟨⟩
    | ok =>
      obtain ⟨first, hfirst⟩ := LoadPlan.exists_firstRecord hvalid moment.now
      exact ⟨_, _, fun σ _ server => populate_of_dryRun hvalid hdry hfirst server,
        fun address => connecting_notMem_preview _ _ address first, fun _ => rfl, fun _ => rfl⟩
  · obtain ⟨first, hfirst⟩ := LoadPlan.exists_firstRecord hvalid moment.now
    refine ⟨first, hfirst, fun σ _ server => populate_of_dryRun hvalid hdry hfirst server, fun hpos => ?_⟩
    obtain ⟨rest, statement, hrecords, hstatement, hzero⟩ := LoadPlan.exists_firstStatement hvalid hpos hfirst
    exact ⟨rest, statement, hrecords, hstatement, fun σ _ server => exists_load_of_firstStatement hvalid hpos hzero server⟩

/-- A dry run over batches of two users. -/
def pairsOfUsers (batchCount startOffset : UInt64) : LoadOptions :=
  { connection :=
      { host := "127.0.0.1", tcpPort := 3306, user := "root", password := "", database := "example" }
    plan :=
      { profile := .user
        table := none
        batchSize := some 2
        batchCount := some batchCount
        seed := 42
        startOffset := startOffset
        truncate := false
        noTruncate := false
        dryRun := true } }

/-- A plan without batches right behind the last pair, and the plan of the last pair, which a server takes. -/
theorem dryRun_tells_of_load_of_last_pair :
    (∃ first, populate (pairsOfUsers 0 9223372023754775806) ⟨.epoch, .zero⟩ ({} : Scripted) = .ok ⟨.ok (),
      logLines ((pairsOfUsers 0 9223372023754775806).plan.plan.preview "root@127.0.0.1:3306/example" first), {}⟩) ∧
    ∃ first rest statement finished,
      Sql.Statement.ofRecords .replace "user" Profile.user.columns (first :: rest) = .ok statement ∧
      populate (pairsOfUsers 1 9223372023754775804) ⟨.epoch, .zero⟩ ({} : Scripted) = .ok ⟨.ok (),
        logLines ((pairsOfUsers 1 9223372023754775804).plan.plan.preview "root@127.0.0.1:3306/example" first), {}⟩ ∧
      populate (pairsOfUsers 1 9223372023754775804).inEarnest ⟨.epoch, .zero⟩ (⟨{}, []⟩ : Dialogue Scripted) =
        .ok finished ∧
      executedIn finished.server.exchanges = [statement] := by
  have hempty : (pairsOfUsers 0 9223372023754775806).plan.plan.validate = .ok () := by decide +kernel
  have hlast : (pairsOfUsers 1 9223372023754775804).plan.plan.validate = .ok () := by decide +kernel
  have hload : (populate (pairsOfUsers 1 9223372023754775804).inEarnest ⟨.epoch, .zero⟩
    (⟨{}, []⟩ : Dialogue Scripted)).map (fun finished => (executedIn finished.server.exchanges).length) = .ok 1 := by
      decide +kernel
  obtain ⟨-, -, hsafe⟩ := dryRun_tells_of_load (o := pairsOfUsers 0 9223372023754775806) rfl ⟨.epoch, .zero⟩
  obtain ⟨-, -, htrue⟩ := dryRun_tells_of_load (o := pairsOfUsers 1 9223372023754775804) rfl ⟨.epoch, .zero⟩
  obtain ⟨shown, -, hshown, -⟩ := hsafe hempty
  obtain ⟨first, -, hdry, hreal⟩ := htrue hlast
  obtain ⟨rest, statement, -, hstatement, hruns⟩ := hreal (by decide)
  obtain ⟨finished, hfinished, -, hsent⟩ := hruns Scripted {}
  rw [hfinished] at hload
  have hlength : (executedIn finished.server.exchanges).length = 1 := Except.ok.inj hload
  refine ⟨⟨shown, hshown Scripted {}⟩, first, rest, statement, finished, hstatement, hdry Scripted {}, hfinished, ?_⟩
  rcases hsent with ⟨hnone, -⟩ | ⟨more, hmore⟩
  · rw [hnone] at hlength
    cases hlength
  · rw [hmore] at hlength ⊢
    rw [List.length_eq_zero_iff.1 (Nat.succ.inj hlength)]

end RowLoader

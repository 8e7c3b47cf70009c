import RowLoader.Command.Run
import RowLoader.Proofs.Command.Generate
import RowLoader.Proofs.Record.JsonRecord
import RowLoader.Server.Scripted

/-!
# Printed records, read back

What the command prints is cut at its line breaks and read line by line.

* `Json.readLines`, `Json.readLines_linesText`: the lines of records;
* `json_lines_read_back`: the records that a run of the program prints.
-/

namespace RowLoader

open CommandLine (Command GenerateOptions)

/-! ### lines -/

def linesText (lines : List String) : String := String.join (lines.map (· ++ "\n"))

theorem toList_linesText_cons (line : String) (lines : List String) :
    (linesText (line :: lines)).toList = line.toList ++ '\n' :: (linesText lines).toList := by
  rw [linesText, List.map_cons, String.join_cons, String.toList_append, String.toList_append, List.append_assoc]
  rfl

/-- Behind the last line break stands nothing. -/
theorem pieces_linesText {lines : List String} (h : ∀ line ∈ lines, '\n' ∉ line.toList) :
    Text.pieces '\n' (linesText lines).toList = lines.map String.toList ++ [[]] := by
  induction lines with
  | nil => rfl
  | cons line lines ih =>
    obtain ⟨hline, hlines⟩ := List.forall_mem_cons.1 h
    rw [toList_linesText_cons, Text.pieces_append hline, ih hlines]
    rfl

/-- The values of a text that holds one on each line. -/
def Json.readLines (text : String) : Option (List Json) :=
  let pieces := Text.pieces '\n' text.toList
  if pieces.getLast? = some [] then pieces.dropLast.mapM fun line => Json.read (String.ofList line) else none

theorem Record.not_mem_json {c : Char} (hc : c.toNat < 32) (columns : List String) (r : Record) :
    c ∉ (r.json columns).toList := by
  intro hmem
  have hle := r.le_of_mem_json columns c hmem
  omega

theorem Json.readLines_linesText (columns : List String) (records : List Record) :
    Json.readLines (linesText (records.map (·.json columns))) = some (records.map (·.toJson columns)) := by
  have hlines : ∀ line ∈ records.map (·.json columns), '\n' ∉ line.toList := by
    intro line hline
    obtain ⟨r, -, rfl⟩ := List.mem_map.1 hline
    exact r.not_mem_json (by decide) columns
  have hread : ((fun line => Json.read (String.ofList line)) ∘ String.toList) ∘ (fun r : Record => r.json columns) =
      fun r => pure (r.toJson columns) := by
    funext r
    exact (congrArg Json.read String.ofList_toList).trans (r.read_json columns)
  rw [readLines, pieces_linesText hlines]
  simp only [List.getLast?_concat, if_true, List.dropLast_concat]
  rw [List.mapM_map, List.mapM_map, hread, List.mapM_pure]
  rfl

/-! ### commands -/

def Line.text? : Line → Option String
  | .log _ => none
  | .text s => some s

/-- What a command prints besides its log. -/
def ownLines (output : List Line) : List String := output.filterMap Line.text?

theorem ownLines_filter_isShown (rank : Nat) (output : List Line) :
    ownLines (output.filter (Line.isShown rank)) = ownLines output := by
  rw [ownLines, List.filterMap_filter]
  refine List.filterMap_congr fun line _ => ?_
  cases line with
  | log e => exact ite_self none
  | text s => rfl

theorem ownLines_text (lines : List String) : ownLines (lines.map .text) = lines := by
  rw [ownLines, List.filterMap_map]
  exact List.filterMap_some

section
variable {σ : Type} [Server σ] (server : σ) {env : CommandLine.Environment} {arguments : List String} {o : GenerateOptions}
  {moment : Moment}

theorem runCommand_generate (hread : Command.read env arguments = .ok (.generate o)) {answer : Except CommandError Unit}
    {lines : List Line} (hprinted : generateRecords o moment.now = .ok (answer, lines)) :
    runCommand env arguments moment server = .ok (.ofAnswer (CommandLine.shownRank env) answer lines, server) := by
  unfold runCommand
  simp only [hread, hprinted]
  rfl

/-- A range that leaves the key space prints no record, any other one as many as it is asked for. -/
theorem exists_printed (hread : Command.read env arguments = .ok (.generate o)) :
    ∃ (report : Report) (records : List Record), runCommand env arguments moment server = .ok (report, server) ∧
      ownLines report.output = records.map (·.json o.profile.columns) ∧
      (o.startOffset.toNat + o.count.toNat ≤ lastOffset → report.exitCode = 0 ∧ records.length = o.count.toNat) := by
  rcases Nat.lt_or_ge lastOffset (o.startOffset.toNat + o.count.toNat) with hover | hfits
  · refine ⟨_, [], runCommand_generate server hread (generateRecords_of_overflow hover moment.now), rfl, fun hfits => ?_⟩
    omega
  · obtain ⟨batches, -, -, hlength, hprinted⟩ := exists_generated hfits moment.now
    refine ⟨_, batches.flatten, runCommand_generate server hread hprinted, ?_, fun _ => ⟨rfl, hlength⟩⟩
    change ownLines (List.filter _ _) = _
    rw [ownLines_filter_isShown]
    exact ownLines_text _

end

/-- **JSON lines decode to the records.** The JSON of a record keeps to one line, and a reader that keeps the order of members and
repeated names reads it as the pairs of names and values, as far as both go. So lines of records are read as those records. What
a run of `generate` prints besides its log is read as the records that it made; inside the key space these are as many as were
asked for. -/
theorem json_lines_read_back :
    (∀ (columns : List String) (r : Record), (∀ c ∈ (r.json columns).toList, c ≠ '\n' ∧ c ≠ '\r') ∧
      Json.read (r.json columns) = some (.object ((columns.zip r.values).map fun p => (p.1, p.2.toJson)))) ∧
    (∀ (columns : List String) (records : List Record),
      Json.readLines (linesText (records.map (·.json columns))) = some (records.map (·.toJson columns))) ∧
    ∀ {σ : Type} [Server σ] (server : σ) (env : CommandLine.Environment) (arguments : List String) (o : GenerateOptions)
      (moment : Moment), Command.read env arguments = .ok (.generate o) →
      ∃ (report : Report) (records : List Record), runCommand env arguments moment server = .ok (report, server) ∧
        ownLines report.output = records.map (·.json o.profile.columns) ∧
        Json.readLines (linesText (ownLines report.output)) = some (records.map (·.toJson o.profile.columns)) ∧
        (o.startOffset.toNat + o.count.toNat ≤ lastOffset → report.exitCode = 0 ∧ records.length = o.count.toNat) := by
  refine ⟨fun columns r => ⟨fun c hc => ?_, r.read_json columns⟩, Json.readLines_linesText, ?_⟩
  · have hle := r.le_of_mem_json columns c hc
    constructor
    · rintro rfl
      exact absurd hle (by decide)
    · rintro rfl
      exact absurd hle (by decide)
  · intro σ _ server env arguments o moment hread
    obtain ⟨report, records, hrun, hlines, hlength⟩ := exists_printed server hread
    refine ⟨report, records, hrun, hlines, ?_, hlength⟩
    rw [hlines]
    exact Json.readLines_linesText _ _

/-- Three users, read back out of the lines of a run. -/
theorem json_lines_read_back_of_users :
    ∃ (report : Report) (records : List Record),
      runCommand [] ["generate", "--count", "3"] ⟨.epoch, .zero⟩ ({} : Server.Scripted) = .ok (report, {}) ∧
      Json.readLines (linesText (ownLines report.output)) = some (records.map (·.toJson Profile.user.columns)) ∧
      report.exitCode = 0 ∧ records.length = 3 := by
  have hread : Command.read [] ["generate", "--count", "3"] =
      .ok (.generate ⟨.user, 3, LoadPlan.defaultSeed, 0⟩) := by rfl
  obtain ⟨-, -, hcommand⟩ := json_lines_read_back
  obtain ⟨report, records, hrun, -, hlines, hfits⟩ := hcommand ({} : Server.Scripted) _ _ _ ⟨.epoch, .zero⟩ hread
  obtain ⟨hexit, hlength⟩ := hfits (by decide)
  exact ⟨report, records, hrun, hlines, hexit, hlength⟩

end RowLoader

import Mathlib.Data.Finmap
import RowLoader.Proofs.Generator.Batches
import RowLoader.Proofs.Sql.Grammar
import RowLoader.Sink

/-!
# A keyed table

A sink that keeps the rows of one table under their primary key, and reads the statements it is handed. An `INSERT` is
refused as a whole if one of its keys is there already or comes twice, a `REPLACE` overwrites. A refused statement leaves
the table as it is.

* `KeyedTable.overwrite`: rows put under their keys one after the other, with what is found under a key afterwards;
* `Profile.Rows.write_of_free`, `Profile.Rows.write_of_taken`: what a batch of consecutive rows does to the table.
-/

namespace RowLoader

/-- A row as a server receives it. -/
abbrev Row : Type := List Sql.Parameter

/-- Rows under their primary keys. -/
abbrev KeyedRows : Type := Finmap fun _ : Sql.Parameter => Row

structure KeyedTable where
  name : String
  columns : List String
  /-- position of the primary key among the columns -/
  keyColumn : Nat
  rows : KeyedRows

namespace KeyedTable

/-! ### overwriting -/

/-- The rows after some were put under their keys, one after the other. -/
def overwrite (rows : KeyedRows) (entries : List (Sql.Parameter × Row)) : KeyedRows :=
  entries.foldl (fun rows e => rows.insert e.1 e.2) rows

section

variable {rows : KeyedRows} {entries more : List (Sql.Parameter × Row)} {key : Sql.Parameter}

theorem overwrite_append : overwrite rows (entries ++ more) = overwrite (overwrite rows entries) more :=
  List.foldl_append

theorem overwrite_concat (e : Sql.Parameter × Row) :
    overwrite rows (entries ++ [e]) = (overwrite rows entries).insert e.1 e.2 :=
  List.foldl_concat _ _ _ _

theorem mem_overwrite : key ∈ overwrite rows entries ↔ key ∈ rows ∨ key ∈ entries.map Prod.fst := by
  induction entries using List.reverseRecOn with
  | nil => simp [overwrite]
  | append_singleton front last ih =>
    rw [overwrite_concat, Finmap.mem_insert, ih, List.map_append, List.mem_append, List.map_singleton, List.mem_singleton,
      or_comm, or_assoc]

theorem lookup_overwrite_of_notMem (h : key ∉ entries.map Prod.fst) :
    (overwrite rows entries).lookup key = rows.lookup key := by
  induction entries using List.reverseRecOn with
  | nil => rfl
  | append_singleton front last ih =>
    have hfront : key ∉ front.map Prod.fst := fun hmem => h (by simp [hmem])
    have hlast : key ≠ last.1 := fun heq => h (by simp [heq])
    rw [overwrite_concat, Finmap.lookup_insert_of_ne _ hlast, ih hfront]

theorem lookup_overwrite_of_mem (hkeys : (entries.map Prod.fst).Nodup) {row : Row} (h : (key, row) ∈ entries) :
    (overwrite rows entries).lookup key = some row := by
  induction entries using List.reverseRecOn with
  | nil => cases h
  | append_singleton front last ih =>
    rw [List.map_append, List.nodup_append] at hkeys
    obtain ⟨hnodup, -, hapart⟩ := hkeys
    rw [overwrite_concat]
    rcases List.mem_append.1 h with hfront | hlast
    · have hne : key ≠ last.1 := hapart key (List.mem_map_of_mem hfront) last.1 List.mem_cons_self
      rw [Finmap.lookup_insert_of_ne _ hne]
      exact ih hnodup hfront
    · rw [List.mem_singleton] at hlast
      subst hlast
      exact Finmap.lookup_insert _

/-- Overwriting twice with the same rows is overwriting once. -/
theorem overwrite_overwrite (hkeys : (entries.map Prod.fst).Nodup) :
    overwrite (overwrite rows entries) entries = overwrite rows entries := by
  refine Finmap.ext_lookup fun key => ?_
  by_cases h : key ∈ entries.map Prod.fst
  · obtain ⟨⟨key, row⟩, he, rfl⟩ := List.mem_map.1 h
    rw [lookup_overwrite_of_mem hkeys he, lookup_overwrite_of_mem hkeys he]
  · rw [lookup_overwrite_of_notMem h]

/-- A table that was empty has as many rows as were put into it. -/
theorem card_keys_overwrite (hkeys : (entries.map Prod.fst).Nodup) :
    (overwrite ∅ entries).keys.card = entries.length := by
  have hset : (overwrite ∅ entries).keys = (entries.map Prod.fst).toFinset := by
    ext key
    rw [Finmap.mem_keys, mem_overwrite, List.mem_toFinset]
    simp [Finmap.notMem_empty]
  rw [hset, List.toFinset_card_of_nodup hkeys, List.length_map]

end

/-! ### statements -/

/-- The rows of a statement, each under its key. -/
def entriesOf (width key : Nat) : (rows : Nat) → List Sql.Parameter → Option (List (Sql.Parameter × Row))
  | 0, _ => some []
  | rows + 1, parameters => do
    let k ← (parameters.take width)[key]?
    let rest ← entriesOf width key rows (parameters.drop width)
    return (k, parameters.take width) :: rest

/-- What a statement asks of the table, unless it is not a batch for it. -/
def entries? (t : KeyedTable) (statement : Sql.Statement) : Option (WriteVerb × List (Sql.Parameter × Row)) := do
  let head ← Sql.parseBatch statement.text.toList
  if head.table = t.name ∧ head.columns = t.columns ∧ statement.parameters.length = head.rows * t.columns.length then
    let entries ← entriesOf t.columns.length t.keyColumn head.rows statement.parameters
    return (head.verb, entries)
  else none

/-! ### the sink -/

def refuse {α : Type} (t : KeyedTable) (e : ServerError) : Reply KeyedTable α := ⟨.error (.client (.refused e)), t, #[]⟩

def unreadable : ServerError := ⟨1064, "42000", "You have an error in your SQL syntax"⟩

def duplicate : ServerError := ⟨1062, "23000", "Duplicate entry"⟩

/-- No key is in the table or comes twice. -/
def Free (rows : KeyedRows) (keys : List Sql.Parameter) : Prop := keys.Nodup ∧ ∀ key ∈ keys, key ∉ rows

instance (rows : KeyedRows) (keys : List Sql.Parameter) : Decidable (Free rows keys) :=
  inferInstanceAs (Decidable (_ ∧ _))

def store (t : KeyedTable) (entries : List (Sql.Parameter × Row)) : Reply KeyedTable UInt64 :=
  ⟨.ok (UInt64.ofNat entries.length), { t with rows := overwrite t.rows entries }, #[]⟩

instance : Sink KeyedTable where
  truncate t table := if table = t.name then ⟨.ok (), { t with rows := ∅ }, #[]⟩ else t.refuse unreadable
  write t statement :=
    match t.entries? statement with
    | none => t.refuse unreadable
    | some (.insert, entries) => if Free t.rows (entries.map Prod.fst) then t.store entries else t.refuse duplicate
    | some (.replace, entries) => t.store entries
  count t table :=
    if table = t.name then ⟨.ok (UInt64.ofNat t.rows.keys.card), t, #[]⟩ else t.refuse unreadable
  close t := ⟨.ok (), t, #[]⟩

end KeyedTable

/-! ### rows at consecutive offsets -/

namespace Profile

/-- The key at an offset of the key space, as a server receives it. -/
def keyParameter (p : Profile) (offset : Nat) : Sql.Parameter := .ofValue (p.keyAt offset)

/-- A record as a row under its key. -/
def entry (p : Profile) (r : Record) : Sql.Parameter × Row :=
  (p.keyParameter r.offset.toNat, r.values.map Sql.Parameter.ofValue)

/-- A table of the profile's shape. -/
def keyedTable (p : Profile) (name : String) (rows : KeyedRows) : KeyedTable := ⟨name, p.columns, p.keyColumn, rows⟩

/-- The key of one of `n` offsets from `start` on is among the rows. -/
def Meets (p : Profile) (rows : KeyedRows) (start n : Nat) : Prop :=
  ∃ offset, start ≤ offset ∧ offset < start + n ∧ p.keyParameter offset ∈ rows

variable {p : Profile} {start n : Nat} {records : List Record} {name : String} {rows : KeyedRows}

theorem keyParameter_inj {o o' : Nat} (ho : o ≤ lastOffset) (ho' : o' ≤ lastOffset)
    (h : p.keyParameter o = p.keyParameter o') : o = o' := by
  have hlast : lastOffset < 2 ^ 64 := by decide
  have hvalue : p.keyAt o = p.keyAt o' := by
    cases p with
    | thing => exact congrArg Value.text (Sql.Parameter.bytes.inj h)
    | user => exact congrArg Value.int (Sql.Parameter.int.inj h)
  have hnat : (UInt64.ofNat o).toNat = o := toNat_ofNat_of_lt (by omega)
  have hnat' : (UInt64.ofNat o').toNat = o' := toNat_ofNat_of_lt (by omega)
  have hkey := key_eq_keyAt (p := p) (o := UInt64.ofNat o) (by omega)
  have hkey' := key_eq_keyAt (p := p) (o := UInt64.ofNat o') (by omega)
  rw [hnat, hvalue] at hkey
  rw [hnat'] at hkey'
  rw [← hnat, ← hnat', key_inj hkey hkey']

/-- Rows that meet a key do so in one of their batches. -/
theorem meets_iff_exists_batch {batches size : Nat} (hsize : 0 < size) :
    p.Meets rows start (batches * size) ↔ ∃ i < batches, p.Meets rows (start + i * size) size := by
  constructor
  · rintro ⟨o, hge, hlt, hmem⟩
    have hdiv := Nat.div_add_mod' (o - start) size
    have hmod := Nat.mod_lt (o - start) hsize
    have hi : (o - start) / size < batches := Nat.div_lt_of_lt_mul (by rw [Nat.mul_comm]; omega)
    exact ⟨(o - start) / size, hi, o, by omega, by omega, hmem⟩
  · rintro ⟨i, hi, o, hge, hlt, hmem⟩
    have hle : (i + 1) * size ≤ batches * size := Nat.mul_le_mul_right size hi
    rw [Nat.succ_mul] at hle
    exact ⟨o, by omega, by omega, hmem⟩

theorem Rows.keys_entries (h : p.Rows start n records) :
    (records.map p.entry).map Prod.fst = (List.range' start n).map p.keyParameter := by
  rw [← h.offsets, List.map_map, List.map_map]
  rfl

theorem Rows.nodup_entries (h : p.Rows start n records) (hend : start + n ≤ lastOffset + 1) :
    ((records.map p.entry).map Prod.fst).Nodup := by
  rw [h.keys_entries]
  refine List.Nodup.map_on (fun o ho o' ho' heq => ?_) List.nodup_range'
  rw [List.mem_range'_1] at ho ho'
  exact keyParameter_inj (by omega) (by omega) heq

theorem Rows.mem_keys_iff (h : p.Rows start n records) {key : Sql.Parameter} :
    key ∈ (records.map p.entry).map Prod.fst ↔ ∃ o, start ≤ o ∧ o < start + n ∧ key = p.keyParameter o := by
  rw [h.keys_entries, List.mem_map]
  constructor
  · rintro ⟨o, ho, rfl⟩
    obtain ⟨hge, hlt⟩ := List.mem_range'_1.1 ho
    exact ⟨o, hge, hlt, rfl⟩
  · rintro ⟨o, hge, hlt, rfl⟩
    exact ⟨o, List.mem_range'_1.2 ⟨hge, hlt⟩, rfl⟩

theorem Rows.free_iff (h : p.Rows start n records) (hend : start + n ≤ lastOffset + 1) :
    KeyedTable.Free rows ((records.map p.entry).map Prod.fst) ↔ ¬ p.Meets rows start n := by
  constructor
  · rintro ⟨-, hfree⟩ ⟨o, hge, hlt, hmem⟩
    exact hfree _ (h.mem_keys_iff.2 ⟨o, hge, hlt, rfl⟩) hmem
  · intro hmeets
    refine ⟨h.nodup_entries hend, fun key hkey hmem => hmeets ?_⟩
    obtain ⟨o, hge, hlt, rfl⟩ := h.mem_keys_iff.1 hkey
    exact ⟨o, hge, hlt, hmem⟩

/-! ### the batch of these rows -/

/-- Cut at the width of a row, the parameters are the rows again, each with the key of its offset. -/
theorem entriesOf_parametersOf (hrows : ∀ r ∈ records, p.IsRow r) (hlast : ∀ r ∈ records, r.offset.toNat ≤ lastOffset) :
    KeyedTable.entriesOf p.arity p.keyColumn records.length (Sql.parametersOf records) = some (records.map p.entry) := by
  induction records with
  | nil => rfl
  | cons r rest ih =>
    have hrest := ih (fun r hr => hrows r (List.mem_cons_of_mem _ hr)) (fun r hr => hlast r (List.mem_cons_of_mem _ hr))
    obtain ⟨harity, v, hv, hget⟩ := hrows r List.mem_cons_self
    rw [key_eq_keyAt (hlast r List.mem_cons_self)] at hv
    cases hv
    have hwidth : (r.values.map Sql.Parameter.ofValue).length = p.arity := by
      rw [List.length_map]
      exact harity
    have hkey : (r.values.map Sql.Parameter.ofValue)[p.keyColumn]? = some (p.keyParameter r.offset.toNat) := by
      rw [List.getElem?_map]
      exact congrArg (Option.map Sql.Parameter.ofValue) hget
    have hsplit : Sql.parametersOf (r :: rest) = r.values.map Sql.Parameter.ofValue ++ Sql.parametersOf rest := rfl
    rw [hsplit, List.length_cons, KeyedTable.entriesOf, List.take_left' hwidth, List.drop_left' hwidth, hkey, hrest]
    rfl

/-- The statement of the rows is read back as these rows. -/
theorem Rows.entries? (h : p.Rows start n records) (hend : start + n ≤ lastOffset + 1) :
    (p.keyedTable name rows).entries? ⟨Sql.batchText p.verb name p.columns n, Sql.parametersOf records, n⟩ =
      some (p.verb, records.map p.entry) := by
  have hlast : ∀ r ∈ records, r.offset.toNat ≤ lastOffset := by
    intro r hr
    have hmem := List.mem_range'_1.1 (h.mem_range hr)
    omega
  have hentries : KeyedTable.entriesOf (p.keyedTable name rows).columns.length (p.keyedTable name rows).keyColumn n
      (Sql.parametersOf records) = some (records.map p.entry) := by
    rw [← h.length]
    exact entriesOf_parametersOf h.isRow hlast
  have hread : Sql.parseBatch (Sql.batchText p.verb name p.columns n).toList = some ⟨p.verb, name, p.columns, n⟩ :=
    Sql.parseBatch_eq_some_iff.2 rfl
  unfold KeyedTable.entries?
  simp only [bind, Option.bind, hread]
  rw [if_pos ⟨rfl, rfl, h.length_parametersOf⟩]
  simp only [hentries]
  rfl

/-- A batch is stored if it overwrites or meets no key. -/
theorem Rows.write_of_free (h : p.Rows start n records) (hend : start + n ≤ lastOffset + 1)
    (hfree : p.verb = .insert → ¬ p.Meets rows start n) :
    Sink.write (p.keyedTable name rows) ⟨Sql.batchText p.verb name p.columns n, Sql.parametersOf records, n⟩ =
      (p.keyedTable name rows).store (records.map p.entry) := by
  have hentries : (p.keyedTable name rows).entries? _ = _ := h.entries? hend
  change (match KeyedTable.entries? _ _ with | none => _ | some (.insert, _) => _ | some (.replace, _) => _) = _
  rw [hentries]
  cases hverb : p.verb with
  | insert => exact if_pos ((h.free_iff hend).2 (hfree hverb))
  | replace => rfl

/-- An insert that meets a key is refused, and the table stays as it is. -/
theorem Rows.write_of_taken (h : p.Rows start n records) (hend : start + n ≤ lastOffset + 1)
    (hverb : p.verb = .insert) (hmeets : p.Meets rows start n) :
    Sink.write (p.keyedTable name rows) ⟨Sql.batchText p.verb name p.columns n, Sql.parametersOf records, n⟩ =
      (p.keyedTable name rows).refuse KeyedTable.duplicate := by
  have hentries : (p.keyedTable name rows).entries? _ = _ := h.entries? hend
  change (match KeyedTable.entries? _ _ with | none => _ | some (.insert, _) => _ | some (.replace, _) => _) = _
  rw [hentries, hverb]
  exact if_neg fun hfree => (h.free_iff hend).1 hfree hmeets

end Profile

end RowLoader

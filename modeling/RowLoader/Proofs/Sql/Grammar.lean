import RowLoader.Proofs.Sql.Reader

/-!
# The grammar of batches

The texts of batches and nothing else are what a reader of their grammar accepts: a verb, a table, a list of columns and a list of
groups of marks, each list possibly empty. Names are arbitrary, so they may look like any part of the grammar.

* `parseBatch`: the reader, which takes every list item by item and compares the groups with the columns;
* `parseBatch_eq_some_iff`: it accepts exactly the texts of batches, and reads them as they were written;
* `openMarks`: the question marks of a text that stand in no quoted name.
-/

namespace RowLoader.Sql

variable {α : Type}

/-! ### the reader -/

/-- What the text of a batch says. -/
structure BatchHead where
  verb : WriteVerb
  table : String
  columns : List String
  rows : Nat
  deriving DecidableEq

def readVerb (text : List Char) : Option (WriteVerb × List Char) :=
  [WriteVerb.insert, WriteVerb.replace].findSome? fun verb =>
    (text.dropPrefix? (verb.keyword ++ " INTO ").toList).map fun rest => (verb, rest)

def readMark : List Char → Option (Unit × List Char)
  | [] => none
  | c :: rest => if c = '?' then some ((), rest) else none

/-- Items between parentheses, possibly none. -/
def readGroup (item : List Char → Option (α × List Char)) (text : List Char) : Option (List α × List Char) := do
  let text ← text.dropPrefix? "(".toList
  match text.dropPrefix? ")".toList with
  | some rest => some ([], rest)
  | none =>
    let (items, text) ← readSeparated item text
    let rest ← text.dropPrefix? ")".toList
    some (items, rest)

/-- Groups of marks up to the end of the text, possibly none. -/
def readRows (text : List Char) : Option (List (List Unit)) :=
  if text.isEmpty then some []
  else do
    let (rows, rest) ← readSeparated (readGroup readMark) text
    if rest.isEmpty then some rows else none

def parseBatch (text : List Char) : Option BatchHead := do
  let (verb, text) ← readVerb text
  let (table, text) ← readQuoted text
  let text ← text.dropPrefix? " ".toList
  let (columns, text) ← readGroup readQuoted text
  let text ← text.dropPrefix? " VALUES ".toList
  let rows ← readRows text
  if rows.all (·.length = columns.length) then
    some ⟨verb, String.ofList table, columns.map String.ofList, rows.length⟩
  else none

/-! ### readers and writers -/

theorem eq_append_of_dropPrefix? {text front rest : List Char} (h : text.dropPrefix? front = some rest) :
    text = front ++ rest := by
  obtain ⟨front', rfl, hfront⟩ := List.dropPrefix?_eq_some_iff.1 h
  rw [eq_of_beq hfront]

/-- A reader takes what a writer wrote, in front of anything but a backquote, and takes nothing else. -/
structure Reads (item : List Char → Option (α × List Char)) (write : α → List Char) : Prop where
  append : ∀ v rest, rest.head? ≠ some backquote → item (write v ++ rest) = some (v, rest)
  eq_append : ∀ {text v rest}, item text = some (v, rest) → text = write v ++ rest

/-! ### names and marks -/

theorem eq_append_of_readDoubled {text name rest : List Char} (h : readDoubled text = some (name, rest)) :
    text = doubled name ++ backquote :: rest := by
  induction text using readDoubled.induct generalizing name with
  | case1 => cases h
  | case2 =>
    cases h
    rfl
  | case3 c hc => simp [readDoubled, hc] at h
  | case4 r ih =>
    simp only [readDoubled, if_true, Option.map_eq_some_iff, Prod.mk.injEq, Prod.exists] at h
    obtain ⟨name', rest', hread, rfl, rfl⟩ := h
    rw [ih hread]
    rfl
  | case5 d r hd =>
    simp only [readDoubled, if_true, hd, if_false, Option.some.injEq, Prod.mk.injEq] at h
    obtain ⟨rfl, rfl⟩ := h
    rfl
  | case6 c d r hc ih =>
    simp only [readDoubled, hc, if_false, Option.map_eq_some_iff, Prod.mk.injEq, Prod.exists] at h
    obtain ⟨name', rest', hread, rfl, rfl⟩ := h
    rw [ih hread, doubled, if_neg hc]
    rfl

theorem reads_quoted : Reads readQuoted quotedChars where
  append _ _ h := readQuoted_append h
  eq_append := by
    intro text name rest h
    cases text with
    | nil => cases h
    | cons c r =>
      by_cases hc : c = backquote
      · rw [readQuoted, if_pos hc] at h
        rw [eq_append_of_readDoubled h, hc]
        simp [quotedChars]
      · rw [readQuoted, if_neg hc] at h
        cases h

theorem reads_mark : Reads readMark fun _ => ['?'] where
  append _ _ _ := rfl
  eq_append := by
    intro text v rest h
    cases text with
    | nil => cases h
    | cons c r =>
      by_cases hc : c = '?'
      · rw [readMark, if_pos hc] at h
        cases h
        rw [hc]
        rfl
      · rw [readMark, if_neg hc] at h
        cases h

/-! ### lists -/

def separatedChars (write : α → List Char) (values : List α) : List Char := separator.intercalate (values.map write)

def groupChars (write : α → List Char) (values : List α) : List Char :=
  "(".toList ++ (separatedChars write values ++ ")".toList)

namespace Reads

variable {item : List Char → Option (α × List Char)} {write : α → List Char}

theorem separated (h : Reads item write) {values : List α} (hne : values ≠ []) {rest : List Char}
    (hrest : rest.head? ≠ some backquote) (hlast : rest.dropPrefix? separator = none) :
    readSeparated item (separatedChars write values ++ rest) = some (values, rest) := by
  have hcomma : ∀ more, (separator ++ more).head? ≠ some backquote := by
    intro more
    show some ',' ≠ some backquote
    decide
  exact readSeparated_intercalate hlast hne (fun v _ more => h.append v _ (hcomma more)) fun v _ => h.append v rest hrest

theorem eq_append_of_separated (h : Reads item write) {text rest : List Char} {values : List α}
    (hread : readSeparated item text = some (values, rest)) :
    values ≠ [] ∧ text = separatedChars write values ++ rest := by
  induction text using readSeparated.induct item generalizing values with
  | case1 text hnone =>
    rw [readSeparated, hnone] at hread
    cases hread
  | case2 text v behind hitem hlast =>
    simp only [readSeparated, hitem, hlast, Option.some.injEq, Prod.mk.injEq] at hread
    obtain ⟨rfl, rfl⟩ := hread
    refine ⟨List.cons_ne_nil _ _, ?_⟩
    rw [h.eq_append hitem, separatedChars, List.map_singleton, List.intercalate_singleton]
  | case3 text v behind hitem more hmore hlt ih =>
    rw [readSeparated, hitem] at hread
    simp only [hmore, if_pos hlt, Option.map_eq_some_iff, Prod.mk.injEq, Prod.exists] at hread
    obtain ⟨values', rest', hread', rfl, rfl⟩ := hread
    obtain ⟨hne, htail⟩ := ih hread'
    refine ⟨List.cons_ne_nil _ _, ?_⟩
    obtain ⟨w, tail, rfl⟩ := List.exists_cons_of_ne_nil hne
    rw [h.eq_append hitem, eq_append_of_dropPrefix? hmore, htail]
    simp only [separatedChars, List.map_cons, List.intercalate_cons_cons, List.append_assoc]
  | case4 text v behind hitem more hmore hlt =>
    rw [readSeparated, hitem] at hread
    simp only [hmore, if_neg hlt] at hread
    cases hread

/-- Groups are read like their items, if no item looks like the end of its group. -/
theorem group (h : Reads item write) (hopen : ∀ v more, (write v ++ more).dropPrefix? ")".toList = none) :
    Reads (readGroup item) (groupChars write) where
  append values rest _ := by
    unfold readGroup groupChars
    rw [List.append_assoc, dropPrefix?_append, List.append_assoc]
    cases values with
    | nil =>
      show (match (")".toList ++ rest).dropPrefix? ")".toList with
        | some rest => _
        | none => _) = _
      rw [dropPrefix?_append]
    | cons v values =>
      have hparen : (")".toList ++ rest).head? ≠ some backquote := by
        show some ')' ≠ some backquote
        decide
      have hitems := h.separated (List.cons_ne_nil v values) hparen rfl
      have hnonempty : (separatedChars write (v :: values) ++ (")".toList ++ rest)).dropPrefix? ")".toList = none := by
        cases values with
        | nil =>
          rw [separatedChars, List.map_singleton, List.intercalate_singleton]
          exact hopen v _
        | cons w values =>
          simp only [separatedChars, List.map_cons, List.intercalate_cons_cons, List.append_assoc]
          exact hopen v _
      simp only [bind, Option.bind, hnonempty, hitems, dropPrefix?_append]
  eq_append := by
    intro text values rest hread
    simp only [readGroup, bind, Option.bind_eq_some_iff] at hread
    obtain ⟨inner, hinner, hread⟩ := hread
    rw [eq_append_of_dropPrefix? hinner]
    cases hclose : inner.dropPrefix? ")".toList with
    | some behind =>
      rw [hclose] at hread
      cases hread
      rw [eq_append_of_dropPrefix? hclose]
      rfl
    | none =>
      rw [hclose] at hread
      simp only [Option.bind_eq_some_iff, Prod.exists, Option.some.injEq, Prod.mk.injEq] at hread
      obtain ⟨items, behind, hitems, rest', hend, rfl, rfl⟩ := hread
      rw [(h.eq_append_of_separated hitems).2, eq_append_of_dropPrefix? hend]
      simp [groupChars]

end Reads

/-! ### rows -/

def markRow : List Unit → List Char := groupChars fun _ => ['?']

theorem reads_names : Reads (readGroup readQuoted) (groupChars quotedChars) := reads_quoted.group fun _ _ => rfl

theorem reads_row : Reads (readGroup readMark) markRow := reads_mark.group fun _ _ => rfl

theorem readRows_eq_some_iff {text : List Char} {rows : List (List Unit)} :
    readRows text = some rows ↔ text = separatedChars markRow rows := by
  unfold readRows
  constructor
  · intro h
    split at h
    · rename_i hempty
      cases h
      exact List.isEmpty_iff.1 hempty
    · simp only [bind, Option.bind_eq_some_iff, Prod.exists, Option.ite_none_right_eq_some, List.isEmpty_iff,
        Option.some.injEq] at h
      obtain ⟨rows', rest, hread, rfl, rfl⟩ := h
      rw [(reads_row.eq_append_of_separated hread).2, List.append_nil]
  · rintro rfl
    cases rows with
    | nil => rfl
    | cons row rows =>
      have hend : ([] : List Char).head? ≠ some backquote := by simp
      have hread := reads_row.separated (List.cons_ne_nil row rows) hend rfl
      have hnonempty : (separatedChars markRow (row :: rows)).isEmpty = false := by
        cases rows <;> rfl
      rw [List.append_nil] at hread
      simp only [hnonempty, hread, bind, Option.bind]
      rfl

/-- Rows of as many marks as there are columns are told by their number. -/
theorem eq_replicate_of_all {rows : List (List Unit)} {columns : Nat} (h : rows.all (·.length = columns)) :
    rows = List.replicate rows.length (List.replicate columns ()) := by
  rw [List.eq_replicate_iff]
  refine ⟨rfl, fun row hrow => ?_⟩
  rw [List.eq_replicate_iff]
  exact ⟨of_decide_eq_true (List.all_eq_true.1 h row hrow), fun _ _ => rfl⟩

/-! ### batches -/

theorem readVerb_append (verb : WriteVerb) (rest : List Char) :
    readVerb ((verb.keyword ++ " INTO ").toList ++ rest) = some (verb, rest) := by
  unfold readVerb
  cases verb with
  | insert => rw [List.findSome?_cons, dropPrefix?_append]; rfl
  | replace =>
    have hinsert : ((WriteVerb.replace.keyword ++ " INTO ").toList ++ rest).dropPrefix?
      (WriteVerb.insert.keyword ++ " INTO ").toList = none := rfl
    rw [List.findSome?_cons, hinsert, List.findSome?_cons, dropPrefix?_append]
    rfl

theorem eq_append_of_readVerb {text rest : List Char} {verb : WriteVerb} (h : readVerb text = some (verb, rest)) :
    text = (verb.keyword ++ " INTO ").toList ++ rest := by
  obtain ⟨verb', -, hdrop⟩ := List.exists_of_findSome?_eq_some h
  obtain ⟨rest', hdrop, heq⟩ := Option.map_eq_some_iff.1 hdrop
  cases heq
  exact eq_append_of_dropPrefix? hdrop

/-- The text of a batch, list by list. -/
theorem toList_batchText (verb : WriteVerb) (table : String) (columns : List String) (rows : Nat) :
    (batchText verb table columns rows).toList =
      (verb.keyword ++ " INTO ").toList ++ (quotedChars table.toList ++ (" ".toList ++
        (groupChars quotedChars (columns.map String.toList) ++ (" VALUES ".toList ++
          separatedChars markRow (List.replicate rows (List.replicate columns.length ())))))) := by
  have hnames : columns.map (String.toList ∘ quoteName) = (columns.map String.toList).map quotedChars := by
    rw [List.map_map]
    exact List.map_congr_left fun c _ => toList_quoteName c
  have hrow : (rowText columns.length).toList = markRow (List.replicate columns.length ()) := by
    simp [rowText, markRow, groupChars, separatedChars, parenthesized, commaSeparated, separator, String.toList_intercalate]
  simp only [batchText, commaSeparated, parenthesized, groupChars, separatedChars, String.toList_append,
    String.toList_intercalate, List.map_map, List.map_replicate, toList_quoteName, List.append_assoc, hnames, hrow, separator]

theorem map_toList_map_ofList (names : List (List Char)) : (names.map String.ofList).map String.toList = names := by
  rw [List.map_map]
  exact List.map_id'' (fun _ => String.toList_ofList) names

theorem map_ofList_map_toList (names : List String) : (names.map String.toList).map String.ofList = names := by
  rw [List.map_map]
  exact List.map_id'' (fun _ => String.ofList_toList) names

/-- The reader accepts the texts of batches, and no others. -/
theorem parseBatch_eq_some_iff {text : String} {head : BatchHead} :
    parseBatch text.toList = some head ↔ text = batchText head.verb head.table head.columns head.rows := by
  rw [← String.toList_inj, toList_batchText]
  constructor
  · intro h
    simp only [parseBatch, bind, Option.bind_eq_some_iff, Prod.exists, Option.ite_none_right_eq_some, Option.some.injEq] at h
    obtain ⟨verb, _, hverb, table, _, htable, _, hspace, columns, _, hcolumns, _, hvalues, rows, hrows, hall, rfl⟩ := h
    dsimp only
    rw [eq_append_of_readVerb hverb, reads_quoted.eq_append htable, eq_append_of_dropPrefix? hspace,
      reads_names.eq_append hcolumns, eq_append_of_dropPrefix? hvalues, readRows_eq_some_iff.1 hrows,
      eq_replicate_of_all hall, String.toList_ofList (l := table), map_toList_map_ofList, List.length_map, List.length_replicate]
  · intro h
    obtain ⟨verb, table, columns, rows⟩ := head
    have htable : ∀ rest, readQuoted (quotedChars table.toList ++ (" ".toList ++ rest)) =
        some (table.toList, " ".toList ++ rest) := by
      intro rest
      refine reads_quoted.append _ _ ?_
      show some ' ' ≠ some backquote
      decide
    have hcolumns : ∀ rest,
        readGroup readQuoted (groupChars quotedChars (columns.map String.toList) ++ (" VALUES ".toList ++ rest)) =
        some (columns.map String.toList, " VALUES ".toList ++ rest) := by
      intro rest
      refine reads_names.append _ _ ?_
      show some ' ' ≠ some backquote
      decide
    have hrows := readRows_eq_some_iff.2 (Eq.refl (separatedChars markRow
      (List.replicate rows (List.replicate columns.length ()))))
    rw [h, parseBatch, readVerb_append]
    simp only [bind, Option.bind, htable, dropPrefix?_append, hcolumns, hrows, List.length_map, List.length_replicate]
    rw [if_pos (by simp), String.ofList_toList, map_ofList_map_toList]

/-! ### marks outside names -/

/-- The question marks of a text outside quoted names, if it starts inside or outside one. A backquote written twice inside a
name ends it and starts it again at once. -/
def openMarks (quoted : Bool) : List Char → Nat
  | [] => 0
  | c :: rest =>
    if c = backquote then openMarks (!quoted) rest
    else if c = '?' ∧ quoted = false then openMarks quoted rest + 1
    else openMarks quoted rest

theorem openMarks_doubled (name rest : List Char) :
    openMarks true (doubled name ++ backquote :: rest) = openMarks false rest := by
  induction name with
  | nil => simp [doubled, openMarks]
  | cons c name ih =>
    by_cases hc : c = backquote
    · simp [doubled, openMarks, hc, ih]
    · simp [doubled, openMarks, hc, ih]

theorem openMarks_quotedChars (name rest : List Char) :
    openMarks false (quotedChars name ++ rest) = openMarks false rest := by
  rw [quotedChars, List.cons_append, List.append_assoc, openMarks, if_pos rfl]
  exact openMarks_doubled name rest

/-- The text holds `n` open marks, and every name that it begins. -/
def Holds (text : List Char) (n : Nat) : Prop := ∀ rest, openMarks false (text ++ rest) = n + openMarks false rest

namespace Holds

theorem nil : Holds [] 0 := fun _ => (Nat.zero_add _).symm

theorem append {s t : List Char} {m n : Nat} (hs : Holds s m) (ht : Holds t n) : Holds (s ++ t) (m + n) := by
  intro rest
  rw [List.append_assoc, hs, ht, Nat.add_assoc]

/-- A text without names. -/
theorem plain {s : List Char} (h : backquote ∉ s) : Holds s (s.count '?') := by
  induction s with
  | nil => exact nil
  | cons c s ih =>
    intro rest
    simp only [List.mem_cons, not_or] at h
    rw [List.cons_append, openMarks, if_neg (Ne.symm h.1), ih h.2, List.count_cons]
    by_cases hc : c = '?'
    · simp [hc]
      omega
    · simp [hc]

theorem quoted (name : List Char) : Holds (quotedChars name) 0 := by
  intro rest
  rw [Nat.zero_add, openMarks_quotedChars]

variable {write : α → List Char} {n : Nat}

theorem separated (values : List α) (h : ∀ v ∈ values, Holds (write v) n) :
    Holds (separatedChars write values) (values.length * n) := by
  have hseparator : Holds separator 0 := plain (by decide)
  unfold separatedChars
  induction values with
  | nil =>
    rw [List.length_nil, Nat.zero_mul]
    exact nil
  | cons v values ih =>
    have hfirst := h v List.mem_cons_self
    have hrest := ih fun w hw => h w (List.mem_cons_of_mem v hw)
    cases values with
    | nil =>
      rw [List.map_singleton, List.intercalate_singleton, List.length_singleton, Nat.one_mul]
      exact hfirst
    | cons w values =>
      have hall := (hfirst.append hseparator).append hrest
      rw [Nat.add_zero, Nat.add_comm, ← Nat.succ_mul] at hall
      rw [List.map_cons, List.map_cons, List.intercalate_cons_cons]
      exact hall

theorem group (values : List α) (h : ∀ v ∈ values, Holds (write v) n) :
    Holds (groupChars write values) (values.length * n) := by
  have hopen : Holds "(".toList 0 := plain (by decide)
  have hclose : Holds ")".toList 0 := plain (by decide)
  have hgroup := hopen.append ((separated values h).append hclose)
  unfold groupChars
  simpa using hgroup

end Holds

theorem holds_batchText (verb : WriteVerb) (table : String) (columns : List String) (rows : Nat) :
    Holds (batchText verb table columns rows).toList (rows * columns.length) := by
  have hverb : Holds (verb.keyword ++ " INTO ").toList 0 := by
    cases verb <;> exact Holds.plain (by decide)
  have hspace : Holds " ".toList 0 := Holds.plain (by decide)
  have hvalues : Holds " VALUES ".toList 0 := Holds.plain (by decide)
  have hcolumns : Holds (groupChars quotedChars (columns.map String.toList)) 0 := by
    have hgroup := Holds.group (columns.map String.toList) fun name _ => Holds.quoted name
    rwa [Nat.mul_zero] at hgroup
  have hrow : Holds (markRow (List.replicate columns.length ())) columns.length := by
    have hmark : Holds ['?'] 1 := Holds.plain (by decide)
    have hgroup : Holds (markRow (List.replicate columns.length ())) ((List.replicate columns.length ()).length * 1) :=
      Holds.group _ fun _ _ => hmark
    rwa [Nat.mul_one, List.length_replicate] at hgroup
  have hrows : Holds (separatedChars markRow (List.replicate rows (List.replicate columns.length ())))
      (rows * columns.length) := by
    have hmem : ∀ row ∈ List.replicate rows (List.replicate columns.length ()), Holds (markRow row) columns.length := by
      intro row hmem
      rw [List.eq_of_mem_replicate hmem]
      exact hrow
    have hall := Holds.separated _ hmem
    rwa [List.length_replicate] at hall
  have hall := hverb.append ((Holds.quoted table.toList).append (hspace.append (hcolumns.append (hvalues.append hrows))))
  rw [← toList_batchText] at hall
  simpa using hall

/-- **The text of a batch tells its inputs.** Whatever stands in its names, and also without columns or rows, it is read back
as it was written, no other text is read so, and its open marks are one per column and row. -/
theorem batchText_reads_back (verb : WriteVerb) (table : String) (columns : List String) (rows : Nat) :
    parseBatch (batchText verb table columns rows).toList = some ⟨verb, table, columns, rows⟩ ∧
    (∀ text : String, parseBatch text.toList = some ⟨verb, table, columns, rows⟩ ↔
      text = batchText verb table columns rows) ∧
    openMarks false (batchText verb table columns rows).toList = rows * columns.length ∧
    Function.Injective fun head : BatchHead => batchText head.verb head.table head.columns head.rows := by
  refine ⟨parseBatch_eq_some_iff.2 rfl, fun text => parseBatch_eq_some_iff, ?_, ?_⟩
  · have hmarks := holds_batchText verb table columns rows []
    rwa [List.append_nil] at hmarks
  · intro head head' heq
    have hread : parseBatch (batchText head.verb head.table head.columns head.rows).toList = some head :=
      parseBatch_eq_some_iff.2 rfl
    have hread' : parseBatch (batchText head.verb head.table head.columns head.rows).toList = some head' :=
      parseBatch_eq_some_iff.2 heq
    exact Option.some.inj (hread.symm.trans hread')

end RowLoader.Sql

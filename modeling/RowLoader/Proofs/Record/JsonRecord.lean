import RowLoader.Proofs.Decimal.Numeral
import RowLoader.Proofs.Record.JsonReader
import RowLoader.Proofs.Timestamp.Printed

/-!
# Reading records back

The JSON of a record is read back as the pairs of names and values that were written, whatever stands in the names and texts,
and keeps to one line.

* `Json.readQuoted_quote`: strings;
* `Json.readNumber_repr`: integers;
* `Json.readItems_intercalate`: lists;
* `Record.read_json`: records;
* `Record.le_of_mem_json`: no control characters.
-/

namespace RowLoader

namespace Json

variable {α β : Type}

/-! ### strings -/

theorem readUnit_control {code : Nat} (h : code < 32) (rest : List Char) :
    readUnit ('0' :: '0' :: Nat.digitChar (code / 16) :: Nat.digitChar (code % 16) :: rest) = some (code, rest) := by
  have hdigits : ∀ k < 32, ['0', '0', Nat.digitChar (k / 16), Nat.digitChar (k % 16)].all Text.isHexDigit = true ∧
      Text.readHex ['0', '0', Nat.digitChar (k / 16), Nat.digitChar (k % 16)] = k := by
    decide
  obtain ⟨hall, hvalue⟩ := hdigits code h
  rw [readUnit, if_pos hall, hvalue]

/-- A character stands for itself, or it is what its escape stands for. -/
theorem escapeChar_cases (c : Char) :
    (escapeChar c = [c] ∧ c ≠ '"' ∧ c ≠ '\\' ∧ 32 ≤ c.toNat) ∨
      ∃ escaped, escapeChar c = '\\' :: escaped ∧ ∀ rest, readEscape (escaped ++ rest) = some (c, rest) := by
  unfold escapeChar
  split
  · exact Or.inr ⟨_, rfl, fun _ => rfl⟩
  · exact Or.inr ⟨_, rfl, fun _ => rfl⟩
  · exact Or.inr ⟨_, rfl, fun _ => rfl⟩
  · exact Or.inr ⟨_, rfl, fun _ => rfl⟩
  · exact Or.inr ⟨_, rfl, fun _ => rfl⟩
  · exact Or.inr ⟨_, rfl, fun _ => rfl⟩
  · exact Or.inr ⟨_, rfl, fun _ => rfl⟩
  · rename_i hquote hbackslash _ _ _ _ _
    split
    · rename_i hcontrol
      refine Or.inr ⟨_, rfl, fun rest => ?_⟩
      have hunit := readUnit_control hcontrol rest
      have hplane : c.toNat < 0xD800 ∨ 0xE000 ≤ c.toNat := by omega
      simp only [List.cons_append, List.nil_append, readEscape, if_true, readUnicode, hunit, Option.bind_eq_bind,
        Option.bind_some, if_pos hplane, Char.ofNat_toNat]
    · rename_i hprinting
      exact Or.inl ⟨rfl, hquote, hbackslash, by omega⟩

theorem readChars_escape (s rest : List Char) : readChars (escape s ++ '"' :: rest) = some (s, rest) := by
  induction s with
  | nil => rw [escape_nil, List.nil_append, readChars, if_pos rfl]
  | cons c s ih =>
    rw [escape_cons, List.append_assoc]
    rcases escapeChar_cases c with ⟨hself, hquote, hbackslash, hprinting⟩ | ⟨escaped, hescaped, hread⟩
    · rw [hself, List.cons_append, List.nil_append, readChars, if_neg hquote, if_neg hbackslash, if_neg (by omega), ih]
      rfl
    · rw [hescaped, List.cons_append, readChars_backslash, hread, Option.bind_some, ih]
      rfl

theorem readQuoted_quote (s : String) (rest : List Char) : readQuoted ((quote s).toList ++ rest) = some (s, rest) := by
  rw [toList_quote, List.cons_append, List.append_assoc, List.cons_append, List.nil_append, readQuoted, if_pos rfl,
    readChars_escape, Option.map_some, String.ofList_toList]

/-! ### numbers -/

/-- What stands behind an integer does not go on with it. -/
def EndsInteger (rest : List Char) : Prop := ∀ c ∈ rest.head?, c.isDigit = false ∧ c ≠ '.' ∧ c ≠ 'e' ∧ c ≠ 'E'

theorem endsInteger_cons {c : Char} (h : c.isDigit = false ∧ c ≠ '.' ∧ c ≠ 'e' ∧ c ≠ 'E') (rest : List Char) :
    EndsInteger (c :: rest) := by
  intro d hd
  cases hd
  exact h

theorem readMagnitude_repr (n : Nat) {rest : List Char} (h : EndsInteger rest) :
    readMagnitude (n.repr.toList ++ rest) = some ((n : Rat), rest) := by
  have hdigits : Decimal.readPadded 1 (n.repr.toList ++ rest) = some (n, rest) := by
    rw [Decimal.readPadded_eq_some_iff Nat.one_pos, Decimal.paddedDigits_one]
    exact ⟨rfl, fun c hc => (h c hc).1⟩
  have hfraction : readFraction rest = some ([], rest) := by
    unfold readFraction
    split
    · exact absurd rfl (h '.' rfl).2.1
    · rfl
  have hexponent : readExponent rest = some (0, rest) := by
    cases rest with
    | nil => rfl
    | cons c rest =>
      obtain ⟨-, -, he, hE⟩ := h c rfl
      rw [readExponent, if_neg (not_or.2 ⟨he, hE⟩)]
  simp only [readMagnitude, hdigits, hfraction, hexponent, Option.bind_eq_bind, Option.bind_some]
  simp

theorem readNumber_repr (n : Int) {rest : List Char} (h : EndsInteger rest) :
    readNumber (n.repr.toList ++ rest) = some ((n : Rat), rest) := by
  rcases Decimal.toList_repr_cases n with ⟨m, rfl, hrepr⟩ | ⟨m, rfl, hrepr⟩
  · have hread := readMagnitude_repr m h
    obtain ⟨c, s, hdigits, hc⟩ := Decimal.exists_digit_cons_repr m
    rw [hrepr, hdigits, List.cons_append]
    rw [hdigits, List.cons_append] at hread
    unfold readNumber
    split
    · rename_i hminus
      rw [(List.cons.inj hminus).1] at hc
      cases hc
    · exact hread
  · rw [hrepr, List.cons_append, readNumber, readMagnitude_repr m h, Option.map_some, Rat.intCast_neg,
      Rat.intCast_natCast]

/-! ### lists -/

theorem skipBlanks_cons {c : Char} (h : isBlank c = false) (text : List Char) : skipBlanks (c :: text) = c :: text :=
  List.dropWhile_cons_of_neg (by rw [h]; decide)

section
variable {item : List Char → Option (α × List Char)} {write : β → List Char} {read : β → α} {close : Char} {items : List β}

/-- If every item is read back in front of a comma and in front of the closing bracket, so is the whole list. -/
theorem readItems_intercalate (hblank : isBlank close = false) (hcomma : ',' ≠ close) (hne : items ≠ [])
    (hitem : ∀ b ∈ items, ∀ c, c = ',' ∨ c = close → ∀ more, item (write b ++ c :: more) = some (read b, c :: more))
    (rest : List Char) :
    readItems item close ([','].intercalate (items.map write) ++ close :: rest) = some (items.map read, rest) := by
  induction items with
  | nil => exact absurd rfl hne
  | cons b items ih =>
    have hfirst := hitem b List.mem_cons_self
    cases items with
    | nil =>
      rw [List.map_cons, List.map_nil, List.intercalate_singleton, readItems, hfirst close (Or.inr rfl)]
      simp only [skipBlanks_cons hblank, if_true]
      rfl
    | cons b' items =>
      have htail := ih (List.cons_ne_nil _ _) fun v hv => hitem v (List.mem_cons_of_mem _ hv)
      have hshorter : ∀ front text : List Char, text.length < (front ++ ',' :: text).length := by
        intro front text
        rw [List.length_append, List.length_cons]
        omega
      rw [List.map_cons, List.map_cons, List.intercalate_cons_cons, List.append_assoc, List.append_assoc,
        List.singleton_append, readItems, hfirst ',' (Or.inl rfl)]
      have hcommaBlank : isBlank ',' = false := by decide
      simp only [skipBlanks_cons hcommaBlank, if_neg hcomma, if_true]
      rw [if_pos (hshorter _ _), ← List.map_cons, htail]
      rfl

/-- Also if there is no item at all, as long as none begins like the end of the list. -/
theorem readList_intercalate (hblank : isBlank close = false) (hcomma : ',' ≠ close)
    (hbegin : ∀ b ∈ items, ∃ c s, write b = c :: s ∧ isBlank c = false ∧ c ≠ close)
    (hitem : ∀ b ∈ items, ∀ c, c = ',' ∨ c = close → ∀ more, item (write b ++ c :: more) = some (read b, c :: more))
    (rest : List Char) :
    readList item close ([','].intercalate (items.map write) ++ close :: rest) = some (items.map read, rest) := by
  cases items with
  | nil =>
    rw [List.map_nil, List.intercalate_nil, List.nil_append, readList, skipBlanks_cons hblank]
    simp only [if_true]
    rfl
  | cons b items =>
    have hread := readItems_intercalate hblank hcomma (List.cons_ne_nil b items) hitem rest
    obtain ⟨c, s, hwrite, hc, hclose⟩ := hbegin b List.mem_cons_self
    obtain ⟨tail, htext⟩ : ∃ tail, [','].intercalate ((b :: items).map write) ++ close :: rest = c :: tail := by
      cases items <;> simp [hwrite]
    rw [htext] at hread ⊢
    rw [readList, skipBlanks_cons hc]
    simp only [if_neg hclose, hread]

end

end Json

/-! ### values -/

/-- Integers as numbers, texts and timestamps as strings. -/
def Value.toJson : Value → Json
  | .int n => .number n.toInt
  | .text s => .string s
  | .timestamp t => .string t.text

namespace Json

theorem readWith_quote (nested : List Char → Option (Json × List Char)) (s : String) (rest : List Char) :
    readWith nested ((quote s).toList ++ rest) = some (.string s, rest) := by
  have hread := readQuoted_quote s rest
  rw [toList_quote, List.cons_append] at hread ⊢
  rw [readWith, skipBlanks_cons (by decide)]
  simp only [if_true, hread]
  rfl

theorem readWith_repr (nested : List Char → Option (Json × List Char)) (n : Int) {rest : List Char} (h : EndsInteger rest) :
    readWith nested (n.repr.toList ++ rest) = some (.number n, rest) := by
  have hread := readNumber_repr n h
  obtain ⟨c, s, hrepr, hc⟩ : ∃ c s, n.repr.toList = c :: s ∧ (c = '-' ∨ c.isDigit = true) := by
    rcases Decimal.toList_repr_cases n with ⟨m, -, hrepr⟩ | ⟨m, -, hrepr⟩
    · obtain ⟨c, s, hdigits, hc⟩ := Decimal.exists_digit_cons_repr m
      exact ⟨c, s, hrepr.trans hdigits, Or.inr hc⟩
    · exact ⟨'-', m.repr.toList, hrepr, Or.inl rfl⟩
  have hne : ∀ d, d ≠ '-' → d.isDigit = false → c ≠ d := by
    rintro d hminus hdigit rfl
    rcases hc with rfl | hc
    · exact hminus rfl
    · rw [hdigit] at hc
      cases hc
  have hblank : isBlank c = false := by
    simp [isBlank, hne]
  rw [hrepr, List.cons_append] at hread ⊢
  rw [readWith, skipBlanks_cons hblank]
  simp only [if_neg (hne '"' (by decide) (by decide)), if_neg (hne '[' (by decide) (by decide)),
    if_neg (hne '\x7b' (by decide) (by decide)), if_pos hc, hread]
  rfl

theorem readWith_json (nested : List Char → Option (Json × List Char)) (v : Value) {rest : List Char} (h : EndsInteger rest) :
    readWith nested (v.json.toList ++ rest) = some (v.toJson, rest) := by
  cases v with
  | int n => exact readWith_repr nested n.toInt h
  | text s => exact readWith_quote nested s rest
  | timestamp t => exact readWith_quote nested t.text rest

/-! ### members -/

theorem toList_member (name : String) (v : Value) :
    (member name v).toList = (quote name).toList ++ ':' :: v.json.toList := by
  rw [member, String.toList_append, String.toList_append, List.append_assoc]
  rfl

theorem readMember_member (nested : List Char → Option (Json × List Char)) (name : String) (v : Value) {rest : List Char}
    (h : EndsInteger rest) :
    readMember (readWith nested) ((member name v).toList ++ rest) = some ((name, v.toJson), rest) := by
  have hname := readQuoted_quote name (':' :: (v.json.toList ++ rest))
  have hbegin : skipBlanks ((quote name).toList ++ ':' :: (v.json.toList ++ rest)) =
      (quote name).toList ++ ':' :: (v.json.toList ++ rest) := by
    rw [toList_quote, List.cons_append, skipBlanks_cons (by decide)]
  have hcolon : (skipBlanks (':' :: (v.json.toList ++ rest))).dropPrefix? [':'] = some (v.json.toList ++ rest) := by
    rw [skipBlanks_cons (by decide)]
    exact List.dropPrefix?_append_of_beq _ (beq_self_eq_true [':'])
  rw [toList_member, List.append_assoc, List.cons_append]
  simp only [readMember, hbegin, hname, hcolon, readWith_json nested v h, Option.bind_eq_bind, Option.bind_some]

end Json

/-! ### records -/

namespace Record

/-- The names and values of a record, as far as both go. -/
def toJson (columns : List String) (r : Record) : Json := .object ((columns.zip r.values).map fun p => (p.1, p.2.toJson))

theorem toList_json (columns : List String) (r : Record) :
    (r.json columns).toList =
      '\x7b' :: ([','].intercalate ((columns.zip r.values).map fun p => (Json.member p.1 p.2).toList) ++ ['\x7d']) := by
  have hmembers : (List.zipWith Json.member columns r.values).map String.toList =
      (columns.zip r.values).map fun p => (Json.member p.1 p.2).toList := by
    rw [← List.map_uncurry_zip_eq_zipWith, List.map_map]
    rfl
  rw [json, String.toList_append, String.toList_append, String.toList_intercalate, hmembers]
  rfl

theorem read_json (columns : List String) (r : Record) : Json.read (r.json columns) = some (r.toJson columns) := by
  obtain ⟨depth, hdepth⟩ : ∃ depth, (r.json columns).toList.length = depth + 2 := by
    refine ⟨(r.json columns).toList.length - 2, ?_⟩
    rw [toList_json, List.length_cons, List.length_append, List.length_singleton]
    omega
  have hbegin : ∀ p ∈ columns.zip r.values,
      ∃ c s, (Json.member p.1 p.2).toList = c :: s ∧ Json.isBlank c = false ∧ c ≠ '\x7d' := by
    rintro ⟨name, v⟩ -
    rw [Json.toList_member, Json.toList_quote]
    exact ⟨'"', _, rfl, by decide, by decide⟩
  have hmember : ∀ p ∈ columns.zip r.values, ∀ c, c = ',' ∨ c = '\x7d' → ∀ more,
      Json.readMember (Json.readWith (Json.readValue depth)) ((Json.member p.1 p.2).toList ++ c :: more) =
        some ((p.1, p.2.toJson), c :: more) := by
    rintro ⟨name, v⟩ - c (rfl | rfl) more
    · exact Json.readMember_member _ name v (Json.endsInteger_cons (by decide) more)
    · exact Json.readMember_member _ name v (Json.endsInteger_cons (by decide) more)
  have hmembers := Json.readList_intercalate (by decide) (by decide) hbegin hmember []
  have hvalue : Json.readValue (r.json columns).toList.length (r.json columns).toList = some (r.toJson columns, []) := by
    rw [hdepth, toList_json]
    change Json.readWith (Json.readWith (Json.readValue depth)) _ = _
    rw [Json.readWith, Json.skipBlanks_cons (by decide)]
    simp only [hmembers]
    rfl
  rw [Json.read, hvalue]
  rfl

end Record

/-! ### no control characters -/

namespace Json

theorem le_of_mem_escapeChar {c d : Char} (h : d ∈ escapeChar c) : 32 ≤ d.toNat := by
  have hdigit : ∀ k < 16, 32 ≤ (Nat.digitChar k).toNat := by decide
  unfold escapeChar at h
  split at h
  case h_8 =>
    split at h
    · rename_i hcontrol
      simp only [List.mem_cons, List.not_mem_nil, or_false] at h
      rcases h with rfl | rfl | rfl | rfl | rfl | rfl
      · decide
      · decide
      · decide
      · decide
      · exact hdigit _ (by omega)
      · exact hdigit _ (by omega)
    · rename_i hprinting
      rw [List.mem_singleton.1 h]
      omega
  all_goals
    simp only [List.mem_cons, List.not_mem_nil, or_false] at h
    rcases h with rfl | rfl <;> decide

theorem le_of_mem_quote (s : String) : ∀ c ∈ (quote s).toList, 32 ≤ c.toNat := by
  intro c hc
  rw [toList_quote, List.mem_cons, List.mem_append, List.mem_singleton] at hc
  rcases hc with rfl | hc | rfl
  · decide
  · obtain ⟨d, -, hmem⟩ := List.mem_flatMap.1 hc
    exact le_of_mem_escapeChar hmem
  · decide

theorem le_of_mem_value (v : Value) : ∀ c ∈ v.json.toList, 32 ≤ c.toNat := by
  have hrepr_le : ∀ (n : Nat), ∀ c ∈ n.repr.toList, 32 ≤ c.toNat := by
    intro n c hc
    have hcode := Decimal.toNat_of_isDigit (Decimal.isDigit_of_mem_repr hc)
    omega
  cases v with
  | int n =>
    intro c hc
    change c ∈ n.toInt.repr.toList at hc
    rcases Decimal.toList_repr_cases n.toInt with ⟨m, -, hrepr⟩ | ⟨m, -, hrepr⟩
    · rw [hrepr] at hc
      exact hrepr_le m c hc
    · rw [hrepr, List.mem_cons] at hc
      rcases hc with rfl | hc
      · decide
      · exact hrepr_le m c hc
  | text s => exact le_of_mem_quote s
  | timestamp t => exact le_of_mem_quote t.text

theorem forall_mem_intercalate {p : α → Prop} {separator : List α} {parts : List (List α)}
    (hseparator : ∀ a ∈ separator, p a) (hparts : ∀ part ∈ parts, ∀ a ∈ part, p a) :
    ∀ a ∈ separator.intercalate parts, p a := by
  induction parts with
  | nil => simp
  | cons part parts ih =>
    obtain ⟨hpart, hrest⟩ := List.forall_mem_cons.1 hparts
    cases parts with
    | nil => simpa using hpart
    | cons part' parts =>
      intro a ha
      rw [List.intercalate_cons_cons, List.mem_append, List.mem_append] at ha
      rcases ha with (ha | ha) | ha
      · exact hpart a ha
      · exact hseparator a ha
      · exact ih hrest a ha

end Json

/-- A record keeps to one line. -/
theorem Record.le_of_mem_json (columns : List String) (r : Record) : ∀ c ∈ (r.json columns).toList, 32 ≤ c.toNat := by
  have hmember : ∀ (name : String) (v : Value), ∀ c ∈ (Json.member name v).toList, 32 ≤ c.toNat := by
    intro name v c hc
    rw [Json.toList_member, List.mem_append, List.mem_cons] at hc
    rcases hc with hc | rfl | hc
    · exact Json.le_of_mem_quote name c hc
    · decide
    · exact Json.le_of_mem_value v c hc
  have hmembers : ∀ c ∈ [','].intercalate ((columns.zip r.values).map fun p => (Json.member p.1 p.2).toList),
      32 ≤ c.toNat := by
    apply Json.forall_mem_intercalate
    · intro c hc
      rw [List.mem_singleton.1 hc]
      decide
    · rintro part hpart c hc
      obtain ⟨p, -, rfl⟩ := List.mem_map.1 hpart
      exact hmember p.1 p.2 c hc
  intro c hc
  rw [toList_json, List.mem_cons, List.mem_append, List.mem_singleton] at hc
  rcases hc with rfl | hc | rfl
  · decide
  · exact hmembers c hc
  · decide

end RowLoader

import Mathlib.Algebra.Group.Int.Defs
import Mathlib.Algebra.GroupWithZero.Nat
import RowLoader.KeySpace
import RowLoader.Record.Build

/-!
# Keys of records

The key of a row is a function of its offset alone, and no two offsets share one.

* `Profile.key_inj`: offsets with the same key are equal, also where an offset read as a signed word is negative;
* `Profile.isRow_of_record`: a record that was built carries its offset, one value per column, and the key of its offset
  in the key column;
* `Profile.record_ok_iff`: at which offsets building a record does not trap.
-/

namespace RowLoader

/-! ### sums of signed words -/

theorem addInts_eq_ok_iff {a b c : Int64} : addInts a b = .ok c ↔ c.toInt = a.toInt + b.toInt := by
  refine ⟨addInts_eq_ok, fun h => ?_⟩
  have hlt := c.toInt_lt
  have hge := c.le_toInt
  unfold addInts
  rw [if_pos ⟨by omega, by omega⟩, Except.ok.injEq, ← Int64.toInt_inj, Int64.toInt_add, h]
  exact Int.bmod_eq_of_le (by omega) (by omega)

theorem addInts_ok_iff {a b : Int64} :
    (∃ c, addInts a b = .ok c) ↔ -2 ^ 63 ≤ a.toInt + b.toInt ∧ a.toInt + b.toInt < 2 ^ 63 := by
  constructor
  · rintro ⟨c, hc⟩
    rw [← addInts_eq_ok hc]
    exact ⟨c.le_toInt, c.toInt_lt⟩
  · intro h
    exact ⟨a + b, if_pos h⟩

/-- An offset read as a signed word. From `2 ^ 63` on it is negative. -/
theorem toInt_toInt64 (o : UInt64) :
    o.toInt64.toInt = if o.toNat < 2 ^ 63 then (o.toNat : Int) else (o.toNat : Int) - 2 ^ 64 := by
  have h := BitVec.toInt_eq_toNat_cond o.toBitVec
  change o.toInt64.toInt = if 2 * o.toNat < 2 ^ 64 then (o.toNat : Int) else (o.toNat : Int) - (2 ^ 64 : Nat) at h
  rw [h]
  split <;> split <;> omega

/-! ### keys -/

/-- The key of the row at an offset. -/
def Profile.key : Profile → UInt64 → Except Trap Value
  | .thing, offset => (thingKey offset).map .text
  | .user, offset => (userKey offset).map .int

theorem thingKey_eq_ok_iff {o : UInt64} {id : String} :
    thingKey o = .ok id ↔ 1000000 + o.toNat < 2 ^ 64 ∧ id = "WDDUX5268F" ++ (1000000 + o.toNat).repr := by
  unfold thingKey
  constructor
  · intro h
    obtain ⟨n, hn, rfl⟩ := map_eq_ok h
    have hn := addWords_eq_ok_iff.1 hn
    have hlt := n.toNat_lt
    have hfirst : firstSerial.toNat = 1000000 := rfl
    rw [hfirst] at hn
    exact ⟨by omega, by rw [hn]⟩
  · rintro ⟨hlt, rfl⟩
    have hsum : addWords firstSerial o = .ok (firstSerial + o) := if_pos hlt
    have hn := addWords_eq_ok_iff.1 hsum
    rw [hsum]
    simp only [Except.map, hn]
    rfl

theorem userKey_eq_ok_iff {o : UInt64} {id : Int64} : userKey o = .ok id ↔ id.toInt = o.toInt64.toInt + 1 :=
  addInts_eq_ok_iff

theorem thingKey_inj {o o' : UInt64} {id : String} (h : thingKey o = .ok id) (h' : thingKey o' = .ok id) : o = o' := by
  have hid := (thingKey_eq_ok_iff.1 h).2
  rw [(thingKey_eq_ok_iff.1 h').2, String.append_right_inj] at hid
  have hdigits := congrArg (fun s => Nat.ofDigitChars 10 s.toList 0) hid
  simp only [Nat.toList_repr, Nat.ofDigitChars_toDigits (b := 10) (by decide) (by decide)] at hdigits
  rw [← UInt64.toNat_inj]
  omega

theorem userKey_inj {o o' : UInt64} {id : Int64} (h : userKey o = .ok id) (h' : userKey o' = .ok id) : o = o' := by
  have hid := userKey_eq_ok_iff.1 h
  rw [userKey_eq_ok_iff.1 h'] at hid
  have hcast : o'.toInt64 = o.toInt64 := Int64.toInt_inj.1 (by omega)
  have hback := congrArg Int64.toUInt64 hcast
  rw [UInt64.toUInt64_toInt64, UInt64.toUInt64_toInt64] at hback
  exact hback.symm

/-- **Keys tell offsets apart.** -/
theorem Profile.key_inj {p : Profile} {o o' : UInt64} {v : Value} (h : p.key o = .ok v) (h' : p.key o' = .ok v) :
    o = o' := by
  cases p with
  | thing =>
    obtain ⟨id, hid, rfl⟩ := map_eq_ok h
    obtain ⟨id', hid', hv⟩ := map_eq_ok h'
    cases hv
    exact thingKey_inj hid hid'
  | user =>
    obtain ⟨id, hid, rfl⟩ := map_eq_ok h
    obtain ⟨id', hid', hv⟩ := map_eq_ok h'
    cases hv
    exact userKey_inj hid hid'

/-! ### rows -/

/-- One value per column, and the key of the offset in the key column. -/
structure Profile.IsRow (p : Profile) (r : Record) : Prop where
  arity : r.arity = p.arity
  key : ∃ v, p.key r.offset = .ok v ∧ r.get? p.keyColumn = some v

variable {σ : Type} [WordSource σ] {createdAt : Timestamp}

theorem Profile.isRow_of_record {p : Profile} {o : UInt64} {s s' : σ} {r : Record}
    (h : p.record createdAt o s = .ok (r, s')) : r.offset = o ∧ p.IsRow r := by
  cases p with
  | thing =>
    obtain ⟨r', hr, heq⟩ := map_eq_ok h
    cases heq
    obtain ⟨id, hid, rfl⟩ := map_eq_ok hr
    refine ⟨rfl, ⟨rfl, .text id, ?_, rfl⟩⟩
    simp only [Profile.key, hid, Except.map]
  | user =>
    obtain ⟨r', hr, heq⟩ := map_eq_ok h
    cases heq
    obtain ⟨id, hid, hr⟩ := bind_eq_ok hr
    obtain ⟨phone, -, hr⟩ := bind_eq_ok hr
    cases hr
    refine ⟨rfl, ⟨rfl, .int id, ?_, rfl⟩⟩
    simp only [Profile.key, hid, Except.map]

/-- The offsets at which the words of a row suffice: a serial number for a device, a phone number for a user. -/
def Profile.HasRow : Profile → UInt64 → Prop
  | .thing, o => 1000000 + o.toNat < 2 ^ 64
  | .user, o => o.toNat ≤ lastOffset ∨ 2 ^ 63 ≤ o.toNat

theorem thingRecord_ok_iff {o : UInt64} : (∃ r, thingRecord o = .ok r) ↔ Profile.thing.HasRow o := by
  constructor
  · rintro ⟨r, hr⟩
    obtain ⟨id, hid, -⟩ := map_eq_ok hr
    exact (thingKey_eq_ok_iff.1 hid).1
  · intro h
    have hid : thingKey o = .ok ("WDDUX5268F" ++ (1000000 + o.toNat).repr) := thingKey_eq_ok_iff.2 ⟨h, rfl⟩
    refine ⟨⟨o, thingValues ("WDDUX5268F" ++ (1000000 + o.toNat).repr)⟩, ?_⟩
    unfold thingRecord
    rw [hid]
    rfl

theorem userRecord_ok_iff {o : UInt64} (createdAt : Timestamp) (f : Filler) :
    (∃ r, userRecord o createdAt f = .ok r) ↔ Profile.user.HasRow o := by
  have hcast := toInt_toInt64 o
  have hlt := o.toNat_lt
  have horigin : phoneOrigin.toInt = 13100000000 := by decide
  have hone : (1 : Int64).toInt = 1 := by decide
  have hid := addInts_ok_iff (a := o.toInt64) (b := 1)
  unfold Profile.HasRow lastOffset
  constructor
  · rintro ⟨r, hr⟩
    obtain ⟨id, hid, hr⟩ := bind_eq_ok hr
    obtain ⟨phone, hphone, -⟩ := bind_eq_ok hr
    have hval := userKey_eq_ok_iff.1 hid
    have hbound := (addInts_ok_iff.1 ⟨phone, hphone⟩).2
    split at hcast <;> omega
  · intro h
    obtain ⟨id, hid⟩ : ∃ id, userKey o = .ok id := hid.2 (by split at hcast <;> omega)
    have hval := userKey_eq_ok_iff.1 hid
    obtain ⟨phone, hphone⟩ := addInts_ok_iff (a := phoneOrigin) (b := id) |>.2 (by split at hcast <;> omega)
    refine ⟨⟨o, userValues id phone createdAt f⟩, ?_⟩
    unfold userRecord
    rw [hid]
    simp only [bind, Except.bind, hphone]
    rfl

/-- Whether a record can be built depends on the profile and the offset alone. -/
theorem Profile.record_ok_iff {p : Profile} {o : UInt64} {s : σ} :
    (∃ q, p.record createdAt o s = .ok q) ↔ p.HasRow o := by
  cases p with
  | thing =>
    rw [← thingRecord_ok_iff]
    constructor
    · rintro ⟨q, hq⟩
      obtain ⟨r, hr, -⟩ := map_eq_ok hq
      exact ⟨r, hr⟩
    · rintro ⟨r, hr⟩
      exact ⟨(r, s), by simp only [Profile.record, hr, Except.map]⟩
  | user =>
    rw [← userRecord_ok_iff createdAt (Filler.draw s).1]
    constructor
    · rintro ⟨q, hq⟩
      obtain ⟨r, hr, -⟩ := map_eq_ok hq
      exact ⟨r, hr⟩
    · rintro ⟨r, hr⟩
      exact ⟨(r, (Filler.draw s).2), by simp only [Profile.record, hr, Except.map]⟩

/-- The key space holds no offset without a row. -/
theorem Profile.hasRow_of_le {p : Profile} {o : UInt64} (h : o.toNat ≤ lastOffset) : p.HasRow o := by
  unfold lastOffset at h
  cases p with
  | thing =>
    change 1000000 + o.toNat < 2 ^ 64
    omega
  | user => exact Or.inl h

/-! ### numbers without a row -/

/-- The numbers that are the offset of no row: those past the words, and those at which a serial number or a phone number
leaves its word. For users this is a gap in the words, as offsets from their middle on count as negative. -/
def Profile.Overflows : Profile → Nat → Prop
  | .thing, n => 2 ^ 64 - 1000000 ≤ n
  | .user, n => 2 ^ 64 ≤ n ∨ lastOffset < n ∧ n < 2 ^ 63

theorem Profile.overflows_of_le {p : Profile} {n : Nat} (h : 2 ^ 64 ≤ n) : p.Overflows n := by
  cases p with
  | thing =>
    show 2 ^ 64 - 1000000 ≤ n
    omega
  | user => exact Or.inl h

theorem Profile.overflows_toNat_iff {p : Profile} {o : UInt64} : p.Overflows o.toNat ↔ ¬ p.HasRow o := by
  have hlt := o.toNat_lt
  cases p with
  | thing =>
    show 2 ^ 64 - 1000000 ≤ o.toNat ↔ ¬ 1000000 + o.toNat < 2 ^ 64
    omega
  | user =>
    show (2 ^ 64 ≤ o.toNat ∨ lastOffset < o.toNat ∧ o.toNat < 2 ^ 63) ↔ ¬ (o.toNat ≤ lastOffset ∨ 2 ^ 63 ≤ o.toNat)
    omega

theorem Profile.not_overflows_of_le {p : Profile} {n : Nat} (h : n ≤ lastOffset) : ¬ p.Overflows n := by
  unfold lastOffset at h
  cases p with
  | thing =>
    show ¬ 2 ^ 64 - 1000000 ≤ n
    omega
  | user =>
    show ¬ (2 ^ 64 ≤ n ∨ lastOffset < n ∧ n < 2 ^ 63)
    unfold lastOffset
    omega

/-! ### keys inside the key space -/

/-- The key at an offset of the key space: a serial number behind the prefix of all devices, or an id from 1 on. -/
def Profile.keyAt : Profile → Nat → Value
  | .thing, o => .text ("WDDUX5268F" ++ (1000000 + o).repr)
  | .user, o => .int (Int64.ofNat (o + 1))

theorem thingKey_of_le {o : UInt64} (h : o.toNat ≤ lastOffset) :
    thingKey o = .ok ("WDDUX5268F" ++ (1000000 + o.toNat).repr) :=
  thingKey_eq_ok_iff.2 ⟨Profile.hasRow_of_le (p := .thing) h, rfl⟩

theorem userKey_of_le {o : UInt64} (h : o.toNat ≤ lastOffset) : userKey o = .ok (Int64.ofNat (o.toNat + 1)) := by
  unfold lastOffset at h
  have hcast : o.toInt64.toInt = o.toNat := by
    rw [toInt_toInt64, if_pos (by omega)]
  rw [userKey_eq_ok_iff, hcast, Int64.toInt_ofNat_of_lt (by omega)]
  rfl

theorem Profile.key_eq_keyAt {p : Profile} {o : UInt64} (h : o.toNat ≤ lastOffset) :
    p.key o = .ok (p.keyAt o.toNat) := by
  cases p with
  | thing => simp only [Profile.key, thingKey_of_le h, Except.map, Profile.keyAt]
  | user => simp only [Profile.key, userKey_of_le h, Except.map, Profile.keyAt]

end RowLoader

import RowLoader.Proofs.Random.Sample
import RowLoader.Proofs.Record.Keys
import RowLoader.Random.ChaCha

/-!
# Rows of users

A user row of the key space is made whatever the words are, and what is drawn for it keeps its bounds.

* `Filler.always_wellFormed`: every draw;
* `userRecord_of_le`: the row with some filler at an offset of the key space;
* `users_wellFormed`: the nine values of a row.
-/

namespace RowLoader

/-! ### what is drawn -/

/-- The bounds of what is random about a user. -/
structure Filler.WellFormed (f : Filler) : Prop where
  lastName : f.lastName < 100000
  firstName : f.firstName < 100000
  age_pos : 1 ≤ f.age
  age_le : f.age ≤ 120
  address : Random.DistinctLetters 20 f.address
  password : Random.DistinctLetters 10 f.password

variable {σ : Type} [WordSource σ]

/-- Whatever the words are, the draws keep these bounds. -/
theorem Filler.always_wellFormed : Random.Always (Filler.draw : StateM σ Filler) Filler.WellFormed := by
  have hname : Random.Always (Random.below32 100000 : StateM σ Nat) (· < 100000) :=
    Random.always_below32 (by decide) (by decide)
  have hage : Random.Always (Random.below64 120 : StateM σ Nat) (· < 120) := Random.always_below64 (by decide) (by decide)
  have hsex : Random.Always (Random.below32 2 : StateM σ Nat) (· < 2) := Random.always_below32 (by decide) (by decide)
  refine hsex.bind ?_
  intro sex _
  refine hname.bind ?_
  intro lastName hlast
  refine hname.bind ?_
  intro firstName hfirst
  refine hage.bind ?_
  intro age hage
  refine (Random.always_distinctLetters (by decide)).bind ?_
  intro address haddress
  refine (Random.always_distinctLetters (by decide)).bind ?_
  intro password hpassword
  exact .pure ⟨hlast, hfirst, Nat.le_add_left 1 age, hage, haddress, hpassword⟩

theorem Sex.letter_eq (sex : Sex) : sex.letter = "M" ∨ sex.letter = "F" := by
  cases sex with
  | male => exact Or.inl rfl
  | female => exact Or.inr rfl

/-! ### rows -/

/-- In the key space neither the id nor the phone number leaves its word. -/
theorem userRecord_of_le {o : UInt64} (h : o.toNat ≤ lastOffset) (createdAt : Timestamp) (f : Filler) :
    userRecord o createdAt f =
      .ok ⟨o, userValues (Int64.ofNat (o.toNat + 1)) (Int64.ofNat (13100000001 + o.toNat)) createdAt f⟩ := by
  have hid : userKey o = .ok (Int64.ofNat (o.toNat + 1)) := userKey_of_le h
  unfold lastOffset at h
  have hphone : addInts phoneOrigin (Int64.ofNat (o.toNat + 1)) = .ok (Int64.ofNat (13100000001 + o.toNat)) := by
    have horigin : phoneOrigin.toInt = 13100000000 := by decide
    rw [addInts_eq_ok_iff, horigin, Int64.toInt_ofNat_of_lt (by omega), Int64.toInt_ofNat_of_lt (by omega)]
    omega
  unfold userRecord
  rw [hid]
  simp only [bind, Except.bind, hphone]
  rfl

/-- **Every row of a user is well-formed.** In the key space a row is made, with its nine values in the order of the columns:
the id and the phone number follow from the offset, and what is drawn keeps its bounds whatever the words are. -/
theorem users_wellFormed {o : UInt64} (h : o.toNat ≤ lastOffset) (createdAt : Timestamp) (s : σ) :
    ∃ (id age phone : Int64) (lastName firstName : Nat) (sex address password : String) (s' : σ),
      Profile.user.record createdAt o s =
        .ok (⟨o, [.int id, .text ("last_name_" ++ lastName.repr), .text ("first_name_" ++ firstName.repr), .text sex,
          .int age, .int phone, .text address, .text password, .timestamp createdAt]⟩, s') ∧
      id.toInt = o.toNat + 1 ∧ lastName < 100000 ∧ firstName < 100000 ∧ (sex = "M" ∨ sex = "F") ∧
      1 ≤ age.toInt ∧ age.toInt ≤ 120 ∧ phone.toInt = 13100000000 + id.toInt ∧
      Random.DistinctLetters 20 address ∧ Random.DistinctLetters 10 password := by
  have hdraw : (Filler.draw s).1.WellFormed := Filler.always_wellFormed s
  have hrecord : Profile.user.record createdAt o s = .ok (⟨o, userValues (Int64.ofNat (o.toNat + 1))
      (Int64.ofNat (13100000001 + o.toNat)) createdAt (Filler.draw s).1⟩, (Filler.draw s).2) := by
    unfold Profile.record
    simp only [userRecord_of_le h]
    rfl
  unfold lastOffset at h
  have hid : (Int64.ofNat (o.toNat + 1)).toInt = o.toNat + 1 := Int64.toInt_ofNat_of_lt (by omega)
  have hphone : (Int64.ofNat (13100000001 + o.toNat)).toInt = (13100000001 + o.toNat : Nat) :=
    Int64.toInt_ofNat_of_lt (by omega)
  have hpos := hdraw.age_pos
  have hle := hdraw.age_le
  have hage : (Int64.ofNat (Filler.draw s).1.age).toInt = (Filler.draw s).1.age := Int64.toInt_ofNat_of_lt (by omega)
  refine ⟨_, _, _, _, _, _, _, _, _, hrecord, hid, hdraw.lastName, hdraw.firstName, Sex.letter_eq _, ?_, ?_, ?_,
    hdraw.address, hdraw.password⟩
  · omega
  · omega
  · omega

/-- The last user of the key space has the greatest phone number there is. -/
theorem users_wellFormed_of_last : (9223372023754775806 : UInt64).toNat ≤ lastOffset ∧
    ∃ (r : Record) (s : Random.Keystream) (address : String),
      Profile.user.record .epoch 9223372023754775806 (Random.Keystream.ofSeed 42) = .ok (r, s) ∧
      r.get? 0 = some (.int 9223372023754775807) ∧ r.get? 5 = some (.int 0x7FFFFFFFFFFFFFFF) ∧
      r.get? 6 = some (.text address) ∧ Random.DistinctLetters 20 address := by
  have hle : (9223372023754775806 : UInt64).toNat ≤ lastOffset := by decide
  obtain ⟨id, age, phone, lastName, firstName, sex, address, password, s, hrecord, hid, -, -, -, -, -, hphone, haddress, -⟩ :=
    users_wellFormed hle .epoch (Random.Keystream.ofSeed 42)
  have hid : id = 9223372023754775807 := Int64.toInt_inj.1 hid
  rw [hid] at hphone hrecord
  have hphone : phone = 0x7FFFFFFFFFFFFFFF := Int64.toInt_inj.1 hphone
  rw [hphone] at hrecord
  exact ⟨hle, _, s, address, hrecord, rfl, rfl, rfl, haddress⟩

end RowLoader

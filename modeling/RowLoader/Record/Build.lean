import RowLoader.Profile
import RowLoader.Record
import RowLoader.Random.Sample
import RowLoader.Trap

/-!
# Building records

The record at an offset. Keys and phone numbers are functions of the offset alone; what is random about a user row is its
`Filler`, drawn from a word source. Building traps only where a key or a phone number leaves its word.
-/

namespace RowLoader

/-! ### device rows -/

/-- The first serial number handed out. -/
def firstSerial : UInt64 := 1000000

def thingKey (offset : UInt64) : Except Trap String :=
  (addWords firstSerial offset).map fun n => "WDDUX5268F" ++ n.toNat.repr

/-- The device row with a given id. Nothing else about it varies. -/
def thingValues (id : String) : List Value :=
  [.text "12345678901234567890123456789", .text "1234567890123456", .text id, .text "12345678901234567890",
    .text "HGTSN12584UHGTE", .int 0, .int 0, .text "1234567890123456", .int 0]

def thingRecord (offset : UInt64) : Except Trap Record :=
  (thingKey offset).map fun id => ⟨offset, thingValues id⟩

/-! ### user rows -/

/-- Ids start at 1, with the offset read as a signed word. -/
def userKey (offset : UInt64) : Except Trap Int64 := addInts offset.toInt64 1

/-- The phone number of the user with id 0. -/
def phoneOrigin : Int64 := 13100000000

inductive Sex where
  | male
  | female
  deriving DecidableEq

def Sex.letter : Sex → String
  | .male => "M"
  | .female => "F"

/-- What is random about a user. -/
structure Filler where
  sex : Sex
  lastName : Nat
  firstName : Nat
  age : Nat
  address : String
  password : String

/-- The order of the draws is part of what a seed stands for. -/
def Filler.draw {σ : Type} [WordSource σ] : StateM σ Filler := do
  let sex ← Random.below32 2
  let lastName ← Random.below32 100000
  let firstName ← Random.below32 100000
  let age ← Random.below64 120
  let address ← Random.letters 20
  let password ← Random.letters 10
  return ⟨if sex = 0 then .male else .female, lastName, firstName, age + 1, address, password⟩

def userValues (id phone : Int64) (createdAt : Timestamp) (f : Filler) : List Value :=
  [.int id, .text ("last_name_" ++ f.lastName.repr), .text ("first_name_" ++ f.firstName.repr), .text f.sex.letter,
    .int (Int64.ofNat f.age), .int phone, .text f.address, .text f.password, .timestamp createdAt]

def userRecord (offset : UInt64) (createdAt : Timestamp) (f : Filler) : Except Trap Record := do
  let id ← userKey offset
  let phone ← addInts phoneOrigin id
  return ⟨offset, userValues id phone createdAt f⟩

/-! ### either -/

variable {σ : Type} [WordSource σ]

/-- The record of a profile at an offset; a device row draws nothing. -/
def Profile.record (p : Profile) (createdAt : Timestamp) (offset : UInt64) (s : σ) : Except Trap (Record × σ) :=
  match p with
  | .thing => (thingRecord offset).map (·, s)
  | .user =>
    let drawn := Filler.draw s
    (userRecord offset createdAt drawn.1).map (·, drawn.2)

end RowLoader

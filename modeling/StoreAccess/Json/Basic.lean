/-!
# JSON values

The values that stored data and reports are made of. An object is a list of members, so the
order in which they are written is part of the value; reading looks members up by name and does
not depend on it.
-/

namespace StoreAccess

/-- A JSON value. The number is `mantissa` over ten to the power of `decimals`. -/
inductive Json where
  | null
  | bool (value : Bool)
  | number (mantissa : Int) (decimals : Nat)
  | string (value : String)
  | array (items : List Json)
  | object (members : List (String × Json))

namespace Json

instance : Inhabited Json := ⟨null⟩

def ofNat (n : Nat) : Json := number n 0

/-- The natural number that a value is, if it is written without decimals. -/
def toNat? : Json → Option Nat
  | number (.ofNat n) 0 => some n
  | _ => none

def toBool? : Json → Option Bool
  | bool value => some value
  | _ => none

def toString? : Json → Option String
  | string value => some value
  | _ => none

def toList? : Json → Option (List Json)
  | array items => some items
  | _ => none

/-- The members of a record with the given names, in the order of the names. A record is written
as an object, of which other members are left aside, or as the array of all its members. -/
def members? (names : List String) : Json → Option (List (Option Json))
  | object members => some (names.map (List.lookup · members))
  | array items => if items.length = names.length then some (items.map some) else none
  | _ => none

/-- The name of a case without content: the bare name, or an object whose only member has that
name and is null. -/
def caseName? : Json → Option String
  | string name => some name
  | object [(name, null)] => some name
  | _ => none

@[simp] theorem toNat?_ofNat (n : Nat) : (ofNat n).toNat? = some n := rfl

end Json

end StoreAccess

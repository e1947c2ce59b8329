import StoreAccess.Error
import StoreAccess.StoreId

/-!
# Scopes and objects

Access is asked for at a scope: the store, a class, or one object. An object is known by its
class and its key within a store; a reference that names no store is *unmanaged*. An object type
is a class known in advance, and a `TypedObject` is a reference that is known to be of it.
-/

namespace StoreAccess

open Std

/-! ## Objects -/

/-- The number of an object among those of its store. -/
structure ObjectKey where
  number : UInt64
  deriving DecidableEq, Repr

def ObjectKey.text (key : ObjectKey) : String := key.number.toNat.repr

/-- What an object is known by within its store. -/
structure ObjectId where
  className : String
  key : ObjectKey
  deriving DecidableEq, Repr

namespace ObjectId

/-- Objects are ordered by class and then by key. -/
instance : Ord ObjectId :=
  ⟨compareLex (compareOn (·.className)) (compareOn (·.key.number))⟩

instance : TransOrd ObjectId :=
  inferInstanceAs
    (TransCmp (compareLex (compareOn (·.className)) (compareOn fun r : ObjectId => r.key.number)))

instance : LawfulEqOrd ObjectId where
  eq_of_compare {a b} h := by
    have h : compareLex (compareOn (·.className)) (compareOn fun r : ObjectId => r.key.number) a b
        = .eq := h
    obtain ⟨hclass, hkey⟩ := compareLex_eq_eq.1 h
    have hclass : compare a.className b.className = .eq := hclass
    have hkey : compare a.key.number b.key.number = .eq := hkey
    have hclass := LawfulEqCmp.eq_of_compare hclass
    have hkey := LawfulEqCmp.eq_of_compare hkey
    obtain ⟨_, ⟨_⟩⟩ := a
    obtain ⟨_, ⟨_⟩⟩ := b
    simp_all

end ObjectId

/-- A reference to an object. Whether there is such an object only its store can tell. -/
structure ObjectRef where
  storeId : Option StoreId
  className : String
  key : ObjectKey
  deriving DecidableEq, Repr

namespace ObjectRef

def managed (storeId : StoreId) (className : String) (key : ObjectKey) : ObjectRef :=
  ⟨some storeId, className, key⟩

def unmanaged (className : String) (key : ObjectKey) : ObjectRef := ⟨none, className, key⟩

def isManaged (object : ObjectRef) : Bool := object.storeId.isSome

/-- What the object is known by within its store. -/
def id (object : ObjectRef) : ObjectId := ⟨object.className, object.key⟩

def text (object : ObjectRef) : String := object.className ++ "#" ++ object.key.text

/-- All fields of the reference, for developers. -/
def inspect (object : ObjectRef) : String :=
  let storeId := match object.storeId with
    | none => "None"
    | some id => "Some(StoreId(" ++ id.text ++ "))"
  "ObjectRef \x7b store_id: " ++ storeId ++ ", class_name: " ++ Text.quote object.className ++
    ", key: ObjectKey(" ++ object.key.text ++ ") \x7d"

end ObjectRef

/-! ## Object types -/

/-- A class that is known in advance. -/
structure ObjectType where
  className : String
  deriving DecidableEq, Repr

/-- A reference to an object of an object type. -/
structure TypedObject (type : ObjectType) where
  object : ObjectRef
  className_eq : object.className = type.className
  deriving DecidableEq

namespace TypedObject

/-- A reference viewed as one of an object type, which must be of the class. -/
def ofRef (type : ObjectType) (object : ObjectRef) : Except AccessError (TypedObject type) :=
  if h : object.className = type.className then .ok ⟨object, h⟩
  else .error (.classMismatch object.className type.className)

def unmanaged (type : ObjectType) (key : ObjectKey) : TypedObject type :=
  ⟨.unmanaged type.className key, rfl⟩

/-- All fields of the reference, for developers. -/
def inspect {type : ObjectType} (typed : TypedObject type) : String :=
  "TypedObject(" ++ typed.object.inspect ++ ")"

theorem ofRef_object {type : ObjectType} (typed : TypedObject type) :
    ofRef type typed.object = .ok typed := by
  simp [ofRef, typed.className_eq]

end TypedObject

/-! ## Scopes -/

inductive ScopeKind where
  | store
  | ofClass
  | object
  deriving DecidableEq, Repr

namespace ScopeKind

def all : List ScopeKind := [store, ofClass, object]

def name : ScopeKind → String
  | store => "store"
  | ofClass => "class"
  | object => "object"

def ofName? (name : String) : Option ScopeKind := all.find? (·.name == name)

theorem ofName?_name (kind : ScopeKind) : ofName? kind.name = some kind := by cases kind <;> rfl

end ScopeKind

inductive Scope where
  | store
  | ofClass (className : String)
  | object (object : ObjectRef)
  deriving DecidableEq, Repr

namespace Scope

def kind : Scope → ScopeKind
  | store => .store
  | ofClass _ => .ofClass
  | object _ => .object

def text : Scope → String
  | store => "store"
  | ofClass className => "class:" ++ className
  | object o => "object:" ++ o.text

end Scope

end StoreAccess

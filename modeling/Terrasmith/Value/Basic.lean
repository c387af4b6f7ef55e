import Terrasmith.Number.Text

/-!
Values of the expression language. Objects keep the order in which their keys were first written.
-/
namespace Terrasmith

inductive Value where
  | null
  | bool (b : Bool)
  | number (n : Number)
  | string (s : String)
  | array (items : List Value)
  | object (entries : List (String × Value))
  deriving Inhabited

/-- Writes an entry of an ordered list of entries: an existing key keeps its place. -/
def insertEntry {α : Type} (key : String) (value : α) : List (String × α) → List (String × α)
  | [] => [(key, value)]
  | (k, v) :: rest => if k = key then (k, value) :: rest else (k, v) :: insertEntry key value rest

/-- Entries written one after the other, later ones over earlier ones. -/
def insertEntries {α : Type} (entries new : List (String × α)) : List (String × α) :=
  new.foldl (fun done (key, value) => insertEntry key value done) entries

/-- Entries without the first one of a key. -/
def eraseEntry {α : Type} (key : String) : List (String × α) → List (String × α)
  | [] => []
  | (k, v) :: rest => if k = key then rest else (k, v) :: eraseEntry key rest

@[simp] theorem insertEntry_nil {α : Type} (key : String) (value : α) :
    insertEntry key value [] = [(key, value)] := rfl

theorem lookup_insertEntry_self {α : Type} (key : String) (value : α) (entries : List (String × α)) :
    (insertEntry key value entries).lookup key = some value := by
  induction entries with
  | nil => simp [insertEntry]
  | cons entry rest ih =>
    obtain ⟨k, v⟩ := entry
    by_cases h : k = key
    · simp [insertEntry, h]
    · have h' : (key == k) = false := by simpa using fun e => h e.symm
      simp [insertEntry, h, List.lookup_cons, h', ih]

theorem lookup_insertEntry_of_ne {α : Type} {key other : String} (h : other ≠ key) (value : α)
    (entries : List (String × α)) :
    (insertEntry key value entries).lookup other = entries.lookup other := by
  induction entries with
  | nil =>
    have h' : (other == key) = false := by simpa using h
    simp [insertEntry, List.lookup_cons, h']
  | cons entry rest ih =>
    obtain ⟨k, v⟩ := entry
    by_cases hk : k = key
    · subst hk
      have h' : (other == k) = false := by simpa using h
      simp [insertEntry, List.lookup_cons, h']
    · simp only [insertEntry, hk, if_false, List.lookup_cons, ih]

theorem mem_insertEntry {α : Type} {key : String} {value : α} {entries : List (String × α)} {p : String × α}
    (h : p ∈ insertEntry key value entries) : p = (key, value) ∨ p ∈ entries := by
  induction entries with
  | nil => exact .inl (by simpa using h)
  | cons e rest ih =>
    obtain ⟨k, v⟩ := e
    by_cases hk : k = key
    · subst hk
      rw [insertEntry, if_pos rfl] at h
      rcases List.mem_cons.mp h with rfl | h
      · exact .inl rfl
      · exact .inr (List.mem_cons_of_mem _ h)
    · rw [insertEntry, if_neg hk] at h
      rcases List.mem_cons.mp h with rfl | h
      · exact .inr List.mem_cons_self
      · exact (ih h).imp_right (List.mem_cons_of_mem _)

namespace Value

def ofNat (n : Nat) : Value := .number (.int n)

def isNull : Value → Bool
  | .null => true
  | _ => false

def string? : Value → Option String
  | .string s => some s
  | _ => none

mutual

/-- Equality of values. The order of the keys of objects does not count. -/
def same : Value → Value → Bool
  | .null, .null => true
  | .bool a, .bool b => a == b
  | .number a, .number b => a.same b
  | .string a, .string b => a == b
  | .array as, .array bs => sameItems as bs
  | .object as, .object bs => as.length == bs.length && sameEntries as bs
  | _, _ => false

def sameItems : List Value → List Value → Bool
  | [], [] => true
  | a :: as, b :: bs => same a b && sameItems as bs
  | _, _ => false

/-- Every entry of the first list has an equal one in the second. -/
def sameEntries : List (String × Value) → List (String × Value) → Bool
  | [], _ => true
  | (key, a) :: as, bs =>
    (match bs.lookup key with
      | some b => same a b
      | none => false) && sameEntries as bs

end

/-- The word for the kind of a value in messages. -/
def typeName : Value → String
  | .null => "null"
  | .bool _ => "bool"
  | .number _ => "number"
  | .string _ => "string"
  | .array _ => "list"
  | .object _ => "object"

/-- The text of a primitive value that is not null. -/
def primitiveText? : Value → Option String
  | .string s => some s
  | .number n => some n.display
  | .bool true => some "true"
  | .bool false => some "false"
  | _ => none

end Value

end Terrasmith

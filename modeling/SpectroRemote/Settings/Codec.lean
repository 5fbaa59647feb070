import SpectroRemote.Settings.Mismatch

/-!
# Reading and writing settings

A codec knows how values of one type are written as settings and how they are read back. The codec
of a record is put together from those of its fields.

A record is read from a table, with its keys in ascending order, or from a list that gives its
fields in their own order. Unknown keys are ignored, and a field that is not given keeps its value.
-/

namespace SpectroRemote

/-- How values of a type are written and read. -/
structure Codec (α : Type) where
  write : α → Toml.Value
  read : Setting → Except Mismatch α

namespace Codec

variable {α β : Type}

/-- The codec of a type whose values stand for those of another. -/
def map (c : Codec α) (f : α → β) (g : β → α) : Codec β where
  write b := c.write (g b)
  read s := (c.read s).map f

def nearestFloat (n : Int) : Float :=
  if n < 0 then Decimal.ofRank true (Decimal.nearestRank n.natAbs 1)
  else Decimal.ofRank false (Decimal.nearestRank n.natAbs 1)

/-- Reads a text. A single character is a text too. -/
def readText (s : Setting) : Except Mismatch String :=
  match s with
  | .scalar _ (.text t) => .ok t
  | .scalar _ (.letter c) => .ok (String.ofList [c])
  | _ => .error (.wrongKind s "a string")

def text : Codec String := ⟨.text, readText⟩

def flag : Codec Bool where
  write := .boolean
  read s :=
    match s with
    | .scalar _ (.flag b) => .ok b
    | _ => .error (.wrongKind s "a boolean")

/-- The codec of doubles. Integers are read as the doubles nearest to them. -/
def float : Codec Float where
  write := .float
  read s :=
    match s with
    | .scalar _ (.float v) => .ok v
    | .scalar _ (.signed n) => .ok (nearestFloat n)
    | .scalar _ (.unsigned n) => .ok (nearestFloat n)
    | _ => .error (.wrongKind s "f64")

def natural (limit : Nat) (expected : String) : Codec Nat where
  write n := .integer n
  read s :=
    match s with
    | .scalar _ (.signed n) =>
      if 0 ≤ n ∧ n < limit then .ok n.toNat else .error (.outOfRange s expected)
    | .scalar _ (.unsigned n) => if n < limit then .ok n else .error (.outOfRange s expected)
    | _ => .error (.wrongKind s expected)

/-- Reads the items of a list, the first of which has the given index. -/
def readItems (read : Setting → Except Mismatch α) :
    (index : Nat) → List Setting → Except Mismatch (List α)
  | _, [] => .ok []
  | index, s :: rest => do
    let a ← (read s).mapError (.under (toString index))
    return a :: (← readItems read (index + 1) rest)

def list (c : Codec α) : Codec (List α) where
  write items := .array (items.map c.write)
  read s :=
    match s with
    | .list _ items => readItems c.read 0 items
    | _ => .error (.wrongKind s "a sequence")

def readEntries (read : Setting → Except Mismatch α) :
    List (String × Setting) → Except Mismatch (List (String × α))
  | [] => .ok []
  | (key, s) :: rest => do
    let a ← (read s).mapError (.under key)
    return (key, a) :: (← readEntries read rest)

def table (c : Codec α) : Codec (Table α) where
  write t := .table .header (t.entries.map fun (key, a) => (key, c.write a))
  read s :=
    match s with
    | .table _ entries => (readEntries c.read entries).map .ofList
    | _ => .error (.wrongKind s "a map")

/-- The codec of a type with a word for each of its values. In place of a word there may be a table
whose first key is the word, but nothing is allowed as its value. -/
def words (expected : String) (all : List α) (word : α → String) : Codec α where
  write a := .text (word a)
  read s :=
    match s with
    | .scalar source (.text t) =>
      match all.find? fun a => word a = t with
      | some a => .ok a
      | none => .error ⟨.unknownWord t (all.map word), [], source⟩
    | .table _ ((key, v) :: _) =>
      if all.any fun a => word a = key then .error ((Mismatch.wrongKind v "unit").under key)
      else .error ⟨.unknownWord key (all.map word), [key], v.source⟩
    | .table _ [] => .error (.wrongKind s "enum")
    | _ => .error (.wrongKind s ("enum " ++ expected))

end Codec

/-! ### Records -/

structure Field (σ : Type) where
  name : String
  write : σ → Toml.Value
  read : Setting → σ → Except Mismatch σ

namespace Field

variable {σ α : Type}

def of (name : String) (c : Codec α) (get : σ → α) (set : α → σ → σ) : Field σ where
  name
  write s := c.write (get s)
  read v s := (c.read v).map (set · s)

/-- Reads the fields that a table gives. -/
def readKeys (fields : List (Field σ)) : List (String × Setting) → σ → Except Mismatch σ
  | [], s => .ok s
  | (key, v) :: rest, s =>
    match fields.find? fun f => f.name = key with
    | some f => do readKeys fields rest (← (f.read v s).mapError (.under key))
    | none => readKeys fields rest s

/-- Reads fields from the items of a list, the first of which has the given index. -/
def readItems : List (Field σ) → (index : Nat) → List Setting → σ → Except Mismatch σ
  | f :: fields, index, v :: rest, s => do
    readItems fields (index + 1) rest (← (f.read v s).mapError (.under (toString index)))
  | _, _, _, s => .ok s

end Field

/-- The codec of a record with default values for its fields. -/
def Codec.record {σ : Type} (expected : String) (initial : σ) (fields : List (Field σ)) :
    Codec σ where
  write s := .table .header (fields.map fun f => (f.name, f.write s))
  read v :=
    match v with
    | .table _ entries => Field.readKeys fields entries initial
    | .list _ items => Field.readItems fields 0 items initial
    | _ => .error (.wrongKind v ("struct " ++ expected))

end SpectroRemote

/-! # JSON values

    A value is written as a sequence of tokens, and read from one.  Texts are
    of a type of their own: what is written holds strings, while a string
    literal that is read may fail to name a text. -/

namespace ModuleCatalog.Json

/-- A JSON value with texts of type `τ`.  Numbers keep their spelling, and the
    members of an object their order and repeats. -/
inductive Value (τ : Type u) where
  | null
  | bool (value : Bool)
  | number (literal : String)
  | string (text : τ)
  | array (items : List (Value τ))
  | object (members : List (τ × Value τ))

/-- The smallest units of JSON. -/
inductive Token (τ : Type u) where
  | openArray
  | closeArray
  | openObject
  | closeObject
  | comma
  | colon
  | null
  | bool (value : Bool)
  | number (literal : String)
  | string (text : τ)
deriving DecidableEq, Repr

variable {τ : Type u}

mutual

/-- The tokens of a value. -/
def Value.tokens : Value τ → List (Token τ)
  | .null => [.null]
  | .bool value => [.bool value]
  | .number literal => [.number literal]
  | .string text => [.string text]
  | .array items => .openArray :: itemTokens items ++ [.closeArray]
  | .object members => .openObject :: memberTokens members ++ [.closeObject]

/-- The tokens of the items of an array, with commas between them. -/
def itemTokens : List (Value τ) → List (Token τ)
  | [] => []
  | item :: items =>
    item.tokens ++ if items.isEmpty then [] else .comma :: itemTokens items

/-- The tokens of the members of an object, with commas between them. -/
def memberTokens : List (τ × Value τ) → List (Token τ)
  | [] => []
  | (key, value) :: members =>
    .string key :: .colon :: value.tokens ++
      if members.isEmpty then [] else .comma :: memberTokens members

end

end ModuleCatalog.Json

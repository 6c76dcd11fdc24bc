import ModuleCatalog.Json.Lexer

/-! # Reading JSON

    The tokens of a text are read one by one by a machine that keeps the
    arrays and objects which are still open, so a text may nest to any depth.
    `Reader.step` says what one token does. -/

namespace ModuleCatalog.Json

/-- An array or object that is still open; what it holds so far comes last
    first. -/
inductive Frame (τ : Type u) where
  | array (items : List (Value τ))
  | object (members : List (τ × Value τ))
  /-- An object whose next member has its key and lacks its value. -/
  | member (members : List (τ × Value τ)) (key : τ)

/-- What has to come next. -/
inductive Expecting (τ : Type u) where
  /-- A value. -/
  | value
  /-- A value, or the end of an array that holds nothing so far. -/
  | firstItem
  /-- A key, or the end of an object that holds nothing so far. -/
  | firstKey
  /-- A key. -/
  | key
  /-- The colon behind a key. -/
  | colon
  /-- What may stand behind a finished value. -/
  | rest (value : Value τ)

/-- Tokens read up to some place. -/
structure Reader (τ : Type u) where
  frames : List (Frame τ) := []
  expecting : Expecting τ := .value

namespace Reader

variable {τ : Type u}

/-- Read a token where a value has to come. -/
def stepValue (frames : List (Frame τ)) : Token τ → Option (Reader τ)
  | .null => some { frames, expecting := .rest .null }
  | .bool value => some { frames, expecting := .rest (.bool value) }
  | .number literal => some { frames, expecting := .rest (.number literal) }
  | .string text => some { frames, expecting := .rest (.string text) }
  | .openArray => some { frames := .array [] :: frames, expecting := .firstItem }
  | .openObject => some { frames := .object [] :: frames, expecting := .firstKey }
  | .closeArray | .closeObject | .comma | .colon => none

/-- Read a token where a key has to come. -/
def stepKey : List (Frame τ) → Token τ → Option (Reader τ)
  | .object members :: frames, .string key =>
    some { frames := .member members key :: frames, expecting := .colon }
  | _, _ => none

/-- Read a token behind a finished value. -/
def stepRest (value : Value τ) : List (Frame τ) → Token τ → Option (Reader τ)
  | .array items :: frames, .comma =>
    some { frames := .array (value :: items) :: frames, expecting := .value }
  | .array items :: frames, .closeArray =>
    some { frames, expecting := .rest (.array (value :: items).reverse) }
  | .member members key :: frames, .comma =>
    some { frames := .object ((key, value) :: members) :: frames, expecting := .key }
  | .member members key :: frames, .closeObject =>
    some { frames, expecting := .rest (.object ((key, value) :: members).reverse) }
  | _, _ => none

/-- Read one token. -/
def step (r : Reader τ) (token : Token τ) : Option (Reader τ) :=
  match r.expecting with
  | .value => stepValue r.frames token
  | .firstItem =>
    match r.frames, token with
    | .array [] :: frames, .closeArray => some { frames, expecting := .rest (.array []) }
    | frames, token => stepValue frames token
  | .firstKey =>
    match r.frames, token with
    | .object [] :: frames, .closeObject => some { frames, expecting := .rest (.object []) }
    | frames, token => stepKey frames token
  | .key => stepKey r.frames token
  | .colon =>
    match token with
    | .colon => some { r with expecting := .value }
    | _ => none
  | .rest value => stepRest value r.frames token

/-- The value that was read, if it is finished and nothing is open. -/
def finish (r : Reader τ) : Option (Value τ) :=
  match r.frames, r.expecting with
  | [], .rest value => some value
  | _, _ => none

end Reader

/-- The value that a sequence of tokens is the writing of. -/
def Value.ofTokens? {τ : Type u} (tokens : List (Token τ)) : Option (Value τ) :=
  (tokens.foldlM Reader.step {}).bind Reader.finish

/-- Read a text. -/
def read (text : String) : Except Fault (Value LiteralText) :=
  match tokenize? text.toList with
  | none => .error .malformedToken
  | some tokens =>
    match Value.ofTokens? tokens with
    | none => .error .misplacedToken
    | some value => .ok value

end ModuleCatalog.Json

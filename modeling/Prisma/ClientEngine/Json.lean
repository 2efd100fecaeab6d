import Mathlib.Data.List.Basic

/-! JavaScript values as the client engine observes them: the values `JSON.parse` builds, the
`String(...)` conversion that a template literal and `JSON.parse` apply to their argument, and a
named property read, which throws on `null` and `undefined`. -/

namespace Prisma.ClientEngine.Json

mutual
/-- A JavaScript value without functions or symbols. A number keeps the text it was written with. -/
inductive JsValue where
  | undefined
  | null
  | bool (value : Bool)
  | number (text : String)
  | string (value : String)
  | array (items : JsItems)
  | object (entries : JsEntries)

inductive JsItems where
  | nil
  | cons (head : JsValue) (tail : JsItems)

/-- Own properties in insertion order, each key at most once. -/
inductive JsEntries where
  | nil
  | cons (key : String) (value : JsValue) (tail : JsEntries)
end

deriving instance DecidableEq for JsValue, JsItems, JsEntries

def JsEntries.find? (key : String) : JsEntries → Option JsValue
  | .nil => none
  | .cons k v rest => if k = key then some v else rest.find? key

/-- `object[key] = value`: an existing key keeps its place and takes the new value. -/
def JsEntries.set (key : String) (value : JsValue) : JsEntries → JsEntries
  | .nil => .cons key value .nil
  | .cons k v rest => if k = key then .cons k value rest else .cons k v (rest.set key value)

/-- `Object.entries(object)`. -/
def JsEntries.toList : JsEntries → List (String × JsValue)
  | .nil => []
  | .cons k v rest => (k, v) :: rest.toList

/-- `Object.fromEntries(entries)`. -/
def fromEntries (entries : List (String × JsValue)) : JsEntries :=
  entries.foldl (fun object (k, v) => object.set k v) .nil

/-- `value[key]` for a named key other than `length`; `none` is the TypeError of reading a
property of `null` or `undefined`. -/
def JsValue.get? : JsValue → String → Option JsValue
  | .undefined, _ => none
  | .null, _ => none
  | .object entries, key => some ((entries.find? key).getD .undefined)
  | _, _ => some .undefined

mutual
/-- `String(value)`, also what `${value}` inserts; an array is joined by `Array.prototype.join`. -/
def JsValue.toJsString : JsValue → String
  | .undefined => "undefined"
  | .null => "null"
  | .bool b => if b then "true" else "false"
  | .number text => text
  | .string s => s
  | .array items => items.join
  | .object _ => "[object Object]"

def JsItems.join : JsItems → String
  | .nil => ""
  | .cons v rest =>
    let first := match v with
      | .undefined => ""
      | .null => ""
      | _ => v.toJsString
    match rest with
    | .nil => first
    | _ => first ++ "," ++ rest.join
end

/-- Truthiness of a string that may be `undefined`: the empty string is falsy. -/
def truthy : Option String → Bool
  | some value => value != ""
  | none => false

/-! ### `JSON.parse`

The grammar of ECMA-404 over the characters of the text. The fuel bounds the nesting depth and the
number of elements of one array or object; `jsonParse` gives one more than the length of the
text, which no accepted text reaches. -/

def isWs (c : Char) : Bool := c = ' ' || c = '\t' || c = '\n' || c = '\r'

def hexDigit? (c : Char) : Option Nat :=
  if '0' ≤ c ∧ c ≤ '9' then some (c.toNat - '0'.toNat)
  else if 'a' ≤ c ∧ c ≤ 'f' then some (c.toNat - 'a'.toNat + 10)
  else if 'A' ≤ c ∧ c ≤ 'F' then some (c.toNat - 'A'.toNat + 10)
  else none

/-- The body of a string literal after its opening quote, with the characters read so far in
reverse. An unescaped control character is rejected. -/
def parseString : List Char → List Char → Option (String × List Char)
  | [], _ => none
  | '"' :: rest, acc => some (String.mk acc.reverse, rest)
  | '\\' :: e :: rest, acc =>
    match e with
    | '"' => parseString rest ('"' :: acc)
    | '\\' => parseString rest ('\\' :: acc)
    | '/' => parseString rest ('/' :: acc)
    | 'b' => parseString rest (Char.ofNat 8 :: acc)
    | 'f' => parseString rest (Char.ofNat 12 :: acc)
    | 'n' => parseString rest ('\n' :: acc)
    | 'r' => parseString rest ('\r' :: acc)
    | 't' => parseString rest ('\t' :: acc)
    | 'u' =>
      match rest with
      | a :: b :: c :: d :: rest =>
        match hexDigit? a, hexDigit? b, hexDigit? c, hexDigit? d with
        | some a, some b, some c, some d =>
          parseString rest (Char.ofNat (((a * 16 + b) * 16 + c) * 16 + d) :: acc)
        | _, _, _, _ => none
      | _ => none
    | _ => none
  | c :: rest, acc => if c.toNat < 32 then none else parseString rest (c :: acc)

def parseExponent : List Char → Option (List Char × List Char)
  | e :: rest =>
    if e = 'e' ∨ e = 'E' then
      let (sign, rest) := match rest with
        | '+' :: more => (['+'], more)
        | '-' :: more => (['-'], more)
        | _ => ([], rest)
      let (ds, rest) := rest.span Char.isDigit
      if ds.isEmpty then none else some (e :: sign ++ ds, rest)
    else some ([], e :: rest)
  | [] => some ([], [])

/-- `-? (0 | [1-9][0-9]*) (. [0-9]+)? ([eE] [+-]? [0-9]+)?`, returning the text read. -/
def parseNumber (cs : List Char) : Option (List Char × List Char) := do
  let (sign, cs) := match cs with
    | '-' :: rest => (['-'], rest)
    | _ => ([], cs)
  let (int, cs) ← match cs with
    | '0' :: rest => some (['0'], rest)
    | c :: _ => if c.isDigit then some (cs.span Char.isDigit) else none
    | [] => none
  let (frac, cs) ← match cs with
    | '.' :: rest =>
      let (ds, rest) := rest.span Char.isDigit
      if ds.isEmpty then none else some ('.' :: ds, rest)
    | _ => some ([], cs)
  let (exp, cs) ← parseExponent cs
  return (sign ++ int ++ frac ++ exp, cs)

def parseItems (value : List Char → Option (JsValue × List Char)) :
    Nat → List Char → Option (JsItems × List Char)
  | 0, _ => none
  | fuel + 1, cs =>
    match value cs with
    | some (v, rest) =>
      match rest.dropWhile isWs with
      | ',' :: rest => (parseItems value fuel rest).map fun (items, rest) => (.cons v items, rest)
      | ']' :: rest => some (.cons v .nil, rest)
      | _ => none
    | none => none

/-- Members of an object; a repeated key keeps its first place and its last value. -/
def parseMembers (value : List Char → Option (JsValue × List Char)) :
    Nat → List Char → JsEntries → Option (JsEntries × List Char)
  | 0, _, _ => none
  | fuel + 1, cs, acc =>
    match cs.dropWhile isWs with
    | '"' :: rest =>
      match parseString rest [] with
      | some (key, rest) =>
        match rest.dropWhile isWs with
        | ':' :: rest =>
          match value rest with
          | some (v, rest) =>
            match rest.dropWhile isWs with
            | ',' :: rest => parseMembers value fuel rest (acc.set key v)
            | '}' :: rest => some (acc.set key v, rest)
            | _ => none
          | none => none
        | _ => none
      | none => none
    | _ => none

def parseValue : Nat → List Char → Option (JsValue × List Char)
  | 0, _ => none
  | fuel + 1, cs =>
    match cs.dropWhile isWs with
    | 'n' :: 'u' :: 'l' :: 'l' :: rest => some (.null, rest)
    | 't' :: 'r' :: 'u' :: 'e' :: rest => some (.bool true, rest)
    | 'f' :: 'a' :: 'l' :: 's' :: 'e' :: rest => some (.bool false, rest)
    | '"' :: rest => (parseString rest []).map fun (s, rest) => (.string s, rest)
    | '[' :: rest =>
      match rest.dropWhile isWs with
      | ']' :: rest => some (.array .nil, rest)
      | _ => (parseItems (parseValue fuel) fuel rest).map fun (items, rest) => (.array items, rest)
    | '{' :: rest =>
      match rest.dropWhile isWs with
      | '}' :: rest => some (.object .nil, rest)
      | _ => (parseMembers (parseValue fuel) fuel rest .nil).map fun (entries, rest) => (.object entries, rest)
    | cs => (parseNumber cs).map fun (text, rest) => (.number (String.mk text), rest)

/-- `JSON.parse(text)`; `none` is the SyntaxError it throws. -/
def jsonParse (text : String) : Option JsValue :=
  match parseValue (text.length + 1) text.toList with
  | some (v, rest) => if rest.all isWs then some v else none
  | none => none

/-- No JSON text starts with `P`, and the text of every error class of the client starts with
`Prisma`: this sends them back to the pass-through branch of the error transforms. -/
theorem jsonParse_prisma (rest : List Char) : jsonParse (String.mk ('P' :: rest)) = none := rfl

example : jsonParse "\x7b\"message\": \"a\", \"backtrace\": [1, null, 2]\x7d" =
    some (.object (.cons "message" (.string "a")
      (.cons "backtrace" (.array (.cons (.number "1") (.cons .null (.cons (.number "2") .nil)))) .nil))) := by
  decide

end Prisma.ClientEngine.Json

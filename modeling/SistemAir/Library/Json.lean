import SistemAir.Library.Decimal

/-! JSON values and the text that an encoder with escaped slashes and ASCII output
gives them. -/
namespace JsonText

inductive Json
  | null
  | bool (value : Bool)
  | number (value : Decimal)
  | string (text : String)
  | array (items : List Json)
  | object (fields : List (String × Json))

def hex4 (n : Nat) : List Char :=
  [n / 4096 % 16, n / 256 % 16, n / 16 % 16, n % 16].map Nat.digitChar

def unicodeEscape (n : Nat) : List Char := '\\' :: 'u' :: hex4 n

/-- A character above the first plane is written as a surrogate pair. -/
def escapeChar (c : Char) : List Char :=
  if c = '"' then ['\\', '"']
  else if c = '\\' then ['\\', '\\']
  else if c = '/' then ['\\', '/']
  else if c = '\n' then ['\\', 'n']
  else if c = '\r' then ['\\', 'r']
  else if c = '\t' then ['\\', 't']
  else if c = '\x08' then ['\\', 'b']
  else if c = '\x0c' then ['\\', 'f']
  else if 32 ≤ c.toNat ∧ c.toNat < 128 then [c]
  else if c.toNat < 65536 then unicodeEscape c.toNat
  else
    unicodeEscape (55296 + (c.toNat - 65536) / 1024) ++
      unicodeEscape (56320 + (c.toNat - 65536) % 1024)

def quote (s : String) : List Char := '"' :: s.toList.flatMap escapeChar ++ ['"']

mutual

def Json.encode : Json → List Char
  | .null => ['n', 'u', 'l', 'l']
  | .bool true => ['t', 'r', 'u', 'e']
  | .bool false => ['f', 'a', 'l', 's', 'e']
  | .number value => value.text.toList
  | .string text => quote text
  | .array items => '[' :: encodeItems items ++ [']']
  | .object fields => '\x7b' :: encodeFields fields ++ ['\x7d']

def encodeItems : List Json → List Char
  | [] => []
  | [item] => item.encode
  | item :: next :: rest => item.encode ++ ',' :: encodeItems (next :: rest)

def encodeFields : List (String × Json) → List Char
  | [] => []
  | [(name, value)] => quote name ++ ':' :: value.encode
  | (name, value) :: next :: rest =>
    quote name ++ ':' :: value.encode ++ ',' :: encodeFields (next :: rest)

end

/-- An ordered map whose keys are 0, 1, ... in this order is written as a list. -/
def ofMap (entries : List (String × Json)) : Json :=
  if entries.map Prod.fst = (List.range entries.length).map toString then
    .array (entries.map Prod.snd)
  else .object entries

end JsonText

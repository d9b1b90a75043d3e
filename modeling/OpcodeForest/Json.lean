/-!
# JSON documents

Documents with their fields in order, written on one line or over several.
-/

namespace OpcodeForest

mutual

inductive Json where
  | bool (value : Bool)
  | number (value : Nat)
  | text (value : String)
  | list (items : List Json)
  | object (fields : List JsonField)

structure JsonField where
  key : String
  value : Json

end

namespace Json

/-- A character inside quotes. -/
def escape (c : Char) : String :=
  if c = '"' then "\\\""
  else if c = '\\' then "\\\\"
  else if c = '\n' then "\\n"
  else if c = '\r' then "\\r"
  else if c = '\t' then "\\t"
  else if c = '\x08' then "\\b"
  else if c = '\x0c' then "\\f"
  else if c.toNat < 32 then
    "\\u00" ++ String.ofList [Nat.digitChar (c.toNat / 16), Nat.digitChar (c.toNat % 16)]
  else c.toString

def quoted (s : String) : String := "\"" ++ String.join (s.toList.map escape) ++ "\""

def boolText (b : Bool) : String := if b then "true" else "false"

/-! ### On one line -/

mutual

/-- Without any blanks. -/
def compact : Json → String
  | bool b => boolText b
  | number n => toString n
  | text s => quoted s
  | list xs => "[" ++ ",".intercalate (compactItems xs) ++ "]"
  | object fs => "\x7b" ++ ",".intercalate (compactFields fs) ++ "\x7d"

def compactItems : List Json → List String
  | [] => []
  | x :: xs => x.compact :: compactItems xs

def compactFields : List JsonField → List String
  | [] => []
  | ⟨key, value⟩ :: fs => (quoted key ++ ":" ++ value.compact) :: compactFields fs

end

/-! ### Over several lines -/

/-- The start of a line at `depth`. -/
def newline (depth : Nat) : String := "\n" ++ String.ofList (List.replicate (2 * depth) ' ')

/-- Parts between brackets, one on each line unless there are none. -/
def block (depth : Nat) (opening closing : String) : List String → String
  | [] => opening ++ closing
  | parts =>
      opening ++ newline (depth + 1) ++ ("," ++ newline (depth + 1)).intercalate parts
        ++ newline depth ++ closing

mutual

/-- Indented by two blanks for each level. -/
def pretty (depth : Nat) : Json → String
  | bool b => boolText b
  | number n => toString n
  | text s => quoted s
  | list xs => block depth "[" "]" (prettyItems (depth + 1) xs)
  | object fs => block depth "\x7b" "\x7d" (prettyFields (depth + 1) fs)

def prettyItems (depth : Nat) : List Json → List String
  | [] => []
  | x :: xs => x.pretty depth :: prettyItems depth xs

def prettyFields (depth : Nat) : List JsonField → List String
  | [] => []
  | ⟨key, value⟩ :: fs =>
      (quoted key ++ ": " ++ value.pretty depth) :: prettyFields depth fs

end

end Json

end OpcodeForest

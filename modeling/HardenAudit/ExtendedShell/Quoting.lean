import HardenAudit.ExtendedShell.Syntax

/-!
# Texts in quotes

Ways to write a text so that it reads as itself.
-/

namespace HardenAudit.ExtendedShell.Quoting

/-- A text in single quotes; a single quote itself stands behind a backslash. -/
def single (text : String) : String :=
  if text == "\x27" then "\\\x27"
  else "\x27" ++ String.join (text.toList.map fun c => if c == '\x27' then "\x27\\\x27\x27" else c.toString)
    ++ "\x27"

/-- A text in double quotes. -/
def double (text : String) : String :=
  "\"" ++ String.join (text.toList.map fun c =>
    if c == '"' || c == '\\' || c == '$' || c == '\x60' then "\\" ++ c.toString else c.toString) ++ "\""

/-- Has the text characters that cannot be shown? -/
def isUnprintable (text : String) : Bool :=
  text.toList.any fun c => c.toNat < 32 || c.toNat ≥ 127

/-- So many octal digits. -/
def octal (n : Nat) : String :=
  let ds := Nat.toDigits 8 n
  String.ofList (List.replicate (3 - ds.length) '0' ++ ds)

/-- A text in quotes behind a dollar. -/
def dollar (text : String) : String :=
  "$\x27" ++ String.join (text.toList.map fun c =>
    match c.toNat with
    | 7 => "\\a"
    | 8 => "\\b"
    | 27 => "\\E"
    | 12 => "\\f"
    | 10 => "\\n"
    | 13 => "\\r"
    | 9 => "\\t"
    | 11 => "\\v"
    | 92 => "\\\\"
    | 39 => "\\\x27"
    | n => if n < 32 || n ≥ 127 then "\\" ++ octal n else c.toString) ++ "\x27"

/-- Characters that have a meaning outside of quotes wherever they stand. -/
def isMeta (c : Char) : Bool := " \t\n\x27\"\\|&;()<>!\x7b\x7d*[]?^$\x60".toList.contains c

/-- Would the text be taken for something else outside of quotes? -/
def needsQuotes (text : String) : Bool :=
  let cs := text.toList
  cs.any isMeta
    || cs.head? == some '~' || cs.head? == some '#'
    || (cs.zip (cs.drop 1)).any fun e => (e.1 == ':' || e.1 == '=') && e.2 == '~'

/-- A text with backslashes before characters that have a meaning. -/
def backslashed (text : String) : String :=
  match text.toList with
  | [] => "\x27\x27"
  | cs =>
    if isUnprintable text then dollar text
    else
      String.join (cs.zipIdx.map fun (c, i) =>
        if isMeta c || c == ',' || ((c == '~' || c == '#') && i == 0) then "\\" ++ c.toString
        else c.toString)

/-- A text that can be used as input again. -/
def reusable (text : String) : String := if isUnprintable text then dollar text else single text

/-- The value of a variable in a declaration. -/
def declared (text : String) : String := if isUnprintable text then dollar text else double text

/-- A text in quotes only if it needs them. -/
def whenNeeded (text : String) : String :=
  if text == "" then "\x27\x27"
  else if isUnprintable text then dollar text
  else if needsQuotes text then single text
  else text

/-- The value of a variable in a list of variables. -/
def listed (text : String) : String := if text == "" then "" else whenNeeded text

end HardenAudit.ExtendedShell.Quoting

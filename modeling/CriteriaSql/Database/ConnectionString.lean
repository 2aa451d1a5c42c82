import CriteriaSql.Bytes
import CriteriaSql.Text.Blank
import CriteriaSql.Text.Digits
import CriteriaSql.Text.Hex

/-!
# Connection strings

How to reach a database, written as a list of settings or as a URL. Both forms come down to settings
by name, each of which has its own admissible texts.

* `settings?`: the settings of a list.
* `url?`: the settings of a URL.
* `isValid`: whether a text is a connection string.
-/

namespace CriteriaSql.ConnectionString

open CriteriaSql.Text

/-! ## Settings -/

/-- A name with its text. -/
abbrev Setting := String × String

/-- Reads an address of four numbers below 256. -/
def isAddress4 (cs : List Char) : Bool :=
  let parts := cs.splitOn '.'
  parts.length = 4 && parts.all fun p =>
    p.length ≤ 3 && (p.length = 1 || p.head? ≠ some '0') &&
      ((natural? p).filter (· < 256)).isSome

/-- Whether parts are groups of an address, one to four hexadecimal digits each; the last part may
be an address of four numbers, which counts twice. -/
def groupCount? (parts : List (List Char)) : Option Nat :=
  match parts.reverse with
  | [] => some 0
  | last :: before =>
    let isGroup (p : List Char) : Bool := 1 ≤ p.length && p.length ≤ 4 && (hexNumber? p).isSome
    if before.all isGroup then
      if isGroup last then some parts.length
      else if isAddress4 last then some (parts.length + 1)
      else none
    else none

/-- The parts of a text between colons, none for the empty text. -/
def colonParts (cs : List Char) : List (List Char) :=
  if cs.isEmpty then [] else cs.splitOn ':'

/-- Splits a text at the first pair of colons. -/
def splitDoubleColon : List Char → Option (List Char × List Char)
  | [] => none
  | ':' :: ':' :: rest => some ([], rest)
  | c :: rest => (splitDoubleColon rest).map fun (a, b) => (c :: a, b)

/-- Reads an address of eight groups, of which a pair of colons may stand for one or more. -/
def isAddress6 (cs : List Char) : Bool :=
  match splitDoubleColon cs with
  | none => groupCount? (colonParts cs) = some 8
  | some (front, back) =>
    match groupCount? (colonParts front), groupCount? (colonParts back) with
    | some m, some n => m + n < 8 && !front.contains '.'
    | _, _ => false

/-- The admissible texts of a setting. -/
inductive Form where
  | any
  | oneOf (words : List String)
  | ports
  | addresses
  | signed
  | below (bound : Nat)

/-- Whether a text has a form. Ports and addresses are lists with commas; a port may be left out. -/
def Form.admits (text : String) : Form → Bool
  | .any => true
  | .oneOf words => words.contains text
  | .ports => (text.toList.splitOn ',').all fun p => p.isEmpty || (below? UInt16.size p).isSome
  | .addresses => (text.toList.splitOn ',').all fun a => isAddress4 a || isAddress6 a
  | .signed => (int64? text.toList).isSome
  | .below bound => (below? bound text.toList).isSome

/-- The known settings. -/
def forms : List (String × Form) :=
  [("user", .any), ("password", .any), ("dbname", .any), ("options", .any),
    ("application_name", .any), ("sslmode", .oneOf ["disable", "prefer", "require"]),
    ("sslnegotiation", .oneOf ["postgres", "direct"]), ("host", .any), ("hostaddr", .addresses),
    ("port", .ports), ("connect_timeout", .signed), ("tcp_user_timeout", .signed),
    ("keepalives", .below UInt64.size), ("keepalives_idle", .signed),
    ("keepalives_interval", .signed), ("keepalives_retries", .below UInt32.size),
    ("target_session_attrs", .oneOf ["any", "read-write", "read-only"]),
    ("channel_binding", .oneOf ["disable", "prefer", "require"]),
    ("load_balance_hosts", .oneOf ["disable", "random"])]

/-- Whether a setting is known and its text admissible. -/
def admits (s : Setting) : Bool :=
  match forms.lookup s.1 with
  | some form => form.admits s.2
  | none => false

/-! ## Lists of settings -/

/-- Reads a text up to a blank; a backslash takes the next character as it is. -/
def bare : List Char → List Char × List Char
  | [] => ([], [])
  | ['\\'] => ([], [])
  | '\\' :: c :: rest => let (cs, rest) := bare rest; (c :: cs, rest)
  | c :: rest => if isBlank c then ([], c :: rest) else let (cs, rest) := bare rest; (c :: cs, rest)

/-- Reads a text up to its closing quote. -/
def quoted? : List Char → Option (List Char × List Char)
  | [] => none
  | ['\\'] => none
  | '\'' :: rest => some ([], rest)
  | '\\' :: c :: rest => (quoted? rest).map fun (cs, rest) => (c :: cs, rest)
  | c :: rest => (quoted? rest).map fun (cs, rest) => (c :: cs, rest)

/-- Reads the text of a setting, which is quoted or not empty. -/
def text? : List Char → Option (List Char × List Char)
  | '\'' :: rest => quoted? rest
  | cs => let (value, rest) := bare cs; if value.isEmpty then none else some (value, rest)

/-- The settings of a list: names and texts with an equals sign between them. The list ends where no
name follows. -/
def settings? (fuel : Nat) (cs : List Char) : Option (List Setting) :=
  match fuel with
  | 0 => none
  | fuel + 1 =>
    let cs := trimStart cs
    let (name, rest) := cs.span fun c => !isBlank c && c != '='
    if name.isEmpty then some []
    else
      match trimStart rest with
      | '=' :: rest =>
        match text? (trimStart rest) with
        | some (value, rest) =>
          (settings? fuel rest).map ((String.ofList name, String.ofList value) :: ·)
        | none => none
      | _ => none

/-! ## URLs -/

/-- The schemes of a URL. -/
def schemes : List String := ["postgres://", "postgresql://"]

/-- What follows the scheme of a URL. -/
def afterScheme? (cs : List Char) : Option (List Char) :=
  (schemes.find? fun s => s.toList.isPrefixOf cs).map fun s => cs.drop s.length

/-- The bytes of a text, with a percent sign and two digits standing for a byte. -/
def unescape : List Char → Bytes
  | [] => []
  | '%' :: a :: b :: rest =>
    match hexNumber? [a, b] with
    | some n => UInt8.ofNat n :: unescape rest
    | none => Bytes.ofText "%" ++ unescape (a :: b :: rest)
  | c :: rest => Bytes.ofText (String.ofList [c]) ++ unescape rest

/-- The text of an escaped part. -/
def part? (cs : List Char) : Option String :=
  Bytes.toText? (unescape cs)

/-- Splits before the first character that ends a part. -/
def upTo (ends : List Char) (cs : List Char) : List Char × List Char :=
  cs.span fun c => !ends.contains c

/-- The settings of a host's name. One that starts with a slash is a path, of any bytes. -/
def hostName? (cs : List Char) : Option (List Setting) :=
  if (unescape cs).head? = some 0x2F then some [] else (part? cs).map fun name => [("host", name)]

/-- The settings of a host with or without a port; a host in brackets may hold colons. -/
def host? (cs : List Char) : Option (List Setting) := do
  let (host, port) ←
    match cs with
    | '[' :: rest =>
      match rest.span (· != ']') with
      | (host, ']' :: ':' :: port) => some (host, port)
      | (host, [']']) => some (host, "5432".toList)
      | _ => none
    | cs =>
      match cs.span (· != ':') with
      | (host, ':' :: port) => some (host, port)
      | (host, _) => some (host, "5432".toList)
  return (← hostName? host) ++ [("port", ← part? port)]

/-- The settings of a named parameter. -/
def parameter? (name : String) (cs : List Char) : Option (List Setting) :=
  if name = "host" then hostName? cs else (part? cs).map fun text => [(name, text)]

/-- The settings after the question mark of a URL. -/
def parameters? (fuel : Nat) (cs : List Char) : Option (List Setting) :=
  match fuel, cs with
  | _, [] => some []
  | 0, _ => none
  | fuel + 1, cs =>
    match upTo ['='] cs with
    | (name, _ :: rest) =>
      let (value, rest) := upTo ['&'] rest
      match (part? name).bind (parameter? · value), parameters? fuel (rest.drop 1) with
      | some settings, some more => some (settings ++ more)
      | _, _ => none
    | (_, []) => none

/-- The settings of a URL after its scheme. -/
def url? (cs : List Char) : Option (List Setting) := do
  let (user, rest) :=
    match upTo ['@'] cs with
    | (user, _ :: rest) => (some user, rest)
    | (_, []) => (none, cs)
  let user ←
    match user with
    | some user => (part? (upTo [':'] user).1).map fun name => [("user", name)]
    | none => some []
  let (hosts, rest) := upTo ['/', '?'] rest
  let hosts ← if hosts.isEmpty then some [] else (hosts.splitOn ',').mapM host?
  let (database, rest) :=
    match rest with
    | '/' :: rest => upTo ['?'] rest
    | rest => ([], rest)
  let database ← (part? database).map fun name => [("dbname", name)]
  let parameters ← parameters? rest.length (rest.drop 1)
  return user ++ hosts.flatten ++ database ++ parameters

/-! ## Either form -/

/-- The settings of a connection string. -/
def read? (text : String) : Option (List Setting) :=
  let cs := text.toList
  match afterScheme? cs with
  | some rest => url? rest
  | none => settings? (cs.length + 1) cs

/-- Whether a text is a connection string with known settings only. -/
def isValid (text : String) : Bool :=
  match read? text with
  | some settings => settings.all admits
  | none => false

end CriteriaSql.ConnectionString

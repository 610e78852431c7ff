import DeskComputer.Codec

/-!
# Codecs by name

The codecs for UTF-8, Latin-1 and ASCII, by all of their names.
-/

namespace DeskComputer.Host

open Text (Encoding)

/-- A name of an encoding in the form in which names are compared: lower case, and one underscore
for every run of other characters between ASCII letters, digits and points. -/
def encodingKey (name : String) : String :=
  String.ofList (go false false name.toList)
where
  /-- `started` and `gap` say whether a letter and, after it, another character came before. -/
  go (started gap : Bool) : List Char → List Char
    | [] => []
    | c :: rest =>
      if c.isAlphanum || c = '.' then
        (if gap && started then ['_'] else []) ++ c.toLower :: go true false rest
      else go started true rest

def encodingKeys : List (String × Encoding) :=
  [("utf_8", .utf8), ("latin_1", .latin1), ("ascii", .ascii)]

def encodingAliases : List (String × Encoding) :=
  ["utf8", "u8", "utf", "utf8_ucs2", "utf8_ucs4", "cp65001"].map (·, .utf8) ++
  ["latin1", "latin", "l1", "iso8859", "iso8859_1", "iso_8859_1", "8859", "cp819",
    "iso_8859_1_1987", "iso_ir_100", "csisolatin1", "ibm819"].map (·, .latin1) ++
  ["us_ascii", "us", "646", "ansi_x3.4_1968", "ansi_x3_4_1968", "ansi_x3.4_1986", "cp367",
    "csascii", "ibm367", "iso646_us", "iso_646.irv_1991", "iso_ir_6"].map (·, .ascii)

/-- The encoding of a name. In an alias, points may stand for underscores. -/
def encodingOf? (name : String) : Option Encoding :=
  let key := encodingKey name
  let joined := key.map fun c => if c = '.' then '_' else c
  (encodingAliases.lookup key).or ((encodingAliases.lookup joined).or (encodingKeys.lookup key))

/-- The codec of a name, which cannot hold the character zero. -/
def codecs : Codecs := fun name =>
  if name.contains '\x00' then .error (.codecOwn "ValueError" "embedded null character")
  else
    match encodingOf? name with
    | some encoding => .ok (.ofEncoding encoding)
    | none => .error (.codecOwn "LookupError" ("unknown encoding: " ++ name))

end DeskComputer.Host

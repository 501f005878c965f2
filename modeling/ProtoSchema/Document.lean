import ProtoSchema.Catalog

/-!
# Schema documents

A canonical catalog is written as a proto3 document: a head with the package and
its imports, then a block for each enumeration and each message. The document is
a list of lines, and each block is set off by an empty line.
-/

namespace ProtoSchema.Document

/-- What a document's text depends on besides the catalog: the text in front of the
package path in its package option. -/
structure Options where
  packageOptionStart : String
deriving Repr, DecidableEq

/-- Package options start with `proto/` unless something else is asked for. -/
def Options.standard : Options where
  packageOptionStart := "proto/"

/-- The file that a catalog's document goes to. -/
def fileName (catalog : Catalog) : String :=
  catalog.name ++ ".proto"

/-- The name of the zero value that an enumeration without one receives. The
spelling is part of every document written so far. -/
def defaultValueName : String :=
  "UNKOWN"

/-- The members of an enumeration as the document lists them, the added zero value
first. -/
def enumMembers (enumeration : Enumeration) : List (String × Int) :=
  (if enumeration.missingDefault then [(defaultValueName, 0)] else [])
    ++ enumeration.values.map fun value => (value.name, value.value)

/-- The line of an enum member. -/
def enumMemberLine (member : String × Int) : String :=
  "  " ++ member.1 ++ " = " ++ toString member.2 ++ ";"

/-- The block of an enumeration. -/
def enumBlock (enumeration : Enumeration) : List String :=
  ["enum " ++ enumeration.name ++ " \x7b"]
    ++ (if enumeration.allowAlias then ["  option allow_alias = true;"] else [])
    ++ (enumMembers enumeration).map enumMemberLine
    ++ ["\x7d"]

/-- The line of a field. A repeated field has no wire name of its own. -/
def fieldLine (field : Field) : String :=
  let core := field.typeName ++ " " ++ field.name ++ " = " ++ toString field.order
  if field.isRepeated then "  repeated " ++ core ++ ";"
  else
    match field.jsonName with
    | some jsonName => "  " ++ core ++ " [json_name=\"" ++ jsonName ++ "\"];"
    | none => "  " ++ core ++ ";"

/-- The block of a message. -/
def messageBlock (message : Message) : List String :=
  ["message " ++ message.name ++ " \x7b"] ++ message.fields.map fieldLine ++ ["\x7d"]

/-- The head of a document. -/
def head (options : Options) (catalog : Catalog) : List String :=
  ["syntax = \"proto3\";",
    "package " ++ catalog.name ++ ";",
    "",
    "option go_package = \"" ++ options.packageOptionStart ++ catalog.path ++ "\";"]
    ++ catalog.imports.map fun package => "import \"" ++ package ++ ".proto\";"

/-- The blocks of a document: enumerations, then messages. -/
def blocks (catalog : Catalog) : List (List String) :=
  catalog.enums.values.map enumBlock ++ catalog.messages.map messageBlock

/-- The lines of a document. -/
def lines (options : Options) (catalog : Catalog) : List String :=
  head options catalog ++ (blocks catalog).flatMap ("" :: ·)

/-- The text of a document, each line with its line break. -/
def render (options : Options) (catalog : Catalog) : String :=
  String.join ((lines options catalog).map (· ++ "\n"))

end ProtoSchema.Document

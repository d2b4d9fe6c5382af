/-!
# Generated names

The names that documents declare. A variable is named after the position of its
root field, its table and its slot; a fragment after its table, preceded by the
length of the table's name in bytes so that the table can be told from the
discriminator.
-/

namespace GraphBatch.GeneratedName

def forVariable (index : Nat) (table slot : String) : String :=
  "v" ++ toString index ++ "_" ++ table ++ "_" ++ slot

def forFragment (table discriminator : String) : String :=
  let length := toString table.utf8ByteSize
  if discriminator.isEmpty then "f" ++ length ++ "_" ++ table ++ "_fields"
  else "f" ++ length ++ "_" ++ table ++ "_" ++ discriminator ++ "_fields"

/-- Whether a character may stand in a discriminator: a letter or digit of ASCII,
or an underscore. -/
def isNamePart (char : Char) : Bool :=
  char = '_' || char.isAlphanum

/-- Whether a text may distinguish fragments. -/
def isDiscriminator (text : String) : Bool :=
  text.toList.all isNamePart

def forOperation (names : List String) : String :=
  String.intercalate "_" names

end GraphBatch.GeneratedName
